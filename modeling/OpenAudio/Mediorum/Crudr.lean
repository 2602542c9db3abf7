import OpenAudio.Core.Content

/-!
# The operation log of a storage node

A storage node changes its tables by operations, each of them a batch of records to create, update
or delete. An operation is stored and its records are written in one transaction. Some records gorm
refuses before it sends anything, which leaves the transaction as it was; what the database refuses
aborts it, and then the commit fails, too.
-/

namespace OpenAudio.Mediorum

open OpenAudio.Core Prog

/-! ### Records and tables -/

/-- A column of a primary key. A time is in nanoseconds. -/
inductive KeyColumn where
  | text (value : String)
  | time (nanos : Int)
deriving DecidableEq

def zeroTime : Int := -62135596800 * 10 ^ 9

namespace KeyColumn

/-- `IsZero` of the Go value -/
def isZero : KeyColumn → Bool
  | text value => value == ""
  | time nanos => nanos == zeroTime

def stored : KeyColumn → KeyColumn
  | text value => text value
  | time nanos => time (nanos / 1000 * 1000)

def nulFree : KeyColumn → Bool
  | text value => decide (NulFree value)
  | time _ => true

end KeyColumn

/-- A record of a model: its primary key, its other texts, and the rest as the database holds it. -/
structure Record where
  key : List KeyColumn
  texts : List String
  rest : Bytes
deriving DecidableEq

instance : LawfulBEq (List KeyColumn) := inferInstance

instance : LawfulBEq (Option Record) := inferInstance

namespace Record

variable (r : Record)

def zeroKey : Bool := r.key.all KeyColumn.isZero

def storedKey : List KeyColumn := r.key.map KeyColumn.stored

def nulFreeKey : Bool := r.key.all KeyColumn.nulFree

def nulFree : Bool := r.nulFreeKey && r.texts.all fun text => decide (NulFree text)

end Record

/-- A row of `ops`. -/
structure OpRow where
  host : PgText
  action : PgText
  table : PgText
  data : Bytes
  coreTxHash : PgText
  coreTxStatus : PgText
deriving DecidableEq

/-- The tables of the models, each row under its table and primary key. -/
abbrev Models := Table (String × List KeyColumn) Record

/-- The database of a storage node: the operations, the models, and the height the syncer has
reached. -/
structure MediorumDb where
  ops : Table PgText OpRow := ∅
  models : Models := ∅
  cursor : Option Int := none

/-- `crudr.Op` -/
structure Op where
  ulid : String
  host : String
  action : String
  table : String
  data : Bytes
  transient : Bool := false
  coreTxHash : String := ""
  coreTxStatus : String := ""

/-- A row of an upload as a check for retries reads it. -/
structure RetryRow where
  status : String
  errorCount : Int
  result320 : String

/-- A storage node: the host it is, and the libraries it calls. -/
structure Crudr where
  host : String
  /-- `json.Unmarshal` into a slice of pointers to the model of a table; `none` is a nil pointer -/
  decodeModels : String → Bytes → Except String (List (Option Record))
  /-- `json.Unmarshal` into a slice of `RetryRow` -/
  decodeRetries : Bytes → Option (List RetryRow)
  /-- why the database refuses a row of a table, apart from U+0000 in a text -/
  rowError : String → Record → Option String
  /-- why the database refuses a text as `jsonb` -/
  jsonbError : Bytes → Option String
  /-- the bytes as `%s` prints them -/
  rawText : Bytes → String

/-- How a call ends that does not return nil. -/
inductive Failure where
  | error (msg : String)
  | panic (msg : String)
deriving DecidableEq

/-- How a statement on a table ends in a transaction: with a count of rows and the table after it,
refused by gorm with nothing sent, refused by the database, or not at all. -/
inductive Sent (τ : Type) where
  | done (rowsAffected : Nat) (table : τ)
  | refused (msg : String)
  | failed (msg : String)
  | panicked (msg : String)

def bindText (s : String) : Except String PgText := (PgText.ofString s).mapError PgError.message

/-- `ON CONFLICT DO UPDATE` on one row twice. -/
def secondTime : String :=
  "ERROR: ON CONFLICT DO UPDATE command cannot affect row a second time (SQLSTATE 21000)"

namespace Crudr

variable (m : Crudr)

/-! ### The statements -/

def bindOp (op : Op) : Except String (PgText × OpRow) := do
  let ulid ← bindText op.ulid
  let host ← bindText op.host
  let action ← bindText op.action
  let table ← bindText op.table
  let coreTxHash ← bindText op.coreTxHash
  let coreTxStatus ← bindText op.coreTxStatus
  match m.jsonbError op.data with
  | some e => .error e
  | none => return (ulid, ⟨host, action, table, op.data, coreTxHash, coreTxStatus⟩)

/-- `Create(op)` with `DoNothing` -/
def insertOp (ops : Table PgText OpRow) (op : Op) : Sent (Table PgText OpRow) :=
  match m.bindOp op with
  | .error e => .failed e
  | .ok (ulid, row) =>
    match ops.lookup ulid with
    | some _ => .done 0 ops
    | none => .done 1 (ops.insert ulid row)

/-- The rows gorm sends for a slice of records. -/
def rowsOf (records : List (Option Record)) : Except String (List Record) :=
  let index := records.findIdx Option.isNone
  if records = [] then .error "empty slice found"
  else if index < records.length then .error s!"slice data #{index} is invalid: unsupported data"
  else .ok records.reduceOption

def insertError (table : String) (r : Record) : Option String :=
  if r.nulFree then m.rowError table r else some PgError.invalidText.message

/-- `Create(records)` with `DoNothing` -/
def createRecords (models : Models) (table : String) (records : List (Option Record)) :
    Sent Models :=
  match rowsOf records with
  | .error e => .refused e
  | .ok rows =>
    match rows.findSome? (m.insertError table) with
    | some e => .failed e
    | none =>
      let after := rows.foldl (fun t r => t.insertNew (table, r.storedKey) r) models
      .done (after.entries.length - models.entries.length) after

/-- `Create(records)` with `UpdateAll` -/
def updateRecords (models : Models) (table : String) (records : List (Option Record)) :
    Sent Models :=
  match rowsOf records with
  | .error e => .refused e
  | .ok rows =>
    match rows.findSome? (m.insertError table) with
    | some e => .failed e
    | none =>
      if (rows.map Record.storedKey).Nodup then
        .done rows.length (rows.foldl (fun t r => t.insert (table, r.storedKey) r) models)
      else .failed secondTime

/-- `Delete(records)`: the records that have a primary key are looked for. -/
def deleteRecords (models : Models) (table : String) (records : List (Option Record)) :
    Sent Models :=
  if none ∈ records then .panicked "reflect: call of reflect.Value.Field on zero Value"
  else
    let rows := records.reduceOption.filter fun r => !r.zeroKey
    if rows = [] then .refused "WHERE conditions required"
    else if rows.all Record.nulFreeKey then
      let after := models.filter fun k _ =>
        !(k.1 == table && decide (k.2 ∈ rows.map Record.storedKey))
      .done (models.entries.length - after.entries.length) after
    else .failed PgError.invalidText.message

/-! ### Applying an operation -/

/-- `ActionCreate`, `ActionUpdate` and `ActionDelete` -/
def actions : List String := ["create", "update", "delete"]

def typeMap : List String :=
  ["uploads", "storage_and_db_sizes", "qm_audio_analyses", "audio_previews"]

def recordsForOp (op : Op) : Except String (List (Option Record)) := do
  let action := op.action
  let table := op.table
  refuseIf (action ∉ actions) s!"unknown action: {action}"
  refuseIf (table ∉ typeMap) s!"no type registered for {table}"
  (m.decodeModels table op.data).mapError fun e =>
    "invalid crud data: " ++ e ++ " " ++ m.rawText op.data

def isLegacyTransientUploadRetryOp (op : Op) : Bool :=
  if op.table ≠ "uploads" ∨ op.action ≠ "update" then false
  else match m.decodeRetries op.data with
    | none => false
    | some rows => !rows.isEmpty && rows.all fun row =>
      (row.status == "busy" || row.status == "error") && decide (5 < row.errorCount) &&
        row.result320 == ""

def shouldPersistOp (op : Op) : Bool :=
  if op.transient then false
  else if op.host = m.host then true
  else !m.isLegacyTransientUploadRetryOp op

/-- `updateDuplicateOpCoreState`: the columns of the operation that is there. -/
def updateDuplicateOpCoreState (op : Op) : Prog MediorumDb Failure Unit := fun db =>
  match (do return (← bindText op.ulid, ← bindText op.coreTxHash, ← bindText op.coreTxStatus) :
    Except String (PgText × PgText × PgText)) with
  | .error e => (.error (.error e), db)
  | .ok (ulid, coreTxHash, coreTxStatus) =>
    (.ok (), { db with ops := db.ops.update ulid fun row =>
      { row with
        coreTxHash := if op.coreTxHash = "" then row.coreTxHash else coreTxHash
        coreTxStatus := if op.coreTxStatus = "" then row.coreTxStatus else coreTxStatus } })

/-- The records are written and the transaction that started at `before` is committed. That a create
has no effect, or that gorm refuses it, is no error. -/
def writeRecords (before db : MediorumDb) (op : Op) (records : List (Option Record)) :
    Except Failure Unit × MediorumDb :=
  if op.action = "create" then
    match m.createRecords db.models op.table records with
    | .done _ models => (.ok (), { db with models := models })
    | .refused _ => (.ok (), db)
    | .failed _ => (.error (.error "commit unexpectedly resulted in rollback"), before)
    | .panicked e => (.error (.panic e), before)
  else
    match if op.action = "update" then m.updateRecords db.models op.table records
      else deleteRecords db.models op.table records with
    | .done _ models => (.ok (), { db with models := models })
    | .refused e => (.error (.error e), before)
    | .failed e => (.error (.error e), before)
    | .panicked e => (.error (.panic e), before)

def applyOp (op : Op) : Prog MediorumDb Failure Unit := fun db =>
  match m.recordsForOp op with
  | .error e => (.error (.error e), db)
  | .ok records =>
    if m.shouldPersistOp op then
      match m.insertOp db.ops op with
      | .done 0 _ => updateDuplicateOpCoreState op db
      | .done _ ops => m.writeRecords db { db with ops := ops } op records
      | .refused e => (.error (.error e), db)
      | .failed e => (.error (.error e), db)
      | .panicked e => (.error (.panic e), db)
    else m.writeRecords db db op records

/-! ### When the records are written -/

def Insertable (table : String) (records : List (Option Record)) : Prop :=
  ∀ r ∈ records.reduceOption, m.insertError table r = none

/-- What an action asks of its records. A create may be refused by gorm; an update has no key twice;
a delete has some key. -/
def Writable (action table : String) (records : List (Option Record)) : Prop :=
  if action = "create" then records = [] ∨ none ∈ records ∨ m.Insertable table records
  else if action = "update" then
    (records ≠ [] ∧ none ∉ records) ∧ m.Insertable table records ∧
      (records.reduceOption.map Record.storedKey).Nodup
  else
    none ∉ records ∧ (∃ r ∈ records.reduceOption, r.zeroKey = false) ∧
      ∀ r ∈ records.reduceOption, r.zeroKey = false → r.nulFreeKey = true

variable {m}

theorem rowsOf_eq {records : List (Option Record)} (hne : records ≠ []) (hnil : none ∉ records) :
    rowsOf records = .ok records.reduceOption := by
  have hindex : ¬ records.findIdx Option.isNone < records.length := by
    rw [List.findIdx_lt_length]
    rintro ⟨r, hr, hnone⟩
    rw [Option.isNone_iff_eq_none.mp hnone] at hr
    exact hnil hr
  rw [rowsOf, if_neg hne, if_neg hindex]

theorem rowsOf_refused {records : List (Option Record)} (h : records = [] ∨ none ∈ records) :
    ∃ e, rowsOf records = .error e := by
  by_cases hempty : records = []
  · exact ⟨_, by rw [rowsOf, if_pos hempty]⟩
  · have hindex : records.findIdx Option.isNone < records.length :=
      List.findIdx_lt_length.mpr ⟨none, h.resolve_left hempty, rfl⟩
    exact ⟨_, by rw [rowsOf, if_neg hempty, if_pos hindex]⟩

theorem findSome_insertError {table : String} {records : List (Option Record)} :
    records.reduceOption.findSome? (m.insertError table) = none ↔ m.Insertable table records :=
  List.findSome?_eq_none_iff

theorem createRecords_cases (m : Crudr) (models : Models) (table : String)
    (records : List (Option Record)) :
    ((records = [] ∨ none ∈ records) ∧ ∃ e, m.createRecords models table records = .refused e) ∨
    (m.Insertable table records ∧ ∃ n after, m.createRecords models table records = .done n after) ∨
    (¬ (records = [] ∨ none ∈ records) ∧ ¬ m.Insertable table records ∧
      ∃ e, m.createRecords models table records = .failed e) := by
  unfold createRecords
  by_cases hrefused : records = [] ∨ none ∈ records
  · obtain ⟨e, he⟩ := rowsOf_refused hrefused
    exact .inl ⟨hrefused, e, by rw [he]⟩
  · obtain ⟨hne, hnil⟩ := not_or.mp hrefused
    rw [rowsOf_eq hne hnil]
    right
    cases herror : records.reduceOption.findSome? (m.insertError table) with
    | none => exact .inl ⟨findSome_insertError.mp herror, _, _, by simp only [herror]; rfl⟩
    | some e =>
      refine .inr ⟨hrefused, fun h => ?_, e, by simp only [herror]⟩
      rw [findSome_insertError.mpr h] at herror
      cases herror

theorem updateRecords_done_iff {models : Models} {table : String} {records : List (Option Record)} :
    (∃ n after, m.updateRecords models table records = .done n after) ↔
      (records ≠ [] ∧ none ∉ records) ∧ m.Insertable table records ∧
        (records.reduceOption.map Record.storedKey).Nodup := by
  unfold updateRecords
  by_cases hrefused : records = [] ∨ none ∈ records
  · obtain ⟨e, he⟩ := rowsOf_refused hrefused
    simp only [he, reduceCtorEq, exists_false, false_iff]
    exact fun h => not_or.mpr h.1 hrefused
  · obtain ⟨hne, hnil⟩ := not_or.mp hrefused
    simp only [rowsOf_eq hne hnil, ne_eq, hne, not_false_eq_true, hnil, and_self, true_and,
      ← findSome_insertError]
    split
    · rename_i herror
      simp [herror]
    · rename_i herror
      split
      · rename_i hnodup
        simpa [herror] using hnodup
      · rename_i hnodup
        simpa [herror] using hnodup

theorem deleteRecords_done_iff {models : Models} {table : String} {records : List (Option Record)} :
    (∃ n after, deleteRecords models table records = .done n after) ↔
      none ∉ records ∧ (∃ r ∈ records.reduceOption, r.zeroKey = false) ∧
        ∀ r ∈ records.reduceOption, r.zeroKey = false → r.nulFreeKey = true := by
  unfold deleteRecords
  by_cases hnil : none ∈ records
  · simp [hnil]
  · have hnone : (records.reduceOption.filter fun r => !r.zeroKey) = [] ↔
        ¬ ∃ r ∈ records.reduceOption, r.zeroKey = false := by
      simp [List.filter_eq_nil_iff]
    have hall : (records.reduceOption.filter fun r => !r.zeroKey).all Record.nulFreeKey = true ↔
        ∀ r ∈ records.reduceOption, r.zeroKey = false → r.nulFreeKey = true := by
      simp only [List.all_eq_true, List.mem_filter, Bool.not_eq_true', and_imp]
    rw [if_neg hnil]
    simp only [hnone, hall]
    by_cases hkey : ∃ r ∈ records.reduceOption, r.zeroKey = false
    · rw [if_neg (not_not.mpr hkey)]
      split
      · rename_i hfree
        exact ⟨fun _ => ⟨hnil, hkey, hfree⟩, fun _ => ⟨_, _, rfl⟩⟩
      · rename_i hfree
        simp only [reduceCtorEq, exists_false, false_iff]
        exact fun h => hfree h.2.2
    · rw [if_pos hkey]
      simp only [reduceCtorEq, exists_false, false_iff]
      exact fun h => hkey h.2.1

theorem writeRecords_ok_iff {before db : MediorumDb} {op : Op} {records : List (Option Record)} :
    (m.writeRecords before db op records).1 = .ok () ↔ m.Writable op.action op.table records := by
  unfold writeRecords Writable
  by_cases hcreate : op.action = "create"
  · rw [if_pos hcreate, if_pos hcreate]
    rcases m.createRecords_cases db.models op.table records with
      ⟨hrefused, e, he⟩ | ⟨hinsert, n, after, hdone⟩ | ⟨hsent, hinsert, e, he⟩
    · rw [he]
      exact ⟨fun _ => hrefused.imp_right .inl, fun _ => rfl⟩
    · rw [hdone]
      exact ⟨fun _ => .inr (.inr hinsert), fun _ => rfl⟩
    · rw [he, ← or_assoc]
      exact ⟨fun h => (by cases h), fun h => absurd (h.resolve_left hsent) hinsert⟩
  · rw [if_neg hcreate, if_neg hcreate]
    have hdone : ∀ sent : Sent Models, (match sent with
        | .done _ after => ((.ok (), { db with models := after }) : Except Failure Unit × MediorumDb)
        | .refused e => (.error (.error e), before)
        | .failed e => (.error (.error e), before)
        | .panicked e => (.error (.panic e), before)).1 = .ok () ↔
          ∃ n after, sent = .done n after := by
      intro sent
      cases sent <;> simp
    rw [hdone]
    split
    · exact updateRecords_done_iff
    · exact deleteRecords_done_iff

/-! ### When an operation is applied -/

/-- The texts of an operation can be stored. -/
structure Bindable (op : Op) : Prop where
  ulid : NulFree op.ulid
  host : NulFree op.host
  action : NulFree op.action
  table : NulFree op.table
  coreTxHash : NulFree op.coreTxHash
  coreTxStatus : NulFree op.coreTxStatus

theorem bindText_of_nulFree {text : String} (h : NulFree text) : bindText text = .ok ⟨text, h⟩ := by
  rw [bindText, PgText.ofString_of_nulFree h]
  rfl

theorem bindOp_of_bindable {op : Op} (h : Bindable op) :
    m.bindOp op = match m.jsonbError op.data with
      | some e => .error e
      | none => .ok (⟨op.ulid, h.ulid⟩, ⟨⟨op.host, h.host⟩, ⟨op.action, h.action⟩,
        ⟨op.table, h.table⟩, op.data, ⟨op.coreTxHash, h.coreTxHash⟩,
        ⟨op.coreTxStatus, h.coreTxStatus⟩⟩) := by
  unfold bindOp
  simp only [bindText_of_nulFree h.ulid, bindText_of_nulFree h.host, bindText_of_nulFree h.action,
    bindText_of_nulFree h.table, bindText_of_nulFree h.coreTxHash,
    bindText_of_nulFree h.coreTxStatus]
  rfl

theorem updateDuplicateOpCoreState_ok {op : Op} (h : Bindable op) (db : MediorumDb) :
    (updateDuplicateOpCoreState op db).1 = .ok () := by
  unfold updateDuplicateOpCoreState
  rw [bindText_of_nulFree h.ulid, bindText_of_nulFree h.coreTxHash,
    bindText_of_nulFree h.coreTxStatus]
  rfl

theorem applyOp_ok_iff {op : Op} (h : Bindable op) {db : MediorumDb} :
    (m.applyOp op db).1 = .ok () ↔ ∃ records, m.recordsForOp op = .ok records ∧
      if m.shouldPersistOp op then
        m.jsonbError op.data = none ∧
          ((∃ ulid, ulid.val = op.ulid ∧ (db.ops.lookup ulid).isSome = true) ∨
            m.Writable op.action op.table records)
      else m.Writable op.action op.table records := by
  unfold applyOp
  cases hrecords : m.recordsForOp op with
  | error e => simp
  | ok records =>
    simp only [Except.ok.injEq, exists_eq_left']
    split
    · have hstored : (∃ ulid : PgText, ulid.val = op.ulid ∧ (db.ops.lookup ulid).isSome = true) ↔
          (db.ops.lookup ⟨op.ulid, h.ulid⟩).isSome = true := by
        constructor
        · rintro ⟨ulid, hulid, hsome⟩
          rwa [← PgText.ext (b := ⟨op.ulid, h.ulid⟩) hulid]
        · exact fun hsome => ⟨_, rfl, hsome⟩
      rw [hstored, insertOp, bindOp_of_bindable h]
      cases m.jsonbError op.data with
      | some e => simp
      | none =>
        dsimp only
        cases db.ops.lookup ⟨op.ulid, h.ulid⟩ with
        | some row => simpa using updateDuplicateOpCoreState_ok h db
        | none => simpa using writeRecords_ok_iff
    · exact writeRecords_ok_iff

theorem applyOp_cursor (m : Crudr) (op : Op) (db : MediorumDb) :
    (m.applyOp op db).2.cursor = db.cursor := by
  have hwrite : ∀ ops records,
      (m.writeRecords db { db with ops := ops } op records).2.cursor = db.cursor := by
    intro ops records
    unfold writeRecords
    split <;> split <;> rfl
  unfold applyOp
  split
  · rfl
  · split
    · split
      · unfold updateDuplicateOpCoreState
        split <;> rfl
      · exact hwrite _ _
      · rfl
      · rfl
      · rfl
    · exact hwrite db.ops _

end Crudr

end OpenAudio.Mediorum
