import OpenAudio.Mediorum.Crudr

/-!
# Operations from the chain

Operations of storage nodes travel in blocks. A storage node applies the operations of the committed
blocks one after another and keeps the height it has reached; an operation that fails is tried again
on the next pass, and nothing after it is applied until it succeeds.
-/

namespace OpenAudio.Mediorum

open OpenAudio.Core Prog

/-- `fmt.Errorf("…: %w", err)`; a panic is not wrapped. -/
def Failure.wrap (context : String) : Failure → Failure
  | .error msg => .error (context ++ ": " ++ msg)
  | .panic msg => .panic msg

def coreOpSyncInitialLookback : Int := 1000

/-- A transaction of a block: its hash as the chain stores it, and the operation it carries, if it
carries one. -/
abbrev BlockTx := PgText × Option MediorumOperation

/-- What `GetBlock` answers. A height the chain does not have is a block of a negative height. -/
inductive BlockReply where
  | failed (msg : String)
  | missing
  | block (txs : List BlockTx)

/-- The chain as a storage node asks for it. -/
structure CoreView where
  ready : Bool
  status : Except String Int
  getBlock : Int → BlockReply

namespace Crudr

variable (s : Server) (m : Crudr)

def opFromMediorumOperation (msg : MediorumOperation) : Op where
  ulid := msg.ulid
  host := msg.host
  action := msg.action
  table := msg.table
  data := msg.data
  coreTxStatus := "confirmed"

def applyMediorumOperation (msg : MediorumOperation) (txHash : String) :
    Prog MediorumDb Failure Unit :=
  match s.validateOperation msg with
  | .error e => fail (.error e.message)
  | .ok () => m.applyOp { opFromMediorumOperation msg with coreTxHash := txHash }

/-- `applyCommittedCoreMediorumOperation`. An operation that is not valid is logged and skipped. -/
def applyCommittedCoreMediorumOperation (height : Int) (txHash : String) (op : MediorumOperation) :
    Prog MediorumDb Failure Unit :=
  match s.validateOperation op with
  | .error _ => pure ()
  | .ok () =>
    (m.applyMediorumOperation s op txHash).mapError
      (Failure.wrap s!"apply core mediorum op at height {height} tx {txHash}")

def setCoreOpSyncHeight (height : Int) : Prog MediorumDb Failure Unit :=
  modify fun db => { db with cursor := some height }

def getCoreOpSyncHeight (currentHeight : Int) : Prog MediorumDb Failure Int := do
  match ← reads fun db => .ok db.cursor with
  | some height => return height
  | none =>
    let start := max 0 (currentHeight - coreOpSyncInitialLookback)
    setCoreOpSyncHeight start
    return start

def syncTx (height : Int) (tx : BlockTx) : Prog MediorumDb Failure Unit :=
  match tx.2 with
  | none => pure ()
  | some op => m.applyCommittedCoreMediorumOperation s height tx.1.val op

/-- The transactions of a block, and then its height. -/
def syncBlock (height : Int) (txs : List BlockTx) : Prog MediorumDb Failure Unit := do
  forEach txs (m.syncTx s height)
  setCoreOpSyncHeight height

/-- The blocks of the heights, until one is missing. -/
def syncHeights (getBlock : Int → BlockReply) : List Int → Prog MediorumDb Failure Unit
  | [] => pure ()
  | height :: heights =>
    match getBlock height with
    | .failed e => fail (.error e)
    | .missing => pure ()
    | .block txs => do
      m.syncBlock s height txs
      syncHeights getBlock heights

def syncCoreMediorumOps (core : CoreView) : Prog MediorumDb Failure Unit :=
  if core.ready = false then pure ()
  else match core.status with
    | .error e => fail (.error e)
    | .ok currentHeight =>
      if currentHeight ≤ 0 then pure ()
      else do
        let lastHeight ← getCoreOpSyncHeight currentHeight
        m.syncHeights s core.getBlock
          ((List.range (currentHeight - lastHeight).toNat).map fun i : Nat => lastHeight + 1 + i)

/-! ### Operations that pass -/

/-- The operation is one that a node of the chain let into a block. -/
def Accepted (op : MediorumOperation) : Prop :=
  ∃ v : Server, v.ext = s.ext ∧ ∃ tx, v.isValidMediorumOperationTx tx op = .ok ()

/-- The records decode as the models of this node. An operation that is to be stored is `jsonb`, and
was stored before or has records that can be written; another has such records. -/
def Appliable (db : MediorumDb) (op : MediorumOperation) : Prop :=
  ∃ records, m.decodeModels op.table op.data = .ok records ∧
    if m.shouldPersistOp (opFromMediorumOperation op) then
      m.jsonbError op.data = none ∧
        ((∃ ulid, ulid.val = op.ulid ∧ (db.ops.lookup ulid).isSome = true) ∨
          m.Writable op.action op.table records)
    else m.Writable op.action op.table records

/-- Every operation of a block satisfies `P` in the state in which it is applied. -/
def EachOperation (height : Int) (P : MediorumDb → PgText → MediorumOperation → Prop) :
    MediorumDb → List BlockTx → Prop
  | _, [] => True
  | db, tx :: txs =>
    (∀ op, tx.2 = some op → P db tx.1 op) ∧ EachOperation height P (m.syncTx s height tx db).2 txs

variable {s m}

theorem nulFree_removeTrailingSlash (u : String) :
    NulFree (Server.removeTrailingSlash u) ↔ NulFree u := by
  unfold Server.removeTrailingSlash
  split
  · rename_i hlast
    have hsplit : u.toList = u.toList.dropLast ++ ['/'] :=
      (List.dropLast_append_getLast? '/' hlast).symm
    unfold NulFree
    rw [String.toList_ofList]
    nth_rewrite 2 [hsplit]
    rw [List.mem_append, List.mem_singleton, not_or]
    exact ⟨fun h => ⟨h, by decide⟩, fun h => h.1⟩
  · rfl

theorem validateOperation_congr {v : Server} (h : v.ext = s.ext) (op : MediorumOperation) :
    v.validateOperation op = s.validateOperation op := by
  simp only [Server.validateOperation, Server.validatePayload, Server.rt, h]

theorem Accepted.spec {op : MediorumOperation} (h : Accepted s op) :
    s.validateOperation op = .ok () ∧ NulFree op.host := by
  obtain ⟨v, hext, tx, hvalid⟩ := h
  obtain ⟨⟨⟩, hshape, hvalid⟩ := except_bind_eq_ok.mp hvalid
  obtain ⟨-, hvalid⟩ := refuseIf_bind_eq_ok.mp hvalid
  obtain ⟨⟨_, signer⟩, _, hvalid⟩ := except_bind_eq_ok.mp hvalid
  have hnode := refuseIf_eq_ok.mp hvalid
  rw [Bool.not_eq_false, List.any_eq_true] at hnode
  obtain ⟨node, -, hnode⟩ := hnode
  rw [Bool.and_eq_true, beq_iff_eq] at hnode
  refine ⟨(validateOperation_congr hext op).symm.trans hshape, ?_⟩
  rw [← v.rt.nulFree_toLower_iff, ← nulFree_removeTrailingSlash, ← hnode.1,
    nulFree_removeTrailingSlash, v.rt.nulFree_toLower_iff]
  exact node.endpoint.nulFree

theorem validateOperation_eq_ok {op : MediorumOperation} (h : s.validateOperation op = .ok ()) :
    s.ext.parseUlid op.ulid = .ok () ∧ op.action ∈ actions ∧ op.table ∈ typeMap := by
  obtain ⟨-, h⟩ := refuseIf_bind_eq_ok.mp h
  obtain ⟨⟨⟩, hulid, h⟩ := except_bind_eq_ok.mp h
  obtain ⟨-, h⟩ := refuseIf_bind_eq_ok.mp h
  obtain ⟨haction, h⟩ := refuseIf_bind_eq_ok.mp h
  obtain ⟨-, h⟩ := refuseIf_bind_eq_ok.mp h
  obtain ⟨htable, -⟩ := refuseIf_bind_eq_ok.mp h
  exact ⟨except_mapError_eq_ok.mp hulid, not_not.mp haction, not_not.mp htable⟩

theorem Accepted.bindable (hulid : ∀ u, s.ext.parseUlid u = .ok () → NulFree u)
    {op : MediorumOperation} (h : Accepted s op) (hash : PgText) :
    Bindable { opFromMediorumOperation op with coreTxHash := hash.val } := by
  obtain ⟨hvalid, hhost⟩ := h.spec
  obtain ⟨hparse, haction, htable⟩ := validateOperation_eq_ok hvalid
  have hactions : ∀ a ∈ actions, NulFree a := by decide
  have htables : ∀ t ∈ typeMap, NulFree t := by decide
  have hstatus : NulFree "confirmed" := by decide
  exact ⟨hulid _ hparse, hhost, hactions _ haction, htables _ htable, hash.nulFree, hstatus⟩

theorem applyCommitted_ok_iff (hulid : ∀ u, s.ext.parseUlid u = .ok () → NulFree u)
    {op : MediorumOperation} (h : Accepted s op) {height : Int} {hash : PgText} {db : MediorumDb} :
    (m.applyCommittedCoreMediorumOperation s height hash.val op db).1 = .ok () ↔
      m.Appliable db op := by
  obtain ⟨haction, htable⟩ := (validateOperation_eq_ok h.spec.1).2
  have hrecords : ∀ records, m.recordsForOp { opFromMediorumOperation op with
      coreTxHash := hash.val } = .ok records ↔ m.decodeModels op.table op.data = .ok records := by
    intro records
    exact (refuseIf_bind_eq_ok.trans (and_iff_right (not_not.mpr haction))).trans
      ((refuseIf_bind_eq_ok.trans (and_iff_right (not_not.mpr htable))).trans except_mapError_eq_ok)
  have happly : (m.applyCommittedCoreMediorumOperation s height hash.val op db).1 = .ok () ↔
      (m.applyOp { opFromMediorumOperation op with coreTxHash := hash.val } db).1 = .ok () := by
    rw [applyCommittedCoreMediorumOperation, applyMediorumOperation, h.spec.1]
    exact except_mapError_eq_ok
  rw [happly, applyOp_ok_iff (h.bindable hulid hash)]
  simp only [hrecords]
  rfl

/-! ### Blocks that pass -/

theorem syncTx_cursor (height : Int) (tx : BlockTx) (db : MediorumDb) :
    (m.syncTx s height tx db).2.cursor = db.cursor := by
  obtain ⟨hash, op⟩ := tx
  cases op with
  | none => rfl
  | some op =>
    change (m.applyCommittedCoreMediorumOperation s height hash.val op db).2.cursor = db.cursor
    unfold applyCommittedCoreMediorumOperation applyMediorumOperation
    cases s.validateOperation op with
    | error e => rfl
    | ok u => exact m.applyOp_cursor _ db

theorem forEach_syncTx_ok_iff {height : Int} {txs : List BlockTx} {db : MediorumDb} :
    (forEach txs (m.syncTx s height) db).1 = .ok () ↔ m.EachOperation s height
      (fun db hash op => (m.applyCommittedCoreMediorumOperation s height hash.val op db).1 = .ok ())
      db txs := by
  induction txs generalizing db with
  | nil => exact ⟨fun _ => trivial, fun _ => rfl⟩
  | cons tx txs ih =>
    have hhead : (m.syncTx s height tx db).1 = .ok () ↔ ∀ op, tx.2 = some op →
        (m.applyCommittedCoreMediorumOperation s height tx.1.val op db).1 = .ok () := by
      unfold syncTx
      cases tx.2 with
      | none => simp [pure_apply]
      | some op => simp
    rw [EachOperation, ← hhead, ← ih]
    obtain ⟨r, hr⟩ : ∃ r, m.syncTx s height tx db = r := ⟨_, rfl⟩
    obtain ⟨r₁, db'⟩ := r
    cases r₁ with
    | error e => simp [forEach, bind_of_error hr, hr]
    | ok u => simp [forEach, bind_of_ok hr, hr]

theorem forEach_syncTx_cursor (height : Int) (txs : List BlockTx) (db : MediorumDb) :
    (forEach txs (m.syncTx s height) db).2.cursor = db.cursor :=
  Keeps.forEach (R := Same MediorumDb.cursor) (fun tx db => syncTx_cursor height tx db) db

theorem syncBlock_cursor_iff {height : Int} {txs : List BlockTx} {db : MediorumDb}
    (hcursor : db.cursor ≠ some height) : (m.syncBlock s height txs db).2.cursor = some height ↔
      (forEach txs (m.syncTx s height) db).1 = .ok () := by
  obtain ⟨r, hr⟩ : ∃ r, forEach txs (m.syncTx s height) db = r := ⟨_, rfl⟩
  obtain ⟨r₁, db'⟩ := r
  have hsame : db'.cursor = db.cursor := by
    have := forEach_syncTx_cursor (m := m) (s := s) height txs db
    rwa [hr] at this
  cases r₁ with
  | error e => simp [syncBlock, bind_of_error hr, hr, hsame, hcursor]
  | ok u => simp [syncBlock, bind_of_ok hr, hr, setCoreOpSyncHeight, Prog.modify]

/-- The operations of a block return nil and the syncer gets past it if and only if each of them can
be applied in the state it meets. -/
theorem passes_block_iff (hulid : ∀ u, s.ext.parseUlid u = .ok () → NulFree u) {height : Int}
    {txs : List BlockTx} (haccepted : ∀ tx ∈ txs, ∀ op, tx.2 = some op → Accepted s op)
    {db : MediorumDb} (hcursor : db.cursor ≠ some height) :
    (m.EachOperation s height (fun db hash op =>
        (m.applyCommittedCoreMediorumOperation s height hash.val op db).1 = .ok ()) db txs ∧
      (m.syncBlock s height txs db).2.cursor = some height) ↔
    m.EachOperation s height (fun db _ op => m.Appliable db op) db txs := by
  have heach : ∀ db, m.EachOperation s height (fun db hash op =>
        (m.applyCommittedCoreMediorumOperation s height hash.val op db).1 = .ok ()) db txs ↔
      m.EachOperation s height (fun db _ op => m.Appliable db op) db txs := by
    clear hcursor
    induction txs with
    | nil => exact fun _ => Iff.rfl
    | cons tx txs ih =>
      intro db
      refine and_congr ?_ (ih (fun tx' htx' => haccepted tx' (List.mem_cons_of_mem tx htx')) _)
      exact forall₂_congr fun op hop =>
        applyCommitted_ok_iff hulid (haccepted tx List.mem_cons_self op hop)
  rw [syncBlock_cursor_iff hcursor, forEach_syncTx_ok_iff, and_self, heach]

/-! ### Two operations of a node -/

/-- An operation with the signature of the first key. -/
structure RecordedOperation where
  op : MediorumOperation
  bytes : Bytes
  digest : Externals.Digest
  signature : String
  signatureBytes : Bytes

def RecordedOperation.calls (r : RecordedOperation) : Externals.Recorded where
  sha256 := [(r.bytes, r.digest)]
  sigToPub := [((r.digest.val, r.signatureBytes), Server.firstKey.pubKey)]
  marshal := [(.mediorumOperation r.op, r.bytes)]

def emptyUpdate : RecordedOperation where
  op :=
    { ulid := "01ARZ3NDEKTSV4RRFFQ69G5FAV"
      host := "https://a.example"
      action := "update"
      table := "uploads"
      data := textBytes "[]" }
  bytes := bigEndian 40 0xa1a303141525a334e44454b54535634525246465136394735464156121168747470733a2f2f612e ++
    bigEndian 28 0x6578616d706c651a06757064617465220775706c6f6164732a025b5d
  digest := Externals.digest 0xc77a4cf6bf6d470147c9abc6ed2c183f7a0062635b81b839783e615990dc175c
  signature := "492cb214b107a951581808ea683ded15cbdaab1ad843d58abac958297fbfad5372" ++
    "0c5a2bc8e6ff888700785cb311689361a9d5ee72e7ea5c1a221608739aa2e200"
  signatureBytes := bigEndian 40 0x492cb214b107a951581808ea683ded15cbdaab1ad843d58abac958297fbfad53720c5a2bc8e6ff88 ++
    bigEndian 25 0x8700785cb311689361a9d5ee72e7ea5c1a221608739aa2e200

def firstUpload : RecordedOperation where
  op :=
    { ulid := "01ARZ3NDEKTSV4RRFFQ69G5FAW"
      host := "https://a.example"
      action := "create"
      table := "uploads"
      data := textBytes "[\x7b\"id\":\"u\"\x7d]" }
  bytes := bigEndian 40 0xa1a303141525a334e44454b54535634525246465136394735464157121168747470733a2f2f612e ++
    bigEndian 38 0x6578616d706c651a06637265617465220775706c6f6164732a0c5b7b226964223a2275227d5d
  digest := Externals.digest 0x9a5fff958f50144f9aaf1fd9b2e83b455d660fee150a0752859033e9f1fec423
  signature := "d3ee41ca8a0b5d7497101e896688f018a2b6877fb4c54e59c901c32f03009b247d" ++
    "b9055d8deb6d7d88cc23722ffa5544cfc4ec773b77654cfa0f31a8c0a4eb6001"
  signatureBytes := bigEndian 40 0xd3ee41ca8a0b5d7497101e896688f018a2b6877fb4c54e59c901c32f03009b247db9055d8deb6d7d ++
    bigEndian 25 0x88cc23722ffa5544cfc4ec773b77654cfa0f31a8c0a4eb6001

def chainNode : Server :=
  let node := Server.devnet (Server.firstKey.calls ++ emptyUpdate.calls ++ firstUpload.calls)
    { Db.empty with validators := [Server.firstNode] }
  { node with ext := { node.ext with
    parseUlid := fun u => if u = emptyUpdate.op.ulid ∨ u = firstUpload.op.ulid then .ok ()
      else .error "not recorded"
    decodeRecords := fun _ _ => .ok () } }

def storageNode : Crudr where
  host := "https://b.example"
  decodeModels _ data :=
    if data = emptyUpdate.op.data then .ok []
    else .ok [some ⟨[.text "u"], [], []⟩]
  decodeRetries _ := none
  rowError _ _ := none
  jsonbError _ := none
  rawText _ := ""

theorem nulFree_of_parseUlid (u : String) (h : chainNode.ext.parseUlid u = .ok ()) : NulFree u := by
  change (if u = emptyUpdate.op.ulid ∨ u = firstUpload.op.ulid then (.ok () : Except String Unit)
    else .error "not recorded") = .ok () at h
  split at h
  · rename_i hu
    rcases hu with rfl | rfl
    · decide
    · decide
  · cases h

theorem accepted_firstUpload : Accepted chainNode firstUpload.op :=
  ⟨chainNode, rfl, { signature := firstUpload.signature }, by decide +kernel⟩

/-- The create passes. -/
theorem passes_block_firstUpload :
    (storageNode.syncBlock chainNode 7 [(⟨"01", by decide⟩, some firstUpload.op)]
      { cursor := some 6 }).2.cursor = some 7 := by
  have haccepted : ∀ tx ∈ [((⟨"01", by decide⟩, some firstUpload.op) : BlockTx)],
      ∀ op, tx.2 = some op → Accepted chainNode op := by
    intro tx htx op hop
    rw [List.mem_singleton.mp htx] at hop
    cases hop
    exact accepted_firstUpload
  refine ((passes_block_iff nulFree_of_parseUlid haccepted (by decide)).mpr ⟨?_, trivial⟩).2
  intro op hop
  cases hop
  have hdata : firstUpload.op.data ≠ emptyUpdate.op.data := by decide +kernel
  have hdecode : storageNode.decodeModels firstUpload.op.table firstUpload.op.data =
      .ok [some ⟨[.text "u"], [], []⟩] := by
    simp [storageNode, hdata]
  have haction : firstUpload.op.action = "create" := rfl
  have hpersist : storageNode.shouldPersistOp (opFromMediorumOperation firstUpload.op) = true := by
    decide +kernel
  refine ⟨_, hdecode, ?_⟩
  rw [if_pos hpersist, Writable, if_pos haction]
  refine ⟨rfl, .inr (.inr (.inr ?_))⟩
  intro r hr
  rw [List.mem_singleton.mp hr]
  decide +kernel

/-- The update of no records was let into a block. The syncer gets no further than the block
before. -/
theorem empty_update_stops_syncer :
    (∃ tx, chainNode.isValidMediorumOperationTx tx emptyUpdate.op = .ok ()) ∧
    (storageNode.applyCommittedCoreMediorumOperation chainNode 7 "01" emptyUpdate.op
      { cursor := some 6 }).1 =
        .error (.error "apply core mediorum op at height 7 tx 01: empty slice found") ∧
    (storageNode.syncCoreMediorumOps chainNode ⟨true, .ok 9, fun height =>
        if height = 7 then .block [(⟨"01", by decide⟩, some emptyUpdate.op)] else .block []⟩
      { cursor := some 6 }).2.cursor = some 6 := by
  refine ⟨⟨{ signature := emptyUpdate.signature }, ?_⟩, ?_⟩
  · decide +kernel
  · decide +kernel

end Crudr

end OpenAudio.Mediorum
