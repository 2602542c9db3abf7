import OpenAudio.Etl.Tracks

/-!
# Saves and reposts taken back

A user takes back a save or a repost of a track or a playlist. Validation asks whether there is an
active row of the user, the item and its type, and the write sets the row of that key deleted. The
two name the type for themselves, out of the entity type of the transaction, the `type` of the
metadata and what is stored under the item's id.
-/

namespace OpenAudio.Etl

open OpenAudio.Core Prog

/-! ### The tables -/

inductive SocialKind where
  | save | repost
deriving DecidableEq, Repr

namespace SocialKind

def noun : SocialKind → String
  | save => "save"
  | repost => "repost"

def flag : SocialKind → String
  | save => "is_save_of_repost"
  | repost => "is_repost_of_repost"

def primaryKey : SocialKind → String
  | save => "saves_pkey"
  | repost => "reposts_pkey"

def rows : SocialKind → EntityTables → List SocialRow
  | save => EntityTables.saves
  | repost => EntityTables.reposts

def setRows (k : SocialKind) (s : EntityTables) (rows : List SocialRow) : EntityTables :=
  match k with
  | save => { s with saves := rows }
  | repost => { s with reposts := rows }

@[simp] theorem rows_setRows (k : SocialKind) (s : EntityTables) (rows : List SocialRow) :
    k.rows (k.setRows s rows) = rows := by
  cases k <;> rfl

end SocialKind

namespace SocialRow

variable (r : SocialRow)

def isOf (user item : Int4) (type : ItemType) : Bool :=
  r.userId == user && r.itemId == item && r.itemType == type

/-- The row an upsert of this key meets. -/
def isCurrentOf (user item : Int4) (type : ItemType) : Bool := r.isOf user item type && r.isCurrent

def isActiveOf (user item : Int4) (type : ItemType) : Bool :=
  r.isCurrentOf user item type && !r.isDelete

end SocialRow

/-- `INSERT … ON CONFLICT (user, item, type) WHERE is_current DO UPDATE`. A row that is not current
and has the transaction's hash is in the way of the primary key. -/
def upsertItem (k : SocialKind) (rows : List SocialRow) (row : SocialRow) :
    Except EtlError (List SocialRow) :=
  let current := fun r : SocialRow => r.isCurrentOf row.userId row.itemId row.itemType
  if rows.any fun r => r.isOf row.userId row.itemId row.itemType && !r.isCurrent &&
      r.txHash == row.txHash then
    .error (.query (.uniqueViolation k.primaryKey))
  else if rows.any current then .ok (rows.map fun r => if current r then row else r)
  else .ok (rows ++ [row])

/-! ### The type of an item -/

section Types

variable (env : EntityEnv) (p : EntityParams) (s : EntityTables)

/-- `saveTypeFromEntityType` and `repostTypeFromEntityType`: an album counts as a playlist. -/
def typeFromEntityType (entityType : String) : Option ItemType :=
  let name := env.rt.toLower entityType
  if name = "track" then some .track
  else if name = "playlist" ∨ name = "album" then some .playlist
  else none

/-- `inferSaveType` and `inferRepostType`; a query that fails finds nothing. -/
def inferItemType (entityID : Int) : Option ItemType :=
  match Int4.ofInt entityID with
  | .error _ => none
  | .ok id =>
    if s.tracks.any fun r => r.trackId == id then some .track
    else if s.playlists.any fun r => r.playlistId == id then some .playlist
    else none

/-- `resolveSaveType` and `resolveRepostType`: the metadata comes first. -/
def resolveItemType : Option ItemType :=
  (typeFromEntityType env (p.metadataString "type")).or
    ((typeFromEntityType env p.entityType).or (inferItemType s p.entityId))

/-- The type `validateUnsave` looks for: the entity type of the transaction comes first. -/
def unsaveType : Option ItemType :=
  (typeFromEntityType env p.entityType).or
    ((typeFromEntityType env (p.metadataString "type")).or (inferItemType s p.entityId))

/-- The type whose active row validation asks for. -/
def SocialKind.checkedType : SocialKind → Option ItemType
  | save => unsaveType env p s
  | repost => resolveItemType env p s

end Types

/-! ### The handlers -/

section Handlers

variable (env : EntityEnv) (p : EntityParams)

/-- `saveExists` and `repostExists` -/
def itemExists (k : SocialKind) (s : EntityTables) (userID itemID : Int) (type : ItemType) :
    Except EtlError Bool := do
  let user ← Int4.ofInt userID
  let item ← Int4.ofInt itemID
  return (k.rows s).any fun r => r.isActiveOf user item type

/-- What `validateUnsave` and `validateUnrepost` check about the type each of them looks for. -/
def validateActive (k : SocialKind) (type : Option ItemType) (s : EntityTables) :
    Except EtlError Unit := do
  let noun := k.noun
  let user := p.userId
  let id := p.entityId
  match type with
  | none => .error (.validation s!"cannot determine {noun} type for entity {id}")
  | some type =>
    let active ← itemExists k s user id type
    invalidIf (active = false) s!"no active {noun} for user {user} item {id}"

def validateUnsave (s : EntityTables) : Except EtlError Unit := do
  validateSigner env.rt s.base p.toParams
  validateActive p .save (unsaveType env p s) s

def validateUnrepost (s : EntityTables) : Except EtlError Unit := do
  validateSigner env.rt s.base p.toParams
  validateActive p .repost (resolveItemType env p s) s

/-- `insertSave` and `insertRepost` -/
def insertItem (k : SocialKind) (isDelete : Bool) : EntityProg Unit := stmt fun s => do
  let user ← Int4.ofInt p.userId
  let item ← Int4.ofInt p.entityId
  match resolveItemType env p s with
  -- the empty text is no value of the enumeration
  | none => .error (.query .invalidText)
  | some type =>
    let rows ← upsertItem k (k.rows s)
      { userId := user
        itemId := item
        itemType := type
        isCurrent := true
        isDelete := isDelete
        isOfRepost := p.metadataBoolOr k.flag false
        createdAt := p.blockTime
        txHash := p.txHash }
    return k.setRows s rows

def insertSave : Bool → EntityProg Unit := insertItem env p .save

def insertRepost : Bool → EntityProg Unit := insertItem env p .repost

def unsaveHandler : EntityProg Unit := do
  reads (validateUnsave env p)
  insertSave env p true

def unrepostHandler : EntityProg Unit := do
  reads (validateUnrepost env p)
  insertRepost env p true

/-- The handlers of a live Unsave and of a live Unrepost, registered for every entity type. -/
def takeBackHandler (k : SocialKind) : Option (EntityProg Unit) :=
  match k with
  | .save => if p.action = "Unsave" then some (unsaveHandler env p) else none
  | .repost => if p.action = "Unrepost" then some (unrepostHandler env p) else none

end Handlers

/-! ### Which row is deleted -/

/-- The row of a user, an item and a type goes from active to deleted, and nothing else changes. -/
structure MarksDeleted (k : SocialKind) (user item : Int4) (type : ItemType)
    (s s' : EntityTables) : Prop where
  active : ∃ r ∈ k.rows s, r.isActiveOf user item type = true
  deleted : ∃ r ∈ k.rows s', r.isCurrentOf user item type = true ∧ r.isDelete = true
  inactive : ∀ r ∈ k.rows s', r.isActiveOf user item type = false
  others : (k.rows s').filter (fun r => !r.isCurrentOf user item type) =
    (k.rows s).filter fun r => !r.isCurrentOf user item type
  rest : s' = k.setRows s (k.rows s')

/-- The row that a transaction marks deleted is the one validation asked for. -/
def MarksChecked (env : EntityEnv) (k : SocialKind) (tx : EntityTx) (s s' : EntityTables) : Prop :=
  ∃ (user item : Int4) (type : ItemType), user.val = tx.tx.userId ∧ item.val = tx.tx.entityId ∧
    k.checkedType env tx.params s = some type ∧ MarksDeleted k user item type s s'

/-- The entity type and the metadata do not name two types. -/
def TypesAgree (env : EntityEnv) (p : EntityParams) : Prop :=
  ∀ t t' : ItemType, typeFromEntityType env p.entityType = some t →
    typeFromEntityType env (p.metadataString "type") = some t' → t = t'

section Spec

variable {env : EntityEnv} {p : EntityParams} {k : SocialKind} {s s' : EntityTables}
  {rows rows' : List SocialRow} {row : SocialRow} {user item : Int4} {type : ItemType}

theorem unsaveType_of_agree (h : TypesAgree env p) : unsaveType env p s = resolveItemType env p s := by
  unfold unsaveType resolveItemType
  cases hentity : typeFromEntityType env p.entityType with
  | none => rfl
  | some t =>
    cases hmeta : typeFromEntityType env (p.metadataString "type") with
    | none => rfl
    | some t' => rw [h t t' hentity hmeta]

theorem isOf_iff {r : SocialRow} :
    r.isOf user item type = true ↔ r.userId = user ∧ r.itemId = item ∧ r.itemType = type := by
  simp [SocialRow.isOf, and_assoc]

theorem not_isCurrentOf_of_ne {r : SocialRow} {type' : ItemType} (hne : type' ≠ type)
    (h : r.isCurrentOf user item type' = true) : r.isCurrentOf user item type = false := by
  simp only [SocialRow.isCurrentOf, Bool.and_eq_true] at h
  have htype : r.itemType ≠ type := by
    rw [(isOf_iff.mp h.1).2.2]
    exact hne
  simp [SocialRow.isCurrentOf, SocialRow.isOf, htype]

/-- A row of the key before the upsert of another type is there afterwards. -/
theorem mem_upsertItem (h : upsertItem k rows row = .ok rows') {r : SocialRow} (hr : r ∈ rows)
    (hother : r.isCurrentOf row.userId row.itemId row.itemType = false) : r ∈ rows' := by
  unfold upsertItem at h
  simp only at h
  split at h
  · cases h
  · split at h
    · cases h
      apply List.mem_map.mpr
      exact ⟨r, hr, if_neg (by simp [hother])⟩
    · cases h
      exact List.mem_append_left _ hr

/-- The upsert of a key that has a current row replaces that row. -/
theorem upsertItem_of_current (h : upsertItem k rows row = .ok rows')
    (hcurrent : ∃ r ∈ rows, r.isCurrentOf row.userId row.itemId row.itemType = true) :
    rows' = rows.map fun r =>
      if r.isCurrentOf row.userId row.itemId row.itemType then row else r := by
  have hany : (rows.any fun r => r.isCurrentOf row.userId row.itemId row.itemType) = true := by
    simpa using hcurrent
  unfold upsertItem at h
  simp only [hany, if_true] at h
  split at h
  · cases h
  · cases h
    rfl

theorem marksDeleted_of_replaced
    (hactive : ∃ r ∈ k.rows s, r.isActiveOf user item type = true)
    (hrow : row.isCurrentOf user item type = true) (hdelete : row.isDelete = true) :
    MarksDeleted k user item type s (k.setRows s ((k.rows s).map fun r =>
      if r.isCurrentOf user item type then row else r)) := by
  obtain ⟨r, hr, hactive'⟩ := hactive
  have hcurrent : r.isCurrentOf user item type = true := by
    rw [SocialRow.isActiveOf, Bool.and_eq_true] at hactive'
    exact hactive'.1
  refine ⟨⟨r, hr, hactive'⟩, ⟨row, ?_, hrow, hdelete⟩, ?_, ?_, ?_⟩
  · rw [SocialKind.rows_setRows]
    exact List.mem_map.mpr ⟨r, hr, by rw [hcurrent, if_pos rfl]⟩
  · rw [SocialKind.rows_setRows]
    intro r' hr'
    obtain ⟨q, -, rfl⟩ := List.mem_map.mp hr'
    split
    · simp [SocialRow.isActiveOf, hdelete]
    · rename_i hq
      simp [SocialRow.isActiveOf, hq]
  · rw [SocialKind.rows_setRows]
    -- the filter drops exactly the rows that were replaced
    induction k.rows s with
    | nil => rfl
    | cons q rows ih =>
      by_cases hq : q.isCurrentOf user item type = true
      · simp only [List.map_cons, hq, if_true, List.filter_cons, hrow, Bool.not_true,
          Bool.false_eq_true, if_false]
        exact ih
      · simp only [List.map_cons, hq, List.filter_cons, Bool.false_eq_true, if_false,
          Bool.not_false, if_true]
        rw [ih]
  · rw [SocialKind.rows_setRows]

theorem validateActive_eq_ok {type? : Option ItemType} (h : validateActive p k type? s = .ok ()) :
    ∃ (user item : Int4) (type : ItemType), user.val = p.userId ∧ item.val = p.entityId ∧
      type? = some type ∧ ∃ r ∈ k.rows s, r.isActiveOf user item type = true := by
  unfold validateActive at h
  match type? with
  | none => cases h
  | some type =>
    obtain ⟨active, hactive, h⟩ := except_bind_eq_ok.mp h
    have hfound : active = true := by simpa using invalidIf_eq_ok.mp h
    obtain ⟨user, huser, hactive⟩ := except_bind_eq_ok.mp hactive
    obtain ⟨item, hitem, hactive⟩ := except_bind_eq_ok.mp hactive
    rw [hfound] at hactive
    refine ⟨user, item, type, Int4.ofInt_eq_ok huser, Int4.ofInt_eq_ok hitem, rfl, ?_⟩
    simpa using Except.ok.inj hactive

theorem insertItem_eq_ok {isDelete : Bool} {u : Unit} (huser : user.val = p.userId)
    (hitem : item.val = p.entityId) (h : insertItem env p k isDelete s = (.ok u, s')) :
    ∃ (row : SocialRow) (rows' : List SocialRow), resolveItemType env p s = some row.itemType ∧
      row.isCurrentOf user item row.itemType = true ∧ row.isDelete = isDelete ∧
      upsertItem k (k.rows s) row = .ok rows' ∧ s' = k.setRows s rows' := by
  have h := stmt_eq_ok h
  rw [← huser, ← hitem, Int4.ofInt_val, Int4.ofInt_val] at h
  simp only [bind, Except.bind] at h
  split at h
  · cases h
  · rename_i type htype
    split at h
    · cases h
    · rename_i rows' hrows
      cases h
      refine ⟨_, rows', htype, ?_, rfl, hrows, rfl⟩
      simp [SocialRow.isCurrentOf, SocialRow.isOf]

/-- The deleted row is the checked one exactly if the write resolves the type validation looked
for. -/
theorem marksChecked_iff_of_run {tx : EntityTx}
    (hvalid : validateActive tx.params k (k.checkedType env tx.params s) s = .ok ())
    (hwrite : insertItem env tx.params k true s = (.ok (), s')) :
    MarksChecked env k tx s s' ↔
      k.checkedType env tx.params s = resolveItemType env tx.params s := by
  obtain ⟨user, item, type, huser, hitem, hchecked, hactive⟩ := validateActive_eq_ok hvalid
  obtain ⟨row, rows', hresolved, hrow, hdelete, hupsert, rfl⟩ :=
    insertItem_eq_ok huser hitem hwrite
  have hkey : row.userId = user ∧ row.itemId = item := by
    simp only [SocialRow.isCurrentOf, Bool.and_eq_true] at hrow
    exact ⟨(isOf_iff.mp hrow.1).1, (isOf_iff.mp hrow.1).2.1⟩
  rw [hchecked, hresolved, Option.some.injEq]
  constructor
  · rintro ⟨user', item', type', huser', hitem', htype', hmarks⟩
    obtain rfl : user' = user := Int4.ext (huser'.trans huser.symm)
    obtain rfl : item' = item := Int4.ext (hitem'.trans hitem.symm)
    obtain rfl : type' = type := Option.some.inj (htype'.symm.trans hchecked)
    -- a row of another type is not touched by the write and would still be active
    by_contra hne
    obtain ⟨r, hr, hactive⟩ := hactive
    have hcurrent : r.isCurrentOf user' item' type' = true := by
      rw [SocialRow.isActiveOf, Bool.and_eq_true] at hactive
      exact hactive.1
    have hkept := mem_upsertItem hupsert hr (by
      rw [hkey.1, hkey.2]
      exact not_isCurrentOf_of_ne hne hcurrent)
    have hinactive := hmarks.inactive r (by rwa [SocialKind.rows_setRows])
    rw [hactive] at hinactive
    cases hinactive
  · intro heq
    subst heq
    refine ⟨user, item, row.itemType, huser, hitem, hchecked, ?_⟩
    have hcurrent : ∃ r ∈ k.rows s, r.isCurrentOf row.userId row.itemId row.itemType = true := by
      obtain ⟨r, hr, hactive⟩ := hactive
      rw [SocialRow.isActiveOf, Bool.and_eq_true] at hactive
      exact ⟨r, hr, by rw [hkey.1, hkey.2]; exact hactive.1⟩
    rw [upsertItem_of_current hupsert hcurrent, hkey.1, hkey.2]
    exact marksDeleted_of_replaced hactive hrow hdelete

end Spec

/-! ### Main results -/

/-- An accepted Unsave or Unrepost marks the row deleted that validation asked for exactly if it is
an Unrepost, or its entity type and its metadata do not name two different types. -/
theorem takeBack_marks_checked_iff {env : EntityEnv} {k : SocialKind} {tx : EntityTx}
    {s s' : EntityTables} (h : Accepts (takeBackHandler env · k) tx s s') :
    MarksChecked env k tx s s' ↔ k = .repost ∨ TypesAgree env tx.params := by
  obtain ⟨handle, hhandle, hrun⟩ := h
  unfold takeBackHandler at hhandle
  cases k with
  | repost =>
    simp only at hhandle
    split at hhandle
    · cases hhandle
      obtain ⟨_, hvalid, hwrite⟩ := reads_bind_eq_ok hrun
      obtain ⟨-, -, hvalid⟩ := except_bind_eq_ok.mp hvalid
      rw [marksChecked_iff_of_run hvalid hwrite]
      simp [SocialKind.checkedType]
    · cases hhandle
  | save =>
    simp only at hhandle
    split at hhandle
    · cases hhandle
      obtain ⟨_, hvalid, hwrite⟩ := reads_bind_eq_ok hrun
      obtain ⟨-, -, hvalid⟩ := except_bind_eq_ok.mp hvalid
      rw [marksChecked_iff_of_run hvalid hwrite]
      simp only [SocialKind.checkedType, reduceCtorEq, false_or]
      refine ⟨fun heq t t' hentity hmeta => ?_, unsaveType_of_agree⟩
      unfold unsaveType resolveItemType at heq
      rw [hentity, hmeta] at heq
      exact Option.some.inj heq
    · cases hhandle

/-! ### A track saved, a playlist taken back -/

def savedTrack : SocialRow where
  userId := int4 1 one_lt_int4
  itemId := int4 2000000 trackId_lt_int4
  itemType := .track
  isCurrent := true
  isDelete := false
  isOfRepost := false
  createdAt := 0
  txHash := ⟨"aa", by decide⟩

def trackSaved : EntityTables := { oneUser with saves := [savedTrack] }

def unsaveTrack : EntityTx := ownTrackTx "Unsave" "\x7b\x7d"

theorem params_unsaveTrack : unsaveTrack.params = ownTrackParams "Unsave" [] := by
  apply params_ownTrackTx
  rw [Json.parse, Json.numbersInRange, Json.tokens, toList_eq_of_ofList rfl]
  rfl

/-- The user takes back the save of the track. -/
theorem takeBack_savedTrack :
    Accepts (takeBackHandler .plain · .save) unsaveTrack trackSaved
      (unsaveHandler .plain unsaveTrack.params trackSaved).2 ∧
    MarksChecked .plain .save unsaveTrack trackSaved
      (unsaveHandler .plain unsaveTrack.params trackSaved).2 := by
  have haccepts : Accepts (takeBackHandler .plain · .save) unsaveTrack trackSaved
      (unsaveHandler .plain unsaveTrack.params trackSaved).2 := by
    rw [params_unsaveTrack]
    apply accepts_of_isOk
    · rw [params_unsaveTrack]
      rfl
    · decide +kernel
  have hnone : typeFromEntityType .plain (unsaveTrack.params.metadataString "type") = none := by
    rw [params_unsaveTrack]
    decide +kernel
  refine ⟨haccepts, (takeBack_marks_checked_iff haccepts).mpr (.inr fun t t' _ hmeta => ?_)⟩
  cases hnone.symm.trans hmeta

def unsaveAsPlaylist : EntityTx := ownTrackTx "Unsave" "\x7b\"type\":\"playlist\"\x7d"

def unsaveAsPlaylistParams : EntityParams := ownTrackParams "Unsave" [("type", .str "playlist")]

theorem params_unsaveAsPlaylist : unsaveAsPlaylist.params = unsaveAsPlaylistParams := by
  apply params_ownTrackTx
  rw [Json.parse, Json.numbersInRange, Json.tokens, toList_eq_of_ofList rfl]
  rfl

def playlistTakenBack : EntityTables := (unsaveHandler .plain unsaveAsPlaylistParams trackSaved).2

/-- The entity type says a track and the metadata says a playlist: the saved track is what
validation finds, and it stays saved. -/
theorem unsave_leaves_checked_row :
    Accepts (takeBackHandler .plain · .save) unsaveAsPlaylist trackSaved playlistTakenBack ∧
    SocialKind.checkedType .plain unsaveAsPlaylist.params trackSaved .save = some .track ∧
    savedTrack ∈ playlistTakenBack.saves ∧
    ¬ MarksChecked .plain .save unsaveAsPlaylist trackSaved playlistTakenBack := by
  have haccepts : Accepts (takeBackHandler .plain · .save) unsaveAsPlaylist trackSaved
      playlistTakenBack := by
    apply accepts_of_isOk
    · rw [params_unsaveAsPlaylist]
      rfl
    · decide +kernel
  have hkept : savedTrack ∈ playlistTakenBack.saves := by decide +kernel
  have hchecked : SocialKind.checkedType .plain unsaveAsPlaylist.params trackSaved .save =
      some .track := by
    rw [params_unsaveAsPlaylist]
    decide +kernel
  refine ⟨haccepts, hchecked, hkept, ?_⟩
  rintro ⟨user, item, type, huser, hitem, htype, hmarks⟩
  obtain rfl : type = .track := Option.some.inj (htype.symm.trans hchecked)
  obtain rfl : user = int4 1 (by decide) := Int4.ext huser
  obtain rfl : item = int4 2000000 (by decide) := Int4.ext hitem
  exact absurd (hmarks.inactive savedTrack hkept) (by decide)

end OpenAudio.Etl
