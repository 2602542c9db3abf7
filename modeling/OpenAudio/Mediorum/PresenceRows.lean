import OpenAudio.Mediorum.Repair

/-!
# The rows of `blob_presence`

The node keeps a row for every blob it knows to be in a bucket: it records one after a write, and
forgets it with a delete. The operations are those on the buckets together with the statements on
the table, which is enabled for both buckets.
-/

namespace OpenAudio.Mediorum

open OpenAudio.Core Prog

/-- The buckets and the rows of `blob_presence`, with their sizes. -/
structure Shelf where
  storage : Storage := {}
  rows : Table (Side × Bytes) Nat := ∅

namespace Shelf

variable {α β : Type}

def recordBlobPresent (side : Side) (key : Bytes) (size : Nat) : Prog Shelf StoreFailure Unit :=
  modify fun s => { s with rows := s.rows.insert (side, key) size }

def forgetBlobPresent (side : Side) (key : Bytes) : Prog Shelf StoreFailure Unit :=
  modify fun s => { s with rows := AList.erase (side, key) s.rows }

/-- An operation on the buckets that leaves the table alone. -/
def onStorage (m : Prog Storage StoreFailure α) : Prog Shelf StoreFailure α := fun s =>
  ((m s.storage).1, { s with storage := (m s.storage).2 })

def dropAndForget (side : Side) (key : Bytes) (fault : Option String) :
    Prog Shelf StoreFailure Unit := do
  onStorage (dropFromBucket side key fault)
  forgetBlobPresent side key

def dropFromMyBucket (hasArchive : Bool) (key : Bytes) (f : Side → Option String) :
    Prog Shelf StoreFailure Unit := do
  let _ ← attempt (dropAndForget .primary key (f .primary))
  if hasArchive then
    let _ ← attempt (dropAndForget .archive key (f .archive))

/-- `savePresenceStore` after a walk that found what is in the bucket. -/
def savePresenceStore (side : Side) : Prog Shelf StoreFailure Unit :=
  modify fun s => { s with
    rows := (s.storage.objects.entries.filter fun e => e.1.1 == side).foldl
      (fun rows e => rows.insert e.1 e.2.length) (s.rows.filter fun place _ => place.1 != side) }

/-- `filepath.Dir` of the file of a key, up to its last separator -/
def keyDir (key : Bytes) : Bytes := (key.reverse.dropWhile (· != 47)).reverse

/-- What `cleanupStaleTempsNearKey` removes: an old file in the directory of the key whose name
ends in `.tmp`. -/
def IsStaleTemp (key : Bytes) (stale : List Bytes) (temp : Bytes) : Prop :=
  keyDir temp = keyDir key ∧ textBytes ".tmp" <:+ temp ∧ temp ∈ stale

instance (key : Bytes) (stale : List Bytes) : DecidablePred (IsStaleTemp key stale) := fun _ =>
  inferInstanceAs (Decidable (_ ∧ _ ∧ _))

/-- The files go; their rows are not looked at. -/
def cleanupStaleTempsNearKey (side : Side) (key : Bytes) (stale : List Bytes) :
    Prog Storage StoreFailure Unit :=
  modify fun st => { st with
    objects := st.objects.filter fun place _ => !decide (place.1 = side ∧ IsStaleTemp key stale place.2) }

variable (node : StorageNode)

def replicateToMyBucket (fileName : String) (content : Bytes) (ranked placementHosts : List String)
    (w : WriteFaults) : Prog Shelf StoreFailure Unit :=
  match shardCID fileName with
  | none => fail .panic
  | some key => do
    let side := node.bucketForCID ranked placementHosts
    onStorage (node.replicateToMyBucket fileName content ranked placementHosts w)
    recordBlobPresent side key content.length
    onStorage (cleanupStaleTempsNearKey side key w.stale)

def pullFileFromHost (host cid : String) (answer : PeerAnswer) (ranked placementHosts : List String) :
    Prog Shelf StoreFailure Unit :=
  if host = node.selfHost then fail (.other "should not pull blob from self")
  else match answer.body with
    | .error e => fail (.other e)
    | .ok content => replicateToMyBucket node cid content ranked placementHosts answer.write

def pullFirst (cid : String) (answer : Nat → PeerAnswer) (ranked placementHosts : List String) :
    List (String × Nat) → Prog Shelf StoreFailure Bool
  | [] => pure false
  | (host, i) :: hosts => do
    match ← attempt (pullFileFromHost node host cid (answer i) ranked placementHosts) with
    | .ok _ => return true
    | .error _ => pullFirst cid answer ranked placementHosts hosts

/-- An object that is not what its CID says is deleted and forgotten, unless the delete fails. -/
def validateBlob (c : RepairCall) (side : Side) (key : Bytes) (alreadyHave : Bool) :
    Prog Shelf StoreFailure Bool := do
  let valid ← onStorage (node.validateBlob c side key alreadyHave)
  if !valid && c.faults.deleteInvalid.isNone then
    forgetBlobPresent side key
  return valid

def deleteResizedImage (c : RepairCall) (key : Bytes) (alreadyHave : Bool) :
    Prog Shelf StoreFailure Unit :=
  if c.cleanupMode && alreadyHave then do
    let _ ← attempt (dropAndForget .primary key c.faults.deleteResized)
  else pure ()

def fetchBlob (c : RepairCall) (side : Side) (key : Bytes) (preferredHosts : List String) :
    Prog Shelf StoreFailure Unit := do
  if ← onStorage (node.relocateLocal c side key) then
    return
  let hosts := (node.candidates c preferredHosts).zipIdx.filter fun host => host.1 ≠ node.selfHost
  if ← pullFirst node c.cid c.answer c.ranked c.placementHosts hosts then
    return
  fail (.other "failed to pull from any host")

def dropOverReplicated (c : RepairCall) (key : Bytes) (preferredHosts : List String)
    (entry : Option PresenceEntry) : Prog Shelf StoreFailure Unit :=
  if c.placementHosts = [] ∧ node.storeAll = false ∧ c.storeRecent = false ∧ c.cleanupMode = true ∧
      node.replicationFactor ≤ node.rankOf preferredHosts ∧
      ∃ e ∈ entry, ¬ c.now - week < e.modTime then
    dropFromMyBucket node.hasArchive key c.faults.drop
  else pure ()

def repairResolved (c : RepairCall) (side : Side) (key : Bytes) (preferredHosts : List String)
    (isMine : Bool) (entry : Option PresenceEntry) : Prog Shelf StoreFailure Unit := do
  if ← validateBlob node c side key entry.isSome then
    if c.isResizedImage then
      deleteResizedImage c key entry.isSome
    else
      onStorage (modify fun st => entry.elim st fun e => st.know side key e.size)
      onStorage (node.dropPrimaryDuplicate c side key entry.isSome)
      if isMine && entry.isNone && c.hasSpace then
        fetchBlob node c side key preferredHosts
      else
        dropOverReplicated node c key preferredHosts entry

def repairKey (c : RepairCall) (key : Bytes) (preferredHosts : List String) (isMine : Bool) :
    Prog Shelf StoreFailure Unit := fun s =>
  let side := node.bucketForCID c.ranked c.placementHosts
  if (s.storage.seenKeys.lookup key).isSome && !c.storeRecent then (.ok (), s)
  else
    match if c.cleanupMode then none else s.storage.knownPresent.lookup (side, key) with
    | some size => (.ok (), { s with storage := s.storage.see key true size })
    | none =>
      let entry := c.presence s.storage side key
      repairResolved node c side key preferredHosts isMine entry
        { s with storage := s.storage.see key entry.isSome (entry.elim 0 PresenceEntry.size) }

def repairCidWithPolicy (c : RepairCall) : Prog Shelf StoreFailure Unit :=
  if c.cid = "" then pure ()
  else
    let isPlaced := decide (c.placementHosts ≠ [])
    if isPlaced && !decide (node.selfHost ∈ c.placementHosts) then pure ()
    else
      let preferredHosts := if isPlaced then c.placementHosts else c.ranked
      let isMine := node.isMine c.ranked || c.storeRecent || isPlaced
      if !c.cleanupMode && !isMine then pure ()
      else if c.cid ∈ c.pruneSkips then pure ()
      else
        match shardCID c.cid with
        | none => fail .panic
        | some key => repairKey node c key preferredHosts isMine

/-! ### Rows and blobs -/

/-- Every row names a blob that is in its bucket. -/
def Sound (s : Shelf) : Prop :=
  ∀ side key, (s.rows.lookup (side, key)).isSome = true → (s.storage.get side key).isSome = true

/-- The buckets lose nothing but what is at these places. -/
def Loses (places : Set (Side × Bytes)) (st st' : Storage) : Prop :=
  ∀ side key, (side, key) ∉ places → (st.get side key).isSome = true →
    (st'.get side key).isSome = true

instance (places : Set (Side × Bytes)) : IsPreorder Storage (Loses places) where
  refl _ _ _ _ h := h
  trans _ _ _ h₁ h₂ side key hplace h := h₂ side key hplace (h₁ side key hplace h)

/-- The rows stay sound, and the places stay without one. -/
def Spares (places : Set (Side × Bytes)) (s s' : Shelf) : Prop :=
  s.Sound → (∀ place ∈ places, s.rows.lookup place = none) →
    s'.Sound ∧ ∀ place ∈ places, s'.rows.lookup place = none

instance (places : Set (Side × Bytes)) : IsPreorder Shelf (Spares places) where
  refl _ h hplaces := ⟨h, hplaces⟩
  trans _ _ _ h₁ h₂ h hplaces := h₂ (h₁ h hplaces).1 (h₁ h hplaces).2

variable {places : Set (Side × Bytes)} {node} {side : Side} {key : Bytes}

theorem loses_of_get {st st' : Storage} (h : ∀ side key, st'.get side key = st.get side key) :
    Loses places st st' := fun side key _ hget => by rwa [h side key]

theorem loses_writeObject (content : Bytes) (w : WriteFaults) :
    Keeps (Loses places) (writeObject side key content w) := by
  intro st side' key' _ hget
  rcases writeObject_cases side key content w st with
    ⟨e, -, hw⟩ | ⟨n, e, -, -, hw⟩ | ⟨e, -, -, hw⟩ | ⟨-, -, hw⟩ <;> rw [hw]
  · exact hget
  · dsimp only
    split
    · exact hget
    · rw [Storage.get_put]
      split <;> [rfl; exact hget]
  · exact hget
  · rw [Storage.get_put]
    split <;> [rfl; exact hget]

theorem loses_dropFromBucket (hplace : (side, key) ∈ places) (fault : Option String) :
    Keeps (Loses places) (dropFromBucket side key fault) := by
  intro st side' key' hother hget
  cases fault with
  | some e => exact hget
  | none =>
    have hne : ¬ (side' = side ∧ key' = key) := fun h => hother (by rwa [h.1, h.2])
    simpa [dropFromBucket, Prog.modify, hne] using hget

theorem loses_cleanupStaleTempsNearKey {stale : List Bytes}
    (htemps : ∀ temp, IsStaleTemp key stale temp → (side, temp) ∈ places) :
    Keeps (Loses places) (cleanupStaleTempsNearKey side key stale) := by
  intro st side' key' hother hget
  obtain ⟨content, hcontent⟩ := Option.isSome_iff_exists.mp hget
  have hkept : (cleanupStaleTempsNearKey side key stale st).2.get side' key' = some content := by
    refine (Table.lookup_filter_eq_some _ _ _ _).mpr ⟨hcontent, ?_⟩
    simp only [Bool.not_eq_true', decide_eq_false_iff_not]
    rintro ⟨rfl, htemp⟩
    exact hother (htemps key' htemp)
  rw [hkept]
  rfl

theorem loses_relocateBetweenBuckets (hplace : (side, key) ∈ places) (dst : Side)
    (f : MoveFaults) : Keeps (Loses places) (relocateBetweenBuckets key dst side f) := by
  intro st
  unfold relocateBetweenBuckets
  cases f.newReader with
  | some e => exact refl st
  | none =>
    cases st.get side key with
    | none => exact refl st
    | some content =>
      refine Keeps.bind (loses_writeObject content f.write) (fun n => ?_) st
      refine Keeps.bind (fun st => loses_of_get fun _ _ => rfl) fun _ => ?_
      exact (loses_dropFromBucket hplace f.delete).attempt.bind fun _ => keeps_pure n

theorem spares_of_loses {s : Shelf} {st : Storage} (h : Loses places s.storage st) :
    Spares places s { s with storage := st } := by
  refine fun hsound hplaces => ⟨fun side key hrow => ?_, hplaces⟩
  refine h side key (fun hmem => ?_) (hsound side key hrow)
  simp [hplaces _ hmem] at hrow

theorem spares_onStorage {m : Prog Storage StoreFailure α} (h : Keeps (Loses places) m) :
    Keeps (Spares places) (onStorage m) := fun s => spares_of_loses (h s.storage)

/-- A delete that forgets its row, wherever it is. -/
theorem spares_erase {s : Shelf} {st : Storage}
    (hst : ∀ side' key', ¬ (side' = side ∧ key' = key) → st.get side' key' = s.storage.get side' key') :
    Spares places s { storage := st, rows := AList.erase (side, key) s.rows } := by
  refine fun hsound hplaces => ⟨fun side' key' hrow => ?_, fun place hplace => ?_⟩
  · simp only [Table.lookup_erase_eq, Prod.mk.injEq] at hrow
    by_cases hself : side' = side ∧ key' = key
    · simp [hself] at hrow
    · rw [if_neg hself] at hrow
      rw [hst side' key' hself]
      exact hsound side' key' hrow
  · rw [Table.lookup_erase_eq, hplaces place hplace, ite_self]

theorem spares_dropAndForget (fault : Option String) :
    Keeps (Spares places) (dropAndForget side key fault) := by
  intro s
  cases fault with
  | some e => exact refl s
  | none =>
    refine spares_erase fun side' key' hne => ?_
    simp [dropFromBucket, Prog.modify, hne]

theorem spares_dropFromMyBucket (hasArchive : Bool) (f : Side → Option String) :
    Keeps (Spares places) (dropFromMyBucket hasArchive key f) :=
  (spares_dropAndForget _).attempt.bind fun _ =>
    ((spares_dropAndForget _).attempt.bind fun _ => keeps_pure ()).ite (keeps_pure ())

/-- What a write to a bucket leaves behind: its own place may get a row, and the places of the
temporary files beside it may lose their objects. -/
structure Written (places : Set (Side × Bytes)) (side : Side) (key : Bytes) (stale : List Bytes) :
    Prop where
  own : (side, key) ∉ places
  temps : ∀ temp, IsStaleTemp key stale temp → (side, temp) ∈ places

/-- The row is recorded over an object that is there. -/
theorem spares_record (hown : (side, key) ∉ places) {s : Shelf} {content : Bytes}
    (hget : s.storage.get side key = some content) (size : Nat) :
    Spares places s (recordBlobPresent side key size s).2 := by
  refine fun hsound hnone => ⟨fun side' key' hrow => ?_, fun place hplace => ?_⟩
  · simp only [recordBlobPresent, Prog.modify, Table.lookup_insert_eq, Prod.mk.injEq] at hrow ⊢
    by_cases hself : side' = side ∧ key' = key
    · rw [hself.1, hself.2, hget]
      rfl
    · rw [if_neg hself] at hrow
      exact hsound side' key' hrow
  · simp only [recordBlobPresent, Prog.modify]
    rw [Table.lookup_insert_eq, if_neg]
    · exact hnone place hplace
    · rintro rfl
      exact hown hplace

theorem spares_replicateToMyBucket {fileName : String} {ranked placementHosts : List String}
    {w : WriteFaults} (hwritten : ∀ key, shardCID fileName = some key →
      Written places (node.bucketForCID ranked placementHosts) key w.stale) (content : Bytes) :
    Keeps (Spares places) (replicateToMyBucket node fileName content ranked placementHosts w) := by
  unfold replicateToMyBucket StorageNode.replicateToMyBucket
  cases hkey : shardCID fileName with
  | none => exact keeps_fail _
  | some key =>
    intro s
    have hown := (hwritten key hkey).own
    have hclean := spares_onStorage (loses_cleanupStaleTempsNearKey (hwritten key hkey).temps)
    have hloses : Loses places s.storage
        (writeObject (node.bucketForCID ranked placementHosts) key content w s.storage).2 :=
      loses_writeObject content w s.storage
    -- the row is recorded, and the directory cleaned up, exactly if the write is committed
    match hw : writeObject (node.bucketForCID ranked placementHosts) key content w s.storage with
    | (.error e, st) =>
      rw [hw] at hloses
      simpa [onStorage, bind_apply, hw] using spares_of_loses hloses
    | (.ok n, st) =>
      rw [hw] at hloses
      have hget : (st.know (node.bucketForCID ranked placementHosts) key n).get
          (node.bucketForCID ranked placementHosts) key = some content := by
        simp [StorageNode.writeObject_eq_ok hw]
      have hrecord : Spares places { s with storage := st.know _ key n } _ :=
        spares_record hown hget content.length
      simpa [onStorage, bind_apply, hw, recordBlobPresent, Prog.modify] using
        IsTrans.trans _ _ _ (spares_of_loses hloses) (IsTrans.trans _ _ _ hrecord (hclean _))

theorem spares_pullFirst {cid : String} {ranked placementHosts : List String}
    {answer : Nat → PeerAnswer} (hwritten : ∀ i key, shardCID cid = some key →
      Written places (node.bucketForCID ranked placementHosts) key (answer i).write.stale)
    (hosts : List (String × Nat)) :
    Keeps (Spares places) (pullFirst node cid answer ranked placementHosts hosts) := by
  induction hosts with
  | nil => exact keeps_pure _
  | cons host hosts ih =>
    refine Keeps.bind (Keeps.attempt ((keeps_fail _).ite ?_)) fun result => ?_
    · cases (answer host.2).body with
      | error e => exact keeps_fail _
      | ok content => exact spares_replicateToMyBucket (hwritten host.2) content
    · cases result with
      | ok _ => exact keeps_pure _
      | error _ => exact ih

theorem spares_validateBlob (c : RepairCall) (alreadyHave : Bool) :
    Keeps (Spares places) (validateBlob node c side key alreadyHave) := by
  intro s
  have hstay : ∀ r : Except StoreFailure Bool,
      node.validateBlob c side key alreadyHave s.storage = (r, s.storage) →
      (r = .ok false → c.faults.deleteInvalid.isSome = true) →
      Spares places s (validateBlob node c side key alreadyHave s).2 := by
    intro r hr hfault
    simp only [validateBlob, bind_apply, onStorage, hr]
    rcases r with _ | _ | _
    · exact refl s
    · simp only [Bool.not_false, Bool.true_and, Option.isNone_iff_eq_none]
      rw [if_neg (by simpa [Option.isSome_iff_ne_none] using hfault rfl)]
      exact refl s
    · exact refl s
  by_cases hlook : (c.cleanupMode && alreadyHave && !isLegacyCID c.cid) = true
  · cases hreader : c.faults.newReader with
    | some e =>
      refine hstay (.error (.newReader e)) ?_ nofun
      simp [StorageNode.validateBlob, hlook, hreader]
    | none =>
      cases hget : s.storage.get side key with
      | none =>
        refine hstay (.error (.newReader "blob not found")) ?_ nofun
        simp [StorageNode.validateBlob, hlook, hreader, hget]
      | some content =>
        by_cases hvalid : c.faults.compute.isSome = true ∨ node.computeCID content = c.cid
        · refine hstay (.ok true) ?_ (by simp)
          rcases hvalid with hvalid | hvalid <;>
            simp [StorageNode.validateBlob, hlook, hreader, hget, hvalid]
        · rw [not_or] at hvalid
          cases hdelete : c.faults.deleteInvalid with
          | some e =>
            refine hstay (.ok false) ?_ (by simp [hdelete])
            simp [StorageNode.validateBlob, hlook, hreader, hget, hvalid, hdelete]
          | none =>
            have hdeleted : node.validateBlob c side key alreadyHave s.storage =
                (.ok false, ((s.storage.erase side key).forget side key).see key false 0) := by
              simp [StorageNode.validateBlob, hlook, hreader, hget, hvalid, hdelete]
            simp only [validateBlob, bind_apply, onStorage, hdeleted, hdelete]
            refine spares_erase fun side' key' hne => ?_
            simp [hne]
  · exact hstay (.ok true) (by simp [StorageNode.validateBlob, hlook]) (by simp)

/-- Where a repair may delete an object that keeps its row: the copy outside the bucket the blob
belongs to, and the temporary files beside the copy it pulls. -/
def Repaired (c : RepairCall) (side : Side) (key : Bytes) : Set (Side × Bytes) :=
  { place | place = (side.other, key) ∨
    place.1 = side ∧ ∃ i, IsStaleTemp key (c.answer i).write.stale place.2 }

theorem written_repaired {c : RepairCall}
    (hfresh : ∀ i, ¬ IsStaleTemp key (c.answer i).write.stale key) (i : Nat) :
    Written (Repaired c side key) side key (c.answer i).write.stale where
  own := by
    rintro (heq | ⟨-, j, htemp⟩)
    · exact Side.other_ne _ (Prod.mk.inj heq).1.symm
    · exact hfresh j htemp
  temps _ htemp := .inr ⟨rfl, i, htemp⟩

variable {c : RepairCall}

theorem spares_repairResolved (hkey : shardCID c.cid = some key)
    (hfresh : ∀ i, ¬ IsStaleTemp key (c.answer i).write.stale key) (preferredHosts : List String)
    (isMine : Bool) (entry : Option PresenceEntry) :
    Keeps (Spares (Repaired c (node.bucketForCID c.ranked c.placementHosts) key))
      (repairResolved node c (node.bucketForCID c.ranked c.placementHosts) key preferredHosts
        isMine entry) := by
  have hother : ((node.bucketForCID c.ranked c.placementHosts).other, key) ∈
      Repaired c (node.bucketForCID c.ranked c.placementHosts) key := .inl rfl
  refine (spares_validateBlob c _).bind fun valid => Keeps.ite ?_ (keeps_pure _)
  refine Keeps.ite ?_ (Keeps.bind ?_ fun _ => Keeps.bind ?_ fun _ => Keeps.ite ?_ ?_)
  · exact ((spares_dropAndForget _).attempt.bind fun _ => keeps_pure ()).ite (keeps_pure ())
  · exact spares_onStorage fun st => loses_of_get fun _ _ => by cases entry <;> rfl
  · -- only an archived blob loses its primary copy
    refine spares_onStorage fun st => ?_
    unfold StorageNode.dropPrimaryDuplicate
    split
    · rename_i hdrop
      simp only [Bool.and_eq_true, beq_iff_eq] at hdrop
      rw [hdrop.1.2.2] at hother ⊢
      exact ((loses_dropFromBucket hother _).attempt.bind fun _ => keeps_pure ()) st
    · exact refl st
  · refine Keeps.bind (spares_onStorage fun st => ?_) fun moved => (keeps_pure ()).ite ?_
    · unfold StorageNode.relocateLocal
      split
      · refine Keeps.bind (loses_relocateBetweenBuckets hother _ _).attempt (fun result => ?_) st
        cases result with
        | error e => exact keeps_pure false
        | ok n => exact Keeps.bind (fun st => loses_of_get fun _ _ => rfl) fun _ => keeps_pure true
      · exact refl st
    · refine (spares_pullFirst (fun i key' hkey' => ?_) _).bind fun served =>
        (keeps_pure ()).ite (keeps_fail _)
      obtain rfl : key = key' := Option.some.inj (hkey.symm.trans hkey')
      exact written_repaired hfresh i
  · exact (spares_dropFromMyBucket _ _).ite (keeps_pure ())

theorem spares_repairKey (hkey : shardCID c.cid = some key)
    (hfresh : ∀ i, ¬ IsStaleTemp key (c.answer i).write.stale key) (preferredHosts : List String)
    (isMine : Bool) :
    Keeps (Spares (Repaired c (node.bucketForCID c.ranked c.placementHosts) key))
      (repairKey node c key preferredHosts isMine) := by
  intro s
  unfold repairKey
  dsimp only
  split
  · exact refl s
  · split
    · exact spares_of_loses (loses_of_get fun _ _ => rfl)
    · exact fun hsound hnone => spares_repairResolved hkey hfresh preferredHosts isMine _
        { s with storage := s.storage.see key _ _ } hsound hnone

/-- The temporary files beside the object of the key that the cleanup removes have no row, and the
object itself, just written, is none of them. -/
def TempsUnlisted (s : Shelf) (side : Side) (key : Bytes) (stale : List Bytes) : Prop :=
  ∀ temp, IsStaleTemp key stale temp → temp ≠ key ∧ s.rows.lookup (side, temp) = none

theorem sound_repairCidWithPolicy {s : Shelf} (hsound : s.Sound)
    (h : ∀ key, shardCID c.cid = some key →
      s.rows.lookup ((node.bucketForCID c.ranked c.placementHosts).other, key) = none ∧
      ∀ i, s.TempsUnlisted (node.bucketForCID c.ranked c.placementHosts) key
        (c.answer i).write.stale) :
    (repairCidWithPolicy node c s).2.Sound := by
  cases hkey : shardCID c.cid with
  | none =>
    have hkeeps : Keeps (Spares ∅) (repairCidWithPolicy node c) := by
      unfold repairCidWithPolicy
      rw [hkey]
      exact (keeps_pure ()).ite ((keeps_pure ()).ite ((keeps_pure ()).ite
        ((keeps_pure ()).ite (keeps_fail _))))
    exact (hkeeps s hsound nofun).1
  | some key =>
    obtain ⟨hother, htemps⟩ := h key hkey
    have hkeeps : Keeps (Spares (Repaired c (node.bucketForCID c.ranked c.placementHosts) key))
        (repairCidWithPolicy node c) := by
      unfold repairCidWithPolicy
      rw [hkey]
      exact (keeps_pure ()).ite ((keeps_pure ()).ite ((keeps_pure ()).ite
        ((keeps_pure ()).ite (spares_repairKey hkey (fun i htemp => (htemps i key htemp).1 rfl) _ _))))
    refine (hkeeps s hsound ?_).1
    rintro ⟨side, temp⟩ (heq | ⟨rfl, i, htemp⟩)
    · rw [heq]
      exact hother
    · exact (htemps i temp htemp).2

theorem sound_replicateToMyBucket {fileName : String} {ranked placementHosts : List String}
    {w : WriteFaults} {s : Shelf} (hsound : s.Sound) (h : ∀ key, shardCID fileName = some key →
      s.TempsUnlisted (node.bucketForCID ranked placementHosts) key w.stale) (content : Bytes) :
    (replicateToMyBucket node fileName content ranked placementHosts w s).2.Sound := by
  let places : Set (Side × Bytes) := { place | place.1 = node.bucketForCID ranked placementHosts ∧
    ∃ key, shardCID fileName = some key ∧ IsStaleTemp key w.stale place.2 }
  have hwritten : ∀ key, shardCID fileName = some key →
      Written places (node.bucketForCID ranked placementHosts) key w.stale := by
    refine fun key hkey => ⟨?_, fun temp htemp => ⟨rfl, key, hkey, htemp⟩⟩
    rintro ⟨-, key', hkey', htemp⟩
    obtain rfl : key = key' := Option.some.inj (hkey.symm.trans hkey')
    exact (h key hkey key htemp).1 rfl
  refine (spares_replicateToMyBucket hwritten content s hsound ?_).1
  rintro ⟨side, temp⟩ ⟨rfl, key, hkey, htemp⟩
  exact (h key hkey temp htemp).2

theorem sound_savePresenceStore {s : Shelf} (hsound : s.Sound) :
    (savePresenceStore side s).2.Sound := by
  intro side' key hrow
  simp only [savePresenceStore, Prog.modify, Table.lookup_foldl_insert] at hrow ⊢
  cases hfind : ((s.storage.objects.entries.filter fun e => e.1.1 == side).reverse.find?
      fun e => decide (e.1 = (side', key))) with
  | some e =>
    have hmem := List.mem_of_find?_eq_some hfind
    rw [List.mem_reverse, List.mem_filter] at hmem
    have hat : e.1 = (side', key) := by simpa using List.find?_some hfind
    have hobject := (Table.mem_entries_iff s.storage.objects e.1 e.2).mp hmem.1
    rw [hat] at hobject
    simp [Storage.get, hobject]
  | none =>
    rw [hfind, Option.map_none, Option.none_or] at hrow
    obtain ⟨size, hsize⟩ := Option.isSome_iff_exists.mp hrow
    exact hsound side' key (by simp [((Table.lookup_filter_eq_some _ _ _ _).mp hsize).1])

end Shelf

/-! ### Sequences of operations -/

inductive ShelfOp where
  | replicateToMyBucket (fileName : String) (content : Bytes) (ranked placementHosts : List String)
    (w : WriteFaults)
  | dropFromMyBucket (key : Bytes) (f : Side → Option String)
  | dropFromBucket (side : Side) (key : Bytes) (fault : Option String)
  | relocateBetweenBuckets (key : Bytes) (dst src : Side) (f : MoveFaults)
  | repairCidWithPolicy (c : RepairCall)
  | savePresenceStore (side : Side)

namespace ShelfOp

variable (node : StorageNode)

def run (s : Shelf) : ShelfOp → Shelf
  | replicateToMyBucket fileName content ranked placementHosts w =>
    (Shelf.replicateToMyBucket node fileName content ranked placementHosts w s).2
  | dropFromMyBucket key f => (Shelf.dropFromMyBucket node.hasArchive key f s).2
  | dropFromBucket side key fault => (Shelf.onStorage (Mediorum.dropFromBucket side key fault) s).2
  | relocateBetweenBuckets key dst src f =>
    (Shelf.onStorage (Mediorum.relocateBetweenBuckets key dst src f) s).2
  | repairCidWithPolicy c => (Shelf.repairCidWithPolicy node c s).2
  | savePresenceStore side => (Shelf.savePresenceStore side s).2

/-- There is no row for the copy that is dropped from one bucket only or moved to the other, for a
temporary file that the cleanup after a write removes, nor, when a blob is repaired, for a copy
outside the bucket it belongs to. -/
def Unlisted (s : Shelf) : ShelfOp → Prop
  | replicateToMyBucket fileName _ ranked placementHosts w => ∀ key, shardCID fileName = some key →
    s.TempsUnlisted (node.bucketForCID ranked placementHosts) key w.stale
  | dropFromBucket side key _ => s.rows.lookup (side, key) = none
  | relocateBetweenBuckets key _ src _ => s.rows.lookup (src, key) = none
  | repairCidWithPolicy c => ∀ key, shardCID c.cid = some key →
    s.rows.lookup ((node.bucketForCID c.ranked c.placementHosts).other, key) = none ∧
    ∀ i, s.TempsUnlisted (node.bucketForCID c.ranked c.placementHosts) key (c.answer i).write.stale
  | _ => True

variable {node}

theorem sound_run {op : ShelfOp} {s : Shelf} (hsound : s.Sound) (h : op.Unlisted node s) :
    (op.run node s).Sound := by
  cases op with
  | replicateToMyBucket fileName content ranked placementHosts w =>
    exact Shelf.sound_replicateToMyBucket hsound h content
  | dropFromMyBucket key f => exact (Shelf.spares_dropFromMyBucket _ f s hsound fun _ => False.elim).1
  | dropFromBucket side key fault =>
    have hplace : (side, key) ∈ ({ place | place = (side, key) } : Set (Side × Bytes)) := rfl
    refine (Shelf.spares_onStorage (Shelf.loses_dropFromBucket hplace fault) s hsound ?_).1
    rintro place rfl
    exact h
  | relocateBetweenBuckets key dst src f =>
    have hplace : (src, key) ∈ ({ place | place = (src, key) } : Set (Side × Bytes)) := rfl
    refine (Shelf.spares_onStorage (Shelf.loses_relocateBetweenBuckets hplace dst f) s hsound ?_).1
    rintro place rfl
    exact h
  | repairCidWithPolicy c => exact Shelf.sound_repairCidWithPolicy hsound h
  | savePresenceStore side => exact Shelf.sound_savePresenceStore hsound

/-- From sound rows on, whatever the operations and the faults of the buckets: if no operation drops
or moves a copy that has a row without forgetting it, every row names a blob that is in its bucket
after every operation. -/
theorem rows_sound_of_unlisted {ops : List ShelfOp} {s : Shelf} (hsound : s.Sound)
    (h : ∀ before op after, ops = before ++ op :: after → op.Unlisted node (before.foldl (run node) s))
    {before : List ShelfOp} (hbefore : before <+: ops) : (before.foldl (run node) s).Sound := by
  induction before using List.reverseRecOn with
  | nil => exact hsound
  | append_singleton before op ih =>
    obtain ⟨after, hops⟩ := hbefore
    rw [List.append_assoc] at hops
    rw [List.foldl_append]
    exact sound_run (ih ⟨op :: after, hops⟩) (h before op after hops.symm)

/-- What an interrupted write of the blob has left. -/
def orphan : Bytes :=
  textBytes "2y2/QmP8Wuu1kN9iHBoBptB4UrTN3orna3Z6ZW2xevNkoE2y22.1763323200000000000.tmp"

def interrupted : Shelf where
  storage := ({} : Storage).put .primary orphan []

def recording : ShelfOp :=
  .replicateToMyBucket "QmP8Wuu1kN9iHBoBptB4UrTN3orna3Z6ZW2xevNkoE2y22" [1] ["https://a.example"] []
    { stale := [orphan] }

/-- The blob is recorded in the primary bucket and the cleanup removes the temporary file beside it;
a walk finds the blob, and it is dropped with its row. -/
theorem recorded_then_dropped :
    let key := textBytes "2y2/QmP8Wuu1kN9iHBoBptB4UrTN3orna3Z6ZW2xevNkoE2y22"
    let walked := [recording, .savePresenceStore .primary].foldl (run StorageNode.archiver) interrupted
    (walked.rows.lookup (.primary, key) = some 1 ∧ walked.storage.get .primary orphan = none) ∧
      ([recording, .savePresenceStore .primary, .dropFromMyBucket key fun _ => none].foldl
        (run StorageNode.archiver) interrupted).Sound := by
  refine ⟨by decide +kernel, rows_sound_of_unlisted (by intro side key h; cases h) ?_
    (List.prefix_refl _)⟩
  rintro (_ | ⟨first, before⟩) op after hops
  · obtain ⟨rfl, -⟩ := List.cons.inj hops
    rintro key ⟨⟩ temp ⟨-, -, htemp⟩
    obtain rfl := List.mem_singleton.mp htemp
    exact ⟨by decide +kernel, rfl⟩
  · rw [List.cons_append] at hops
    have hop : op ∈ before ++ op :: after := by simp
    rw [← (List.cons.inj hops).2] at hop
    simp only [List.mem_cons, List.not_mem_nil, or_false] at hop
    rcases hop with rfl | rfl <;> trivial

/-- The node is no longer in the replica set: the repair moves the blob to the archive, and the row
in the primary bucket stays. And a walk lists a temporary file that a later write cleans up. -/
theorem moved_blob_listed :
    let key := textBytes "2y2/QmP8Wuu1kN9iHBoBptB4UrTN3orna3Z6ZW2xevNkoE2y22"
    let s := [recording, .repairCidWithPolicy
      { cid := "QmP8Wuu1kN9iHBoBptB4UrTN3orna3Z6ZW2xevNkoE2y22",
        ranked := ["https://b.example", "https://c.example", "https://d.example", "https://a.example"],
        policy := { storeAll := true, storeRecent := false, ttl := 0, now := 0 },
        cleanupMode := false, now := 0 }].foldl (run StorageNode.archiver) {}
    let walked := [.savePresenceStore .primary, recording].foldl (run StorageNode.archiver) interrupted
    (s.rows.lookup (.primary, key) = some 1 ∧ s.storage.get .primary key = none ∧
      s.storage.get .archive key = some [1]) ∧
    walked.rows.lookup (.primary, orphan) = some 0 ∧ walked.storage.get .primary orphan = none := by
  decide +kernel

end ShelfOp

end OpenAudio.Mediorum
