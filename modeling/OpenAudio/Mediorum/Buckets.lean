import OpenAudio.Lib.Program
import OpenAudio.Lib.Table
import OpenAudio.Core.Types

/-!
# The buckets of a storage node

A storage node keeps its blobs in a primary bucket and, if it is configured to, an archive. An
object becomes visible under its key when the writer is closed, with whatever was written until
then, unless the context of the writer was cancelled.
-/

namespace OpenAudio.Mediorum

open OpenAudio.Core Prog

/-! ### Keys -/

/-- A component of a path in `filepath.Clean`, after those that are kept, the last one first. -/
def cleanComponent (rooted : Bool) (kept : List Bytes) (component : Bytes) : List Bytes :=
  if component = [] ∨ component = textBytes "." then kept
  else if component = textBytes ".." then
    match kept with
    | [] => if rooted then [] else [component]
    | last :: rest => if last = textBytes ".." then component :: kept else rest
  else component :: kept

/-- `filepath.Clean` -/
def cleanPath (path : Bytes) : Bytes :=
  let rooted := path.head? = some 47
  let kept := (path.splitOn 47).foldl (cleanComponent rooted) []
  let clean := (if rooted then [47] else []) ++ List.intercalate [47] kept.reverse
  if clean = [] then textBytes "." else clean

def isLegacyCID (cid : String) : Bool := (textBytes "Qm").isPrefixOf (textBytes cid)

def isLegacyCIDStrict (cid : String) : Bool := isLegacyCID cid && (textBytes cid).length == 46

/-- `ShardCID`. A short CID with the prefix of the first version is sliced out of range: no key. -/
def shardCID (cid : String) : Option Bytes :=
  let bytes := textBytes cid
  if isLegacyCIDStrict cid then
    some (cleanPath ((bytes.drop 42).take 3 ++ [47] ++ bytes))
  else if (textBytes "ba").isPrefixOf bytes then
    if bytes.length < 5 then none
    else some (cleanPath (bytes.drop (bytes.length - 5) ++ [47] ++ bytes))
  else some bytes

example : shardCID "baeaaaiqsecffzabbj7utfkkmywbhlls46twtaq3fbvpbozvugl4bqszfru7u2" =
    some (textBytes "ru7u2/baeaaaiqsecffzabbj7utfkkmywbhlls46twtaq3fbvpbozvugl4bqszfru7u2") := by
  decide +kernel

/-! ### The node -/

inductive Side where
  | primary
  | archive
deriving DecidableEq

/-- `otherBucket` -/
def Side.other : Side → Side
  | primary => archive
  | archive => primary

theorem Side.other_ne (side : Side) : side.other ≠ side := by cases side <;> decide

/-- The objects of the buckets, the sizes of those that are known to be there, and what the current
repair cycle has found out about keys: whether the object is there, and its size. -/
structure Storage where
  objects : Table (Side × Bytes) Bytes := ∅
  knownPresent : Table (Side × Bytes) Nat := ∅
  seenKeys : Table Bytes (Bool × Nat) := ∅

/-- The configuration of a storage node. -/
structure StorageNode where
  selfHost : String
  replicationFactor : Int
  storeAll : Bool
  hasArchive : Bool
  /-- `ComputeFileCID` of what a reader returns -/
  computeCID : Bytes → String

/-- What a call of the node ends with that does not return nil, by the statement that failed. -/
inductive StoreFailure where
  | panic
  | newReader (msg : String)
  | newWriter (msg : String)
  | copy (msg : String)
  | close (msg : String)
  | other (msg : String)
deriving DecidableEq

/-- How a write goes. -/
structure WriteFaults where
  newWriter : Option String := none
  /-- the copy breaks off on either side, after so many bytes were written -/
  copy : Option (Nat × String) := none
  /-- the context is cancelled, and what `Close` then returns -/
  cancelled : Option String := none
  /-- the keys whose files were last written more than `DefaultStaleTempFileAge` ago, and which
  `os.Remove` can delete -/
  stale : List Bytes := []

namespace Storage

variable (st : Storage)

def get (side : Side) (key : Bytes) : Option Bytes := st.objects.lookup (side, key)

def put (side : Side) (key content : Bytes) : Storage :=
  { st with objects := st.objects.insert (side, key) content }

def erase (side : Side) (key : Bytes) : Storage :=
  { st with objects := AList.erase (side, key) st.objects }

def know (side : Side) (key : Bytes) (size : Nat) : Storage :=
  { st with knownPresent := st.knownPresent.insert (side, key) size }

def forget (side : Side) (key : Bytes) : Storage :=
  { st with knownPresent := AList.erase (side, key) st.knownPresent }

def see (key : Bytes) (alreadyHave : Bool) (size : Nat) : Storage :=
  { st with seenKeys := st.seenKeys.insert key (alreadyHave, size) }

@[simp] theorem get_put (side : Side) (key content : Bytes) (side' : Side) (key' : Bytes) :
    (st.put side key content).get side' key' =
      if side' = side ∧ key' = key then some content else st.get side' key' := by
  unfold get put
  simp only [Table.lookup_insert_eq, Prod.mk.injEq]

@[simp] theorem get_erase (side : Side) (key : Bytes) (side' : Side) (key' : Bytes) :
    (st.erase side key).get side' key' =
      if side' = side ∧ key' = key then none else st.get side' key' := by
  unfold get erase
  simp only [Table.lookup_erase_eq, Prod.mk.injEq]

@[simp] theorem get_know (side : Side) (key : Bytes) (size : Nat) (side' : Side) (key' : Bytes) :
    (st.know side key size).get side' key' = st.get side' key' := rfl

@[simp] theorem get_forget (side : Side) (key : Bytes) (side' : Side) (key' : Bytes) :
    (st.forget side key).get side' key' = st.get side' key' := rfl

@[simp] theorem get_see (key : Bytes) (alreadyHave : Bool) (size : Nat) (side' : Side)
    (key' : Bytes) : (st.see key alreadyHave size).get side' key' = st.get side' key' := rfl

end Storage

/-- A new writer, `io.Copy` of the content and `Close`. After a copy that broke off the writer is
closed, too, and what `Close` returns is ignored. -/
def writeObject (side : Side) (key content : Bytes) (w : WriteFaults) :
    Prog Storage StoreFailure Nat := fun st =>
  match w.newWriter with
  | some e => (.error (.newWriter e), st)
  | none =>
    match w.copy with
    | some (n, e) =>
      (.error (.copy e), if w.cancelled.isSome then st else st.put side key (content.take n))
    | none =>
      match w.cancelled with
      | some e => (.error (.close e), st)
      | none => (.ok content.length, st.put side key content)

theorem writeObject_cases (side : Side) (key content : Bytes) (w : WriteFaults) (st : Storage) :
    (∃ e, w.newWriter = some e ∧
      writeObject side key content w st = (.error (.newWriter e), st)) ∨
    (∃ n e, w.newWriter = none ∧ w.copy = some (n, e) ∧
      writeObject side key content w st = (.error (.copy e),
        if w.cancelled.isSome then st else st.put side key (content.take n))) ∨
    (∃ e, w.newWriter = none ∧ w.copy = none ∧
      writeObject side key content w st = (.error (.close e), st)) ∨
    (w.newWriter = none ∧ w.copy = none ∧
      writeObject side key content w st = (.ok content.length, st.put side key content)) := by
  unfold writeObject
  cases w.newWriter with
  | some e => exact .inl ⟨e, rfl, rfl⟩
  | none =>
    cases w.copy with
    | some fault => exact .inr (.inl ⟨fault.1, fault.2, rfl, rfl, rfl⟩)
    | none =>
      cases w.cancelled with
      | some e => exact .inr (.inr (.inl ⟨e, rfl, rfl, rfl⟩))
      | none => exact .inr (.inr (.inr ⟨rfl, rfl, rfl⟩))

namespace StorageNode

variable (node : StorageNode)

/-- `slices.Index` of this node -/
def rankOf (hosts : List String) : Int :=
  if node.selfHost ∈ hosts then hosts.idxOf node.selfHost else -1

/-- `bucketForCID`, with the hosts as the hasher ranks them -/
def bucketForCID (ranked placementHosts : List String) : Side :=
  if node.hasArchive = false then .primary
  else if node.storeAll = false then .primary
  else if placementHosts ≠ [] then .primary
  else if node.rankOf ranked < 0 ∨ node.rankOf ranked < node.replicationFactor then .primary
  else .archive

def replicateToMyBucket (fileName : String) (content : Bytes) (ranked placementHosts : List String)
    (w : WriteFaults) : Prog Storage StoreFailure Unit :=
  match shardCID fileName with
  | none => fail .panic
  | some key => do
    let side := node.bucketForCID ranked placementHosts
    let n ← writeObject side key content w
    modify fun st => st.know side key n

def archiver : StorageNode where
  selfHost := "https://a.example"
  replicationFactor := 3
  storeAll := true
  hasArchive := true
  computeCID _ := ""

end StorageNode

/-- `dropFromBucket`. That there is no object is no error. -/
def dropFromBucket (side : Side) (key : Bytes) (deleteFault : Option String) :
    Prog Storage StoreFailure Unit :=
  match deleteFault with
  | some e => fail (.other e)
  | none => modify fun st => (st.erase side key).forget side key

/-- How a move between the buckets goes. -/
structure MoveFaults where
  newReader : Option String := none
  write : WriteFaults := {}
  delete : Option String := none

/-- `relocateBetweenBuckets`. That the source is not deleted is logged. -/
def relocateBetweenBuckets (key : Bytes) (dst src : Side) (f : MoveFaults) :
    Prog Storage StoreFailure Nat := fun st =>
  match f.newReader, st.get src key with
  | some e, _ => (.error (.newReader e), st)
  | none, none => (.error (.newReader "blob not found"), st)
  | none, some content => (do
      let n ← writeObject dst key content f.write
      modify fun st => st.know dst key n
      let _ ← attempt (dropFromBucket src key f.delete)
      return n : Prog Storage StoreFailure Nat) st

/-! ### All or nothing -/

/-- A blob that is brought into a bucket: from a stream, or from the other bucket. -/
inductive Transfer where
  | replicate (fileName : String) (content : Bytes) (ranked placementHosts : List String)
    (w : WriteFaults)
  | relocate (key : Bytes) (dst : Side) (f : MoveFaults)

namespace Transfer

variable (node : StorageNode)

def run : Transfer → Prog Storage StoreFailure Unit
  | replicate fileName content ranked placementHosts w =>
    node.replicateToMyBucket fileName content ranked placementHosts w
  | relocate key dst f => do
    let _ ← relocateBetweenBuckets key dst dst.other f

def target : Transfer → Option (Side × Bytes)
  | replicate fileName _ ranked placementHosts _ =>
    (shardCID fileName).map fun key => (node.bucketForCID ranked placementHosts, key)
  | relocate key dst _ => some (dst, key)

def source (st : Storage) : Transfer → Option Bytes
  | replicate _ content _ _ _ => some content
  | relocate key dst f => if f.newReader.isSome then none else st.get dst.other key

def faults : Transfer → WriteFaults
  | replicate _ _ _ _ w => w
  | relocate _ _ f => f.write

/-- An error before the final `Close` leaves the object as it was; without an error the object is
the whole source stream. -/
def AllOrNothing (t : Transfer) (st : Storage) : Prop :=
  ∀ side key, t.target node = some (side, key) →
    ((∃ e, (t.run node st).1 = .error e ∧ ∀ msg, e ≠ .close msg) →
      (t.run node st).2.get side key = st.get side key) ∧
    ((t.run node st).1 = .ok () → (t.run node st).2.get side key = t.source st)

/-- A copy that has begun does not break off, or the context is cancelled, too, or what has been
written is what was there. -/
def Unbroken (t : Transfer) (st : Storage) : Prop :=
  ∀ side key content n e, t.target node = some (side, key) → t.source st = some content →
    t.faults.newWriter = none → t.faults.copy = some (n, e) →
      t.faults.cancelled.isSome = true ∨ st.get side key = some (content.take n)

variable {node}

theorem run_of_no_source {t : Transfer} {st : Storage} (h : t.source st = none) :
    ∃ e, t.run node st = (.error (.newReader e), st) := by
  cases t with
  | replicate fileName content ranked placementHosts w => cases h
  | relocate key dst f =>
    have hread : ∃ e, relocateBetweenBuckets key dst dst.other f st =
        (.error (.newReader e), st) := by
      unfold relocateBetweenBuckets
      cases hreader : f.newReader with
      | some e => exact ⟨e, rfl⟩
      | none =>
        have hget : st.get dst.other key = none := by simpa [source, hreader] using h
        rw [hget]
        exact ⟨_, rfl⟩
    obtain ⟨e, he⟩ := hread
    exact ⟨e, bind_of_error he⟩

theorem reads_of_relocate_source {key content : Bytes} {dst : Side} {f : MoveFaults}
    {st : Storage} (h : (Transfer.relocate key dst f).source st = some content) :
    f.newReader = none ∧ st.get dst.other key = some content := by
  cases hreader : f.newReader with
  | none => exact ⟨rfl, by simpa [source, hreader] using h⟩
  | some e => simp [source, hreader] at h

theorem run_of_write_error {t : Transfer} {st st' : Storage} {side : Side} {key content : Bytes}
    {e : StoreFailure} (htarget : t.target node = some (side, key))
    (hsource : t.source st = some content)
    (h : writeObject side key content t.faults st = (.error e, st')) :
    t.run node st = (.error e, st') := by
  cases t with
  | replicate fileName bytes ranked placementHosts w =>
    cases hsource
    obtain ⟨key', hkey, heq⟩ := Option.map_eq_some_iff.mp htarget
    cases heq
    simp only [run, StorageNode.replicateToMyBucket, hkey]
    exact bind_of_error h
  | relocate key' dst f =>
    cases htarget
    obtain ⟨hreader, hget⟩ := reads_of_relocate_source hsource
    have hmove : relocateBetweenBuckets key side side.other f st = (.error e, st') := by
      unfold relocateBetweenBuckets
      rw [hreader, hget]
      exact bind_of_error h
    exact bind_of_error hmove

theorem run_of_write_ok {t : Transfer} {st st' : Storage} {side : Side} {key content : Bytes}
    {n : Nat} (htarget : t.target node = some (side, key)) (hsource : t.source st = some content)
    (h : writeObject side key content t.faults st = (.ok n, st')) :
    (t.run node st).1 = .ok () ∧ (t.run node st).2.get side key = st'.get side key := by
  cases t with
  | replicate fileName bytes ranked placementHosts w =>
    cases hsource
    obtain ⟨key', hkey, heq⟩ := Option.map_eq_some_iff.mp htarget
    cases heq
    have hrun : node.replicateToMyBucket fileName content ranked placementHosts w st =
        (.ok (), st'.know (node.bucketForCID ranked placementHosts) key n) := by
      rw [StorageNode.replicateToMyBucket, hkey]
      exact bind_of_ok h
    rw [run, hrun]
    exact ⟨rfl, rfl⟩
  | relocate key' dst f =>
    cases htarget
    obtain ⟨hreader, hget⟩ := reads_of_relocate_source hsource
    have hmove : ∃ st'', relocateBetweenBuckets key side side.other f st = (.ok n, st'') ∧
        st''.get side key = st'.get side key := by
      unfold relocateBetweenBuckets
      rw [hreader, hget]
      cases hdelete : f.delete with
      | none =>
        refine ⟨((st'.know side key n).erase side.other key).forget side.other key, ?_, ?_⟩
        · exact (bind_of_ok h).trans rfl
        · simp [side.other_ne.symm]
      | some e => exact ⟨st'.know side key n, (bind_of_ok h).trans rfl, rfl⟩
    obtain ⟨st'', hmove, hsame⟩ := hmove
    rw [run, bind_of_ok hmove]
    exact ⟨rfl, hsame⟩

/-- A transfer is all or nothing if and only if its copy does not break off with the context still
alive, apart from a copy that broke off at the very object that was there. -/
theorem allOrNothing_iff_unbroken (t : Transfer) (st : Storage) :
    t.AllOrNothing node st ↔ t.Unbroken node st := by
  cases htarget : t.target node with
  | none => simp [AllOrNothing, Unbroken, htarget]
  | some target =>
    obtain ⟨side, key⟩ := target
    cases hsource : t.source st with
    | none =>
      obtain ⟨e, he⟩ : ∃ e, t.run node st = (.error (.newReader e), st) := run_of_no_source hsource
      simp [AllOrNothing, Unbroken, htarget, hsource, he]
    | some content =>
      rcases writeObject_cases side key content t.faults st with
        ⟨e, hopen, hwrite⟩ | ⟨n, e, hopen, hcopy, hwrite⟩ | ⟨e, hopen, hcopy, hwrite⟩ |
        ⟨hopen, hcopy, hwrite⟩
      · have hrun := run_of_write_error htarget hsource hwrite
        simp [AllOrNothing, Unbroken, htarget, hopen, hrun]
      · have hrun := run_of_write_error htarget hsource hwrite
        cases hcancelled : t.faults.cancelled with
        | some msg => simp [AllOrNothing, Unbroken, htarget, hsource, hopen, hcopy, hrun, hcancelled]
        | none =>
          have hafter : (t.run node st).2.get side key = some (content.take n) := by
            simp [hrun, hcancelled]
          have hfst : (t.run node st).1 = .error (.copy e) := by rw [hrun]
          constructor
          · intro h side' key' content' n' e' ht hs _ hc
            rw [htarget] at ht
            rw [hsource] at hs
            rw [hcopy] at hc
            cases ht
            cases hs
            cases hc
            exact .inr (((h side key htarget).1 ⟨_, hfst, by simp⟩).symm.trans hafter)
          · intro h side' key' ht
            rw [htarget] at ht
            cases ht
            have hsame : st.get side key = some (content.take n) :=
              (h side key content n e htarget hsource hopen hcopy).resolve_left (by simp [hcancelled])
            exact ⟨fun _ => hafter.trans hsame.symm, fun hok => (by rw [hfst] at hok; cases hok)⟩
      · have hrun := run_of_write_error htarget hsource hwrite
        simp [AllOrNothing, Unbroken, htarget, hcopy, hrun]
      · obtain ⟨hok, hget⟩ := run_of_write_ok htarget hsource hwrite
        simp [AllOrNothing, Unbroken, htarget, hsource, hcopy, hok, hget]

def legacyBlob (w : WriteFaults) : Transfer :=
  .replicate "QmP8Wuu1kN9iHBoBptB4UrTN3orna3Z6ZW2xevNkoE2y22" [1, 2, 3, 4] ["https://a.example"] [] w

/-- The context of the writer is cancelled with the stream. -/
theorem allOrNothing_of_cancelled :
    (legacyBlob { copy := some (2, "reset"), cancelled := some "canceled" }).AllOrNothing
      StorageNode.archiver {} := by
  refine (allOrNothing_iff_unbroken _ _).mpr ?_
  intro side key content n e _ _ _ _
  exact .inl rfl

/-- The stream breaks off after two bytes, and they are the blob from then on; so too when the blob
is moved to the other bucket. -/
theorem half_blob_visible :
    ¬ (legacyBlob { copy := some (2, "reset") }).AllOrNothing StorageNode.archiver {} ∧
    ¬ (Transfer.relocate [1] .archive { write := { copy := some (2, "reset") } }).AllOrNothing
      StorageNode.archiver (Storage.put {} .primary [1] [1, 2, 3, 4]) := by
  constructor
  · intro h
    have hkey : (legacyBlob { copy := some (2, "reset") }).target StorageNode.archiver =
        some (.primary, textBytes "2y2/QmP8Wuu1kN9iHBoBptB4UrTN3orna3Z6ZW2xevNkoE2y22") := by
      decide +kernel
    have hrun : ((legacyBlob { copy := some (2, "reset") }).run StorageNode.archiver {}).1 =
        .error (.copy "reset") := by
      decide +kernel
    have hbefore := (h _ _ hkey).1 ⟨_, hrun, by simp⟩
    have hafter : ((legacyBlob { copy := some (2, "reset") }).run StorageNode.archiver {}).2.get .primary
        (textBytes "2y2/QmP8Wuu1kN9iHBoBptB4UrTN3orna3Z6ZW2xevNkoE2y22") = some [1, 2] := by
      decide +kernel
    rw [hafter] at hbefore
    cases hbefore
  · intro h
    have hbefore := (h .archive [1] rfl).1 ⟨.copy "reset", by decide +kernel, by simp⟩
    revert hbefore
    decide +kernel

end Transfer

end OpenAudio.Mediorum
