import OpenAudio.Mediorum.Repair

/-!
# What peers can make a node store

A node takes blobs from its peers when they push them, when they ask it to pull them, when it
repairs itself and when it is asked for a blob it does not have. The peers answer with any bytes.
-/

namespace OpenAudio.Mediorum

open OpenAudio.Core Prog

/-- A file of a push: its name, which is the CID, and how storing it goes. -/
structure PushedFile where
  cid : String
  content : Bytes
  ranked : List String
  hasSpace : Bool := true
  openFile : Option String := none
  compute : Option String := none
  write : WriteFaults := {}

/-- `asyncPullJob`, with what the source sends and how staging it goes. -/
structure AsyncPullJob where
  sourceHost : String
  cid : String
  placementHosts : List String := []
  ranked : List String
  answer : PeerAnswer
  existsCheck : Side → Option String := fun _ => none
  staging : Option String := none
  compute : Option String := none

/-- `errPulledBlobCIDMismatch` around the error of the validation. -/
def StoreFailure.mismatch : StoreFailure → StoreFailure
  | other msg => other ("pulled blob CID mismatch: " ++ msg)
  | e => e

namespace StorageNode

variable (node : StorageNode)

def validateCID (expectedCID : String) (content : Bytes) (compute : Option String) :
    Prog Storage StoreFailure Unit :=
  match compute with
  | some e => fail (.other e)
  | none => rejectIf (node.computeCID content ≠ expectedCID)
      (.other ("expected cid: " ++ expectedCID ++ " but contents hashed to " ++
        node.computeCID content))

/-- `validatePlacementHosts` -/
def validPlacementHosts (peers placementHosts : List String) : Bool :=
  decide (placementHosts = []) ||
    (decide (node.selfHost ∈ placementHosts) && placementHosts.all fun host => decide (host ∈ peers))

/-- `serveInternalBlobPOST`. Placement hosts that are not valid are ignored. -/
def serveInternalBlobPOST (peers header : List String) (files : List PushedFile) :
    Prog Storage StoreFailure Unit :=
  let placementHosts := if node.validPlacementHosts peers header then header else []
  forEach files fun file => do
    rejectIf (file.hasSpace = false) (.other "disk is too full to accept new blobs")
    match file.openFile with
    | some e => fail (.other e)
    | none =>
      node.validateCID file.cid file.content file.compute
      node.replicateToMyBucket file.cid file.content file.ranked placementHosts file.write

/-- `haveInMyBucket`. An existence check that fails reads as a missing object. -/
def haveInMyBucket (cid : String) (existsCheck : Side → Option String) :
    Prog Storage StoreFailure Bool :=
  match shardCID cid with
  | none => fail .panic
  | some key => reads fun st =>
    let found := fun side => (existsCheck side).isNone && (st.get side key).isSome
    .ok (found .primary || node.hasArchive && found .archive)

def pullFileFromHostValidated (job : AsyncPullJob) : Prog Storage StoreFailure Unit :=
  if job.sourceHost = node.selfHost then fail (.other "should not pull blob from self")
  else match job.answer.body, job.staging with
    | .error e, _ => fail (.other e)
    | .ok _, some e => fail (.other e)
    | .ok content, none => do
      (node.validateCID job.cid content job.compute).mapError StoreFailure.mismatch
      node.replicateToMyBucket job.cid content job.ranked job.placementHosts job.answer.write

def runAsyncPull (job : AsyncPullJob) : Prog Storage StoreFailure Unit := do
  if ← node.haveInMyBucket job.cid job.existsCheck then
    return
  node.pullFileFromHostValidated job

def findAndPullBlob (cid : String) (ranked placementHosts : List String)
    (answer : Nat → PeerAnswer) : Prog Storage StoreFailure Unit := do
  if ← node.pullFirst cid answer ranked placementHosts ranked.zipIdx then
    return
  fail (.other ("no host found with " ++ cid))

end StorageNode

/-- The operations through which peers reach the buckets. -/
inductive StorageOp where
  | push (peers header : List String) (files : List PushedFile)
  | asyncPull (job : AsyncPullJob)
  | repair (step : RepairStep)
  | findAndPull (cid : String) (ranked placementHosts : List String) (answer : Nat → PeerAnswer)

namespace StorageOp

def cids : StorageOp → List String
  | push _ _ files => files.map PushedFile.cid
  | asyncPull job => [job.cid]
  | repair .newCycle => []
  | repair (.repair c) => [c.cid]
  | findAndPull cid _ _ _ => [cid]

/-- What an operation leaves in the buckets, whether it returns or fails. -/
def run (node : StorageNode) (st : Storage) : StorageOp → Storage
  | push peers header files => (node.serveInternalBlobPOST peers header files st).2
  | asyncPull job => (node.runAsyncPull job st).2
  | repair step => node.repairStep st step
  | findAndPull cid ranked placementHosts answer =>
    (node.findAndPullBlob cid ranked placementHosts answer st).2

end StorageOp

/-! ### Writes -/

def WriteFaults.committed (w : WriteFaults) (content : Bytes) : Option Bytes :=
  if w.newWriter.isSome || w.cancelled.isSome then none
  else match w.copy with
    | some (n, _) => some (content.take n)
    | none => some content

/-- A copy does not break off while the context of its writer is alive. -/
def WriteFaults.Unbroken (w : WriteFaults) : Prop := w.copy = none ∨ w.cancelled.isSome = true

theorem WriteFaults.Unbroken.committed {w : WriteFaults} (h : w.Unbroken) {content bytes : Bytes}
    (hbytes : w.committed content = some bytes) : bytes = content := by
  unfold WriteFaults.committed at hbytes
  rcases h with h | h
  · rw [h] at hbytes
    split at hbytes
    · cases hbytes
    · cases hbytes
      rfl
  · simp [h] at hbytes

theorem writeObject_snd (side : Side) (key content : Bytes) (w : WriteFaults) (st : Storage) :
    (writeObject side key content w st).2 = (w.committed content).elim st (st.put side key) := by
  unfold writeObject WriteFaults.committed
  cases w.newWriter with
  | some e => rfl
  | none => cases w.copy <;> cases w.cancelled <;> rfl

/-- Objects come from the buckets as they were, under the same key, or are what may be stored. -/
def Stores (May : Bytes → Bytes → Prop) (st st' : Storage) : Prop :=
  ∀ side key content, st'.get side key = some content →
    (∃ side', st.get side' key = some content) ∨ May key content

instance (May : Bytes → Bytes → Prop) : IsPreorder Storage (Stores May) where
  refl _ side _ _ h := .inl ⟨side, h⟩
  trans st₁ st₂ st₃ h₁ h₂ side key content h := by
    rcases h₂ side key content h with ⟨side', hheld⟩ | hmay
    · exact h₁ side' key content hheld
    · exact .inr hmay

section Stores

variable {May : Bytes → Bytes → Prop} {st : Storage} {side : Side} {key : Bytes}

theorem stores_of_get {st' : Storage} (h : ∀ side key, st'.get side key = st.get side key) :
    Stores May st st' := fun side key _ hget => .inl ⟨side, (h side key).symm.trans hget⟩

theorem stores_writeObject {content : Bytes} {w : WriteFaults}
    (h : ∀ bytes, w.committed content = some bytes →
      (∃ side', st.get side' key = some bytes) ∨ May key bytes) :
    Stores May st (writeObject side key content w st).2 := by
  rw [writeObject_snd]
  cases hbytes : w.committed content with
  | none => exact refl st
  | some bytes =>
    intro side' key' content' hget
    rw [Option.elim_some, Storage.get_put] at hget
    split at hget
    · rename_i hat
      cases hget
      exact hat.2 ▸ h bytes hbytes
    · exact .inl ⟨side', hget⟩

theorem stores_dropFromBucket (fault : Option String) :
    Keeps (Stores May) (dropFromBucket side key fault) := by
  intro st
  cases fault with
  | some e => exact refl st
  | none =>
    intro side' key' content h
    refine .inl ⟨side', ?_⟩
    have hget : ((st.erase side key).forget side key).get side' key' = some content := h
    rw [Storage.get_forget, Storage.get_erase] at hget
    split at hget
    · cases hget
    · exact hget

theorem stores_relocateBetweenBuckets {dst src : Side} {f : MoveFaults}
    (h : f.write.Unbroken ∨ ∀ bytes, May key bytes) :
    Keeps (Stores May) (relocateBetweenBuckets key dst src f) := by
  intro st
  unfold relocateBetweenBuckets
  split
  · exact refl st
  · exact refl st
  · rename_i content hreader hget
    refine Keeps.bind_at (stores_writeObject fun bytes hbytes => ?_) fun n => ?_
    · rcases h with h | h
      · exact .inl ⟨src, h.committed hbytes ▸ hget⟩
      · exact .inr (h bytes)
    · refine Keeps.bind (fun st => stores_of_get fun _ _ => rfl) fun _ => ?_
      exact (stores_dropFromBucket f.delete).attempt.bind fun _ => keeps_pure n

end Stores

namespace StorageNode

variable {node : StorageNode} {May : Bytes → Bytes → Prop} {cid : String}
  {ranked placementHosts : List String}

theorem stores_replicateToMyBucket {content : Bytes} {w : WriteFaults}
    (h : ∀ key bytes, shardCID cid = some key → w.committed content = some bytes →
      May key bytes) :
    Keeps (Stores May) (node.replicateToMyBucket cid content ranked placementHosts w) := by
  unfold replicateToMyBucket
  cases hkey : shardCID cid with
  | none => exact keeps_fail _
  | some key =>
    intro st
    refine Keeps.bind_at (stores_writeObject fun bytes hbytes => ?_) fun n st =>
      stores_of_get fun _ _ => rfl
    exact .inr (h key bytes hkey hbytes)

theorem stores_pullFileFromHost {host : String} {answer : PeerAnswer}
    (h : ∀ key content bytes, shardCID cid = some key → answer.body = .ok content →
      answer.write.committed content = some bytes → May key bytes) :
    Keeps (Stores May) (node.pullFileFromHost host cid answer ranked placementHosts) := by
  unfold pullFileFromHost
  refine (keeps_fail _).ite ?_
  cases hbody : answer.body with
  | error e => exact keeps_fail _
  | ok content =>
    exact stores_replicateToMyBucket fun key bytes hkey hbytes => h key content bytes hkey hbody hbytes

theorem stores_pullFirst {answer : Nat → PeerAnswer}
    (h : ∀ i key content bytes, shardCID cid = some key → (answer i).body = .ok content →
      (answer i).write.committed content = some bytes → May key bytes)
    (hosts : List (String × Nat)) :
    Keeps (Stores May) (node.pullFirst cid answer ranked placementHosts hosts) := by
  induction hosts with
  | nil => exact keeps_pure _
  | cons host hosts ih =>
    refine (stores_pullFileFromHost (h host.2)).attempt.bind fun result => ?_
    cases result with
    | ok _ => exact keeps_pure _
    | error _ => exact ih

section Repair

variable {c : RepairCall} {side : Side} {key : Bytes}

theorem stores_validateBlob (alreadyHave : Bool) :
    Keeps (Stores May) (node.validateBlob c side key alreadyHave) := by
  intro st
  unfold validateBlob
  split
  · split
    · exact refl st
    · exact refl st
    · split
      · exact refl st
      · split
        · exact refl st
        · split
          · exact refl st
          · exact stores_dropFromBucket none st
  · exact refl st

theorem stores_dropPrimaryDuplicate (alreadyHave : Bool) :
    Keeps (Stores May) (node.dropPrimaryDuplicate c side key alreadyHave) := by
  intro st
  unfold dropPrimaryDuplicate
  split
  · exact stores_dropFromBucket _ st
  · exact refl st

theorem stores_deleteResizedImage (alreadyHave : Bool) :
    Keeps (Stores May) (deleteResizedImage c key alreadyHave) := by
  unfold deleteResizedImage
  refine Keeps.ite ?_ (keeps_pure _)
  exact (stores_dropFromBucket _).attempt.bind fun _ => keeps_pure _

theorem stores_dropOverReplicated (preferredHosts : List String) (entry : Option PresenceEntry) :
    Keeps (Stores May) (node.dropOverReplicated c key preferredHosts entry) := by
  unfold dropOverReplicated dropFromMyBucket
  refine Keeps.ite ?_ (keeps_pure _)
  refine (stores_dropFromBucket _).attempt.bind fun _ => Keeps.ite ?_ (keeps_pure _)
  exact (stores_dropFromBucket _).attempt.bind fun _ => keeps_pure _

theorem stores_relocateLocal (hmove : c.faults.move.write.Unbroken ∨ ∀ bytes, May key bytes) :
    Keeps (Stores May) (node.relocateLocal c side key) := by
  intro st
  unfold relocateLocal
  split
  · refine Keeps.bind (stores_relocateBetweenBuckets hmove).attempt (fun result => ?_) st
    cases result with
    | ok n => exact Keeps.bind (fun st => stores_of_get fun _ _ => rfl) fun _ => keeps_pure _
    | error e => exact keeps_pure _
  · exact refl st

variable (hmove : ∀ key, shardCID c.cid = some key →
    c.faults.move.write.Unbroken ∨ ∀ bytes, May key bytes)
  (hanswer : ∀ i key content bytes, shardCID c.cid = some key → (c.answer i).body = .ok content →
    (c.answer i).write.committed content = some bytes → May key bytes)

include hmove hanswer

theorem stores_fetchBlob (hkey : shardCID c.cid = some key) (preferredHosts : List String) :
    Keeps (Stores May) (node.fetchBlob c side key preferredHosts) := by
  unfold fetchBlob
  refine (stores_relocateLocal (hmove key hkey)).bind fun moved => Keeps.ite (keeps_pure _) ?_
  refine (stores_pullFirst hanswer _).bind fun served => ?_
  exact (keeps_pure _).ite (keeps_fail _)

theorem stores_repairResolved (hkey : shardCID c.cid = some key) (preferredHosts : List String)
    (isMine : Bool) (entry : Option PresenceEntry) :
    Keeps (Stores May) (node.repairResolved c side key preferredHosts isMine entry) := by
  unfold repairResolved
  refine (stores_validateBlob _).bind fun valid => Keeps.ite ?_ (keeps_pure _)
  refine (stores_deleteResizedImage _).ite (Keeps.bind (fun st => ?_) fun _ => ?_)
  · exact stores_of_get fun _ _ => by cases entry <;> rfl
  · refine (stores_dropPrimaryDuplicate _).bind fun _ => ?_
    exact (stores_fetchBlob hmove hanswer hkey _).ite (stores_dropOverReplicated _ _)

theorem stores_repairCidWithPolicy : Keeps (Stores May) (node.repairCidWithPolicy c) := by
  unfold repairCidWithPolicy
  refine (keeps_pure _).ite ((keeps_pure _).ite ((keeps_pure _).ite ((keeps_pure _).ite ?_)))
  cases hkey : shardCID c.cid with
  | none => exact keeps_fail _
  | some key =>
    intro st
    unfold repairKey
    dsimp only
    split
    · exact refl st
    · generalize ite (c.cleanupMode = true) none _ = known
      cases known with
      | some size => exact stores_of_get fun _ _ => rfl
      | none =>
        have hsee : ∀ alreadyHave size, Stores May st (st.see key alreadyHave size) :=
          fun _ _ => stores_of_get fun _ _ => rfl
        exact IsTrans.trans _ _ _ (hsee _ _) (stores_repairResolved hmove hanswer hkey _ _ _ _)

end Repair

/-! ### Content addressing -/

/-- The content belongs under the key of one of the CIDs, and has that CID if it is no legacy one. -/
def Addressed (node : StorageNode) (cids : List String) (key content : Bytes) : Prop :=
  ∃ cid ∈ cids, shardCID cid = some key ∧
    (isLegacyCID cid = false → node.computeCID content = cid)

/-- The peer sends the blob that was asked for, and storing it does not break off. -/
def Delivers (node : StorageNode) (cid : String) (answer : PeerAnswer) : Prop :=
  ∀ content, answer.body = .ok content →
    answer.write.Unbroken ∧ node.computeCID content = cid

theorem addressed_of_committed {cids : List String} (hcid : cid ∈ cids) {key content bytes : Bytes}
    {w : WriteFaults} (hkey : shardCID cid = some key)
    (h : isLegacyCID cid = false → w.Unbroken ∧ node.computeCID content = cid)
    (hbytes : w.committed content = some bytes) : node.Addressed cids key bytes := by
  refine ⟨cid, hcid, hkey, fun hnew => ?_⟩
  obtain ⟨hw, hhash⟩ := h hnew
  rw [hw.committed hbytes, hhash]

theorem validateCID_apply (node : StorageNode) (cid : String) (content : Bytes) (compute : Option String) (st : Storage) :
    (node.validateCID cid content compute st).2 = st ∧
      ((node.validateCID cid content compute st).1 = .ok () → node.computeCID content = cid) := by
  cases compute with
  | some e => exact ⟨rfl, fun h => by cases h⟩
  | none =>
    rw [validateCID, rejectIf_apply]
    refine ⟨rfl, fun h => ?_⟩
    by_contra hhash
    simp [hhash] at h

theorem stores_validated {cids : List String} (hcid : cid ∈ cids) {content : Bytes}
    {w : WriteFaults} {m : Prog Storage StoreFailure Unit}
    (hm : ∀ st, (m st).2 = st ∧ ((m st).1 = .ok () → node.computeCID content = cid))
    (hw : isLegacyCID cid = false → w.Unbroken) :
    Keeps (Stores (node.Addressed cids)) (do
      m
      node.replicateToMyBucket cid content ranked placementHosts w) := by
  intro st
  obtain ⟨hsame, hhash⟩ := hm st
  match hr : m st with
  | (.error e, st') =>
    rw [hr] at hsame
    obtain rfl : st' = st := hsame
    rw [bind_of_error hr]
    exact refl st'
  | (.ok (), st') =>
    rw [hr] at hsame hhash
    obtain rfl : st' = st := hsame
    rw [bind_of_ok hr]
    refine stores_replicateToMyBucket (fun key bytes hkey hbytes => ?_) _
    exact addressed_of_committed hcid hkey (fun hnew => ⟨hw hnew, hhash rfl⟩) hbytes

theorem stores_serveInternalBlobPOST {files : List PushedFile}
    (h : ∀ file ∈ files, isLegacyCID file.cid = false → file.write.Unbroken)
    (peers header : List String) :
    Keeps (Stores (node.Addressed (files.map PushedFile.cid)))
      (node.serveInternalBlobPOST peers header files) := by
  refine Keeps.forEach_mem fun file hfile => (keeps_rejectIf _ _).bind fun _ => ?_
  cases file.openFile with
  | some e => exact keeps_fail _
  | none =>
    exact stores_validated (List.mem_map_of_mem hfile) (validateCID_apply _ _ _ _) (h file hfile)

theorem stores_runAsyncPull {job : AsyncPullJob}
    (h : isLegacyCID job.cid = false → job.answer.write.Unbroken) :
    Keeps (Stores (node.Addressed [job.cid])) (node.runAsyncPull job) := by
  have hhave : Keeps (Stores (node.Addressed [job.cid]))
      (node.haveInMyBucket job.cid job.existsCheck) := by
    unfold haveInMyBucket
    cases shardCID job.cid with
    | none => exact keeps_fail _
    | some key => exact keeps_reads _
  have hpull : Keeps (Stores (node.Addressed [job.cid])) (node.pullFileFromHostValidated job) := by
    unfold pullFileFromHostValidated
    refine (keeps_fail _).ite ?_
    cases job.answer.body with
    | error e => exact keeps_fail _
    | ok content =>
      cases job.staging with
      | some e => exact keeps_fail _
      | none =>
        refine stores_validated List.mem_cons_self (fun st => ?_) h
        obtain ⟨hsame, hhash⟩ := validateCID_apply node job.cid content job.compute st
        exact ⟨hsame, fun hok => hhash (except_mapError_eq_ok.mp hok)⟩
  exact hhave.bind fun found => (keeps_pure _).ite hpull

theorem stores_findAndPullBlob {answer : Nat → PeerAnswer}
    (h : isLegacyCID cid = false → ∀ i, node.Delivers cid (answer i)) :
    Keeps (Stores (node.Addressed [cid]))
      (node.findAndPullBlob cid ranked placementHosts answer) := by
  unfold findAndPullBlob
  refine (stores_pullFirst (fun i key content bytes hkey hbody hbytes => ?_) _).bind fun served => ?_
  · exact addressed_of_committed List.mem_cons_self hkey (fun hnew => h hnew i content hbody) hbytes
  · exact (keeps_pure _).ite (keeps_fail _)

theorem stores_repair {c : RepairCall}
    (h : isLegacyCID c.cid = false →
      c.faults.move.write.Unbroken ∧ ∀ i, node.Delivers c.cid (c.answer i)) :
    Keeps (Stores (node.Addressed [c.cid])) (node.repairCidWithPolicy c) := by
  refine stores_repairCidWithPolicy (fun key hkey => ?_) fun i key content bytes hkey hbody hbytes => ?_
  · cases hnew : isLegacyCID c.cid with
    | false => exact .inl (h hnew).1
    | true => exact .inr fun bytes => ⟨c.cid, List.mem_cons_self, hkey, by simp [hnew]⟩
  · exact addressed_of_committed List.mem_cons_self hkey (fun hnew => (h hnew).2 i content hbody) hbytes

end StorageNode

/-! ### Runs -/

namespace StorageOp

variable (node : StorageNode)

/-- For a CID that is no legacy one: what is stored without a validation is what the CID says, and
no copy into a bucket breaks off. -/
def Honest : StorageOp → Prop
  | push _ _ files => ∀ file ∈ files, isLegacyCID file.cid = false → file.write.Unbroken
  | asyncPull job => isLegacyCID job.cid = false → job.answer.write.Unbroken
  | repair .newCycle => True
  | repair (.repair c) => isLegacyCID c.cid = false →
      c.faults.move.write.Unbroken ∧ ∀ i, node.Delivers c.cid (c.answer i)
  | findAndPull cid _ _ answer => isLegacyCID cid = false → ∀ i, node.Delivers cid (answer i)

variable {node}

theorem stores_run {op : StorageOp} (h : op.Honest node) (st : Storage) :
    Stores (node.Addressed op.cids) st (op.run node st) := by
  cases op with
  | push peers header files => exact StorageNode.stores_serveInternalBlobPOST h peers header st
  | asyncPull job => exact StorageNode.stores_runAsyncPull h st
  | repair step =>
    cases step with
    | newCycle => exact stores_of_get fun _ _ => rfl
    | repair c => exact StorageNode.stores_repair h st
  | findAndPull cid ranked placementHosts answer => exact StorageNode.stores_findAndPullBlob h st

/-- Whatever the operations and the peers: an object in a bucket was in a bucket under this key
before, or an operation stored it for a CID of this key, and it has that CID unless the CID is a
legacy one; if no unvalidated answer is something else and no copy breaks off. -/
theorem run_stores_addressed {ops : List StorageOp} (h : ∀ op ∈ ops, op.Honest node)
    (st : Storage) (side : Side) (key content : Bytes)
    (hget : (ops.foldl (run node) st).get side key = some content) :
    (∃ side', st.get side' key = some content) ∨
      ∃ op ∈ ops, ∃ cid ∈ op.cids, shardCID cid = some key ∧
        (isLegacyCID cid = false → node.computeCID content = cid) := by
  induction ops generalizing st with
  | nil => exact .inl ⟨side, hget⟩
  | cons op ops ih =>
    rcases ih (fun op' hop' => h op' (List.mem_cons_of_mem op hop')) _ hget with
      ⟨side', hheld⟩ | ⟨op', hop', haddressed⟩
    · refine (stores_run (h op List.mem_cons_self) st side' key content hheld).imp_right ?_
      exact fun haddressed => ⟨op, List.mem_cons_self, haddressed⟩
    · exact .inr ⟨op', List.mem_cons_of_mem op hop', haddressed⟩

/-- The CID of the bytes 1 2 3 4 -/
def fourBytes : String := "baeaaaiqsecpwjj2h4g4x6ey7vo3lirzjnsnw6aqb46p3hrjvnzwhp2e3nkagu"

/-- The CID of the byte 9 -/
def oneByte : String := "baeaaaiqseavuynbpkqz6xzmruhnhpyat2g3si5kwfvefpdokroclvrtfdq6ls"

def hashingNode : StorageNode :=
  { StorageNode.archiver with
    computeCID := fun content =>
      ([([1, 2, 3, 4], fourBytes), ([9], oneByte)].lookup content).getD "" }

def pushAndPull (body : Bytes) : List StorageOp :=
  [.push [] [] [{ cid := fourBytes, content := [1, 2, 3, 4], ranked := ["https://a.example"] }],
    .findAndPull fourBytes ["https://b.example", "https://a.example"] [] fun _ => { body := .ok body }]

/-- The peers are honest. -/
theorem pushAndPull_stores_blob :
    (∃ side, Storage.get {} side (textBytes ("nkagu/" ++ fourBytes)) = some [1, 2, 3, 4]) ∨
      ∃ op ∈ pushAndPull [1, 2, 3, 4], ∃ cid ∈ op.cids,
        shardCID cid = some (textBytes ("nkagu/" ++ fourBytes)) ∧
          (isLegacyCID cid = false → hashingNode.computeCID [1, 2, 3, 4] = cid) := by
  refine run_stores_addressed (fun op hop => ?_) {} .primary _ _ (by decide +kernel)
  simp only [pushAndPull, List.mem_cons, List.not_mem_nil, or_false] at hop
  rcases hop with rfl | rfl
  · intro file hfile _
    cases List.mem_singleton.mp hfile
    exact .inl rfl
  · intro _ i content hbody
    cases hbody
    exact ⟨.inl rfl, rfl⟩

/-- The first host that is asked answers with one byte of its own, and that is the blob from then
on, in place of the one that was pushed; so, too, if the node asks to repair itself. -/
theorem foreign_bytes_stored :
    isLegacyCID fourBytes = false ∧ hashingNode.computeCID [9] = oneByte ∧ oneByte ≠ fourBytes ∧
    ((pushAndPull [9]).foldl (run hashingNode) {}).get .primary
      (textBytes ("nkagu/" ++ fourBytes)) = some [9] ∧
    (run hashingNode {} (.repair (.repair
      { cid := fourBytes, ranked := ["https://b.example", "https://a.example"],
        policy := { storeAll := true, storeRecent := false, ttl := 0, now := 0 },
        cleanupMode := false, now := 0, answer := fun _ => { body := .ok [9] } }))).get .primary
      (textBytes ("nkagu/" ++ fourBytes)) = some [9] ∧
    shardCID fourBytes = some (textBytes ("nkagu/" ++ fourBytes)) := by
  decide +kernel

end StorageOp

end OpenAudio.Mediorum
