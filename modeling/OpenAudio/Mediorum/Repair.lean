import OpenAudio.Mediorum.Buckets

/-!
# The repair of a blob

A repair cycle visits every CID the node knows of. It validates what is there, removes what should
not be there, moves a blob that is in the wrong bucket and pulls one that is missing from a peer.
-/

namespace OpenAudio.Mediorum

open OpenAudio.Core Prog

/-- What a presence lookup returns for an object. -/
structure PresenceEntry where
  size : Nat
  modTime : Int

/-- `repairRetentionPolicy` -/
structure RetentionPolicy where
  storeAll : Bool
  storeRecent : Bool
  ttl : Int
  now : Int

/-- `shouldStoreRecent`, with `none` for the zero time -/
def RetentionPolicy.shouldStoreRecent (p : RetentionPolicy) (createdAt : Option Int) : Bool :=
  match createdAt with
  | none => false
  | some created => if p.storeAll || !p.storeRecent then false else !decide (created < p.now - p.ttl)

/-- What a peer sends when it is asked for a blob, and how writing it goes. -/
structure PeerAnswer where
  body : Except String Bytes
  write : WriteFaults := {}

/-- What the buckets do during a call. -/
structure RepairFaults where
  /-- `Attributes` fails, other than for an object that is not there -/
  attributes : Option String := none
  existsCheck : Option String := none
  newReader : Option String := none
  /-- reading the object breaks off while it is hashed -/
  compute : Option String := none
  deleteInvalid : Option String := none
  deleteResized : Option String := none
  dropDuplicate : Option String := none
  move : MoveFaults := {}
  drop : Side → Option String := fun _ => none
  /-- what `Attributes` returns as the time of the last change -/
  modTime : Int := 0

/-- A call of `repairCidWithPolicy`, with what it reads of the tracker, of the ring and of the
network. -/
structure RepairCall where
  cid : String
  placementHosts : List String := []
  /-- the hosts as the rendezvous hasher ranks them for the CID -/
  ranked : List String
  policy : RetentionPolicy
  createdAt : Option Int := none
  cleanupMode : Bool
  pruneSkips : List String := []
  failedCycles : Nat := 0
  presenceIndex : Option (Side → Bytes → Option PresenceEntry) := none
  hasSpace : Bool := true
  /-- `findStoreAllPeers` -/
  storeAllPeers : List String := []
  /-- the answer to the attempt with the candidate at this place -/
  answer : Nat → PeerAnswer := fun _ => { body := .error "connection refused" }
  now : Int
  faults : RepairFaults := {}

def pullAttemptMargin : Int := 4

def dataLossEscalateAfter : Nat := 3

/-- `-24 * 7 * time.Hour`, in nanoseconds, as a positive number -/
def week : Int := 24 * 7 * 3600 * 1000000000

namespace RepairCall

variable (c : RepairCall)

def storeRecent : Bool := c.policy.shouldStoreRecent c.createdAt

/-- Whether the object is in the bucket, as the call finds out: from the presence index, or from
`Attributes`, whose failures read as a missing object. -/
def presence (st : Storage) (side : Side) (key : Bytes) : Option PresenceEntry :=
  match c.presenceIndex with
  | some index => index side key
  | none =>
    if c.faults.attributes.isSome then none
    else (st.get side key).map fun content => ⟨content.length, c.faults.modTime⟩

def blobPresentIn (st : Storage) (side : Side) (key : Bytes) : Bool :=
  match c.presenceIndex with
  | some index => (index side key).isSome
  | none => c.faults.existsCheck.isNone && (st.get side key).isSome

/-- A derived image, as `serveImage` makes them. -/
def isResizedImage : Bool :=
  (textBytes ".jpg").isSuffixOf (textBytes c.cid) &&
    !(textBytes "original.jpg").isSuffixOf (textBytes c.cid)

end RepairCall

/-- `dropFromMyBucket`. Deletes that fail are logged. -/
def dropFromMyBucket (hasArchive : Bool) (key : Bytes) (f : Side → Option String) :
    Prog Storage StoreFailure Unit := do
  let _ ← attempt (dropFromBucket .primary key (f .primary))
  if hasArchive then
    let _ ← attempt (dropFromBucket .archive key (f .archive))

namespace StorageNode

variable (node : StorageNode)

/-- `rendezvousAllHosts`, the second result -/
def isMine (ranked : List String) : Bool :=
  node.storeAll || decide (0 ≤ node.rankOf ranked ∧ node.rankOf ranked < node.replicationFactor)

def maxPullAttempts : Nat :=
  if node.replicationFactor + pullAttemptMargin < 1 then 1
  else (node.replicationFactor + pullAttemptMargin).toNat

def pullFileFromHost (host cid : String) (answer : PeerAnswer) (ranked placementHosts : List String) :
    Prog Storage StoreFailure Unit :=
  if host = node.selfHost then fail (.other "should not pull blob from self")
  else match answer.body with
    | .error e => fail (.other e)
    | .ok content => node.replicateToMyBucket cid content ranked placementHosts answer.write

/-- The first of the hosts that serves the blob ends the loop. Whether there was one. -/
def pullFirst (cid : String) (answer : Nat → PeerAnswer) (ranked placementHosts : List String) :
    List (String × Nat) → Prog Storage StoreFailure Bool
  | [] => pure false
  | (host, i) :: hosts => do
    match ← attempt (node.pullFileFromHost host cid (answer i) ranked placementHosts) with
    | .ok _ => return true
    | .error _ => pullFirst cid answer ranked placementHosts hosts

/-- In cleanup mode an object is hashed, unless its CID is a legacy one, and deleted if it is not
what the CID says. Whether the call goes on. -/
def validateBlob (c : RepairCall) (side : Side) (key : Bytes) (alreadyHave : Bool) :
    Prog Storage StoreFailure Bool := fun st =>
  if c.cleanupMode && alreadyHave && !isLegacyCID c.cid then
    match c.faults.newReader, st.get side key with
    | some e, _ => (.error (.newReader e), st)
    | none, none => (.error (.newReader "blob not found"), st)
    | none, some content =>
      if c.faults.compute.isSome then (.ok true, st)
      else if node.computeCID content = c.cid then (.ok true, st)
      else if c.faults.deleteInvalid.isSome then (.ok false, st)
      else (.ok false, ((st.erase side key).forget side key).see key false 0)
  else (.ok true, st)

/-- Derived images are only ever kept in the primary bucket. -/
def deleteResizedImage (c : RepairCall) (key : Bytes) (alreadyHave : Bool) :
    Prog Storage StoreFailure Unit :=
  if c.cleanupMode && alreadyHave then do
    let _ ← attempt (dropFromBucket .primary key c.faults.deleteResized)
  else pure ()

/-- The primary copy of a blob that the archive has, too. -/
def dropPrimaryDuplicate (c : RepairCall) (side : Side) (key : Bytes) (alreadyHave : Bool) :
    Prog Storage StoreFailure Unit := fun st =>
  if c.cleanupMode && alreadyHave && (node.hasArchive && side == .archive) &&
      c.blobPresentIn st .primary key then
    (do let _ ← attempt (dropFromBucket .primary key c.faults.dropDuplicate) :
      Prog Storage StoreFailure Unit) st
  else (.ok (), st)

/-- The blob may be in the other bucket. Whether it was moved. -/
def relocateLocal (c : RepairCall) (side : Side) (key : Bytes) :
    Prog Storage StoreFailure Bool := fun st =>
  if node.hasArchive && c.blobPresentIn st side.other key then
    (do
      match ← attempt (relocateBetweenBuckets key side side.other c.faults.move) with
      | .ok n =>
        modify fun st => st.see key true n
        return true
      | .error _ => return false : Prog Storage StoreFailure Bool) st
  else (.ok false, st)

/-- The head of the ranking, or all of it after several cycles that failed, and then the peers that
store everything. -/
def candidates (c : RepairCall) (preferredHosts : List String) : List String :=
  let tier1 :=
    if c.failedCycles < dataLossEscalateAfter then preferredHosts.take node.maxPullAttempts
    else preferredHosts
  c.storeAllPeers.foldl (fun hosts host => if host ∈ hosts then hosts else hosts ++ [host]) tier1

/-- A blob the node should have and does not have. -/
def fetchBlob (c : RepairCall) (side : Side) (key : Bytes) (preferredHosts : List String) :
    Prog Storage StoreFailure Unit := do
  if ← node.relocateLocal c side key then
    return
  let hosts := (node.candidates c preferredHosts).zipIdx.filter fun host => host.1 ≠ node.selfHost
  if ← node.pullFirst c.cid c.answer c.ranked c.placementHosts hosts then
    return
  fail (.other "failed to pull from any host")

/-- A blob outside the replica set is dropped once it has had a week to drain. -/
def dropOverReplicated (c : RepairCall) (key : Bytes) (preferredHosts : List String)
    (entry : Option PresenceEntry) : Prog Storage StoreFailure Unit :=
  if c.placementHosts = [] ∧ node.storeAll = false ∧ c.storeRecent = false ∧ c.cleanupMode = true ∧
      node.replicationFactor ≤ node.rankOf preferredHosts ∧
      ∃ e ∈ entry, ¬ c.now - week < e.modTime then
    dropFromMyBucket node.hasArchive key c.faults.drop
  else pure ()

/-- The call from where it knows whether the object is in the bucket it belongs to. -/
def repairResolved (c : RepairCall) (side : Side) (key : Bytes) (preferredHosts : List String)
    (isMine : Bool) (entry : Option PresenceEntry) : Prog Storage StoreFailure Unit := do
  if ← node.validateBlob c side key entry.isSome then
    if c.isResizedImage then
      deleteResizedImage c key entry.isSome
    else
      modify fun st => entry.elim st fun e => st.know side key e.size
      node.dropPrimaryDuplicate c side key entry.isSome
      if isMine && entry.isNone && c.hasSpace then
        node.fetchBlob c side key preferredHosts
      else
        node.dropOverReplicated c key preferredHosts entry

/-- The call from where the key is known. A key is looked at once in a cycle, and outside of cleanup
mode not at all once it was seen in the bucket. -/
def repairKey (c : RepairCall) (key : Bytes) (preferredHosts : List String) (isMine : Bool) :
    Prog Storage StoreFailure Unit := fun st =>
  let side := node.bucketForCID c.ranked c.placementHosts
  if (st.seenKeys.lookup key).isSome && !c.storeRecent then (.ok (), st)
  else
    match if c.cleanupMode then none else st.knownPresent.lookup (side, key) with
    | some size => (.ok (), st.see key true size)
    | none =>
      let entry := c.presence st side key
      node.repairResolved c side key preferredHosts isMine entry
        (st.see key entry.isSome (entry.elim 0 PresenceEntry.size))

def repairCidWithPolicy (c : RepairCall) : Prog Storage StoreFailure Unit :=
  if c.cid = "" then pure ()
  else
    let isPlaced := decide (c.placementHosts ≠ [])
    if isPlaced && !decide (node.selfHost ∈ c.placementHosts) then pure ()
    else
      let preferredHosts := if isPlaced then c.placementHosts else c.ranked
      let isMine := node.isMine c.ranked || c.storeRecent || isPlaced
      if !c.cleanupMode && !isMine then pure ()
      else if c.cid ∈ c.pruneSkips then pure ()
      else
        match shardCID c.cid with
        | none => fail .panic
        | some key => node.repairKey c key preferredHosts isMine

/-! ### The last copy -/

/-- The node has to keep the blob: it stores everything, the blob is placed on it or recent, or the
node is in the replica set. -/
def MustKeep (c : RepairCall) : Prop :=
  node.storeAll = true ∨ node.selfHost ∈ c.placementHosts ∨ c.storeRecent = true ∨
    (0 ≤ node.rankOf c.ranked ∧ node.rankOf c.ranked < node.replicationFactor)

/-- The content is the complete blob: the one with this CID, or for a legacy CID, which does not say
what the content is, the given one. -/
def Complete (cid : String) (whole content : Bytes) : Prop :=
  if isLegacyCID cid then content = whole else node.computeCID content = cid

instance (cid : String) (whole content : Bytes) : Decidable (node.Complete cid whole content) :=
  inferInstanceAs (Decidable (if isLegacyCID cid then content = whole else node.computeCID content = cid))

def HoldsIn (cid : String) (whole : Bytes) (st : Storage) (side : Side) (key : Bytes) : Prop :=
  ∃ content, st.get side key = some content ∧ node.Complete cid whole content

def HoldsCopy (cid : String) (whole : Bytes) (st : Storage) (key : Bytes) : Prop :=
  ∃ side, node.HoldsIn cid whole st side key

/-- The call does not take away or overwrite a copy on the strength of something it has not
verified. -/
structure Careful (cid : String) (whole : Bytes) (c : RepairCall) (key : Bytes) (st : Storage) :
    Prop where
  /-- a derived image that is deleted from the primary bucket is in the archive -/
  resized : c.cleanupMode = true → c.isResizedImage = true →
    (c.presence st (node.bucketForCID c.ranked c.placementHosts) key).isSome = true →
    c.faults.deleteResized = none → node.HoldsIn cid whole st .archive key
  /-- a primary copy that is dropped for an archived one that was not hashed is a duplicate -/
  duplicate : c.cleanupMode = true → node.bucketForCID c.ranked c.placementHosts = .archive →
    (c.presence st .archive key).isSome = true → c.blobPresentIn st .primary key = true →
    c.faults.dropDuplicate = none → isLegacyCID cid = true ∨ c.faults.compute.isSome = true →
    node.HoldsIn cid whole st .archive key
  /-- a copy that reads as missing where it belongs is in the other bucket, too -/
  overwrite : c.presence st (node.bucketForCID c.ranked c.placementHosts) key = none →
    c.hasSpace = true →
    node.HoldsIn cid whole st (node.bucketForCID c.ranked c.placementHosts) key →
    node.HoldsIn cid whole st (node.bucketForCID c.ranked c.placementHosts).other key

variable {node} {cid : String} {whole : Bytes} {c : RepairCall} {st : Storage} {key : Bytes}
  {side : Side}

theorem HoldsIn.congr {st' : Storage} (h : node.HoldsIn cid whole st side key)
    (hget : st'.get side key = st.get side key) : node.HoldsIn cid whole st' side key := by
  obtain ⟨content, hcontent, hcomplete⟩ := h
  exact ⟨content, hget.trans hcontent, hcomplete⟩

theorem HoldsIn.copy (h : node.HoldsIn cid whole st side key) : node.HoldsCopy cid whole st key :=
  ⟨side, h⟩

theorem HoldsCopy.other (h : node.HoldsCopy cid whole st key)
    (hside : node.HoldsIn cid whole st side key → node.HoldsIn cid whole st side.other key) :
    node.HoldsIn cid whole st side.other key := by
  obtain ⟨side', h⟩ := h
  cases side <;> cases side'
  · exact hside h
  · exact h
  · exact h
  · exact hside h

theorem get_dropFromBucket_other {key' : Bytes} {fault : Option String} {side' : Side}
    (h : side' ≠ side) :
    (dropFromBucket side key fault st).2.get side' key' = st.get side' key' := by
  cases fault with
  | some e => rfl
  | none => simp [dropFromBucket, Prog.modify, h]

theorem keeps_writeObject {content key' : Bytes} {w : WriteFaults} {side' : Side} (h : side' ≠ side) :
    Keeps (Same fun st => st.get side' key') (writeObject side key content w) := by
  intro st
  rcases writeObject_cases side key content w st with
    ⟨e, -, hw⟩ | ⟨n, e, -, -, hw⟩ | ⟨e, -, -, hw⟩ | ⟨-, -, hw⟩
  · simp [Same, hw]
  · cases hcancelled : w.cancelled.isSome <;> simp [Same, hw, hcancelled, h]
  · simp [Same, hw]
  · simp [Same, hw, h]

theorem keeps_replicateToMyBucket {content key' : Bytes} {ranked placementHosts : List String}
    {w : WriteFaults} {side' : Side} (h : side' ≠ node.bucketForCID ranked placementHosts) :
    Keeps (Same fun st => st.get side' key')
      (node.replicateToMyBucket cid content ranked placementHosts w) := by
  unfold replicateToMyBucket
  cases shardCID cid with
  | none => exact keeps_fail _
  | some key => exact (keeps_writeObject h).bind fun n st => rfl

theorem keeps_pullFileFromHost {host : String} {answer : PeerAnswer} {key' : Bytes}
    {ranked placementHosts : List String} {side' : Side}
    (h : side' ≠ node.bucketForCID ranked placementHosts) :
    Keeps (Same fun st => st.get side' key')
      (node.pullFileFromHost host cid answer ranked placementHosts) := by
  unfold pullFileFromHost
  refine (keeps_fail _).ite ?_
  cases answer.body with
  | error e => exact keeps_fail _
  | ok content => exact keeps_replicateToMyBucket h

theorem keeps_pullFirst {answer : Nat → PeerAnswer} {key' : Bytes}
    {ranked placementHosts : List String} {side' : Side}
    (h : side' ≠ node.bucketForCID ranked placementHosts) (hosts : List (String × Nat)) :
    Keeps (Same fun st => st.get side' key')
      (node.pullFirst cid answer ranked placementHosts hosts) := by
  induction hosts with
  | nil => exact keeps_pure _
  | cons host hosts ih =>
    refine (keeps_pullFileFromHost h).attempt.bind fun result => ?_
    cases result with
    | ok _ => exact keeps_pure _
    | error _ => exact ih

theorem writeObject_eq_ok {content : Bytes} {w : WriteFaults} {st' : Storage} {n : Nat}
    (h : writeObject side key content w st = (.ok n, st')) : st' = st.put side key content := by
  rcases writeObject_cases side key content w st with
    ⟨e, -, hw⟩ | ⟨m, e, -, -, hw⟩ | ⟨e, -, -, hw⟩ | ⟨-, -, hw⟩
  · cases hw.symm.trans h
  · cases hw.symm.trans h
  · cases hw.symm.trans h
  · cases hw.symm.trans h
    rfl

theorem relocateBetweenBuckets_cases {content : Bytes} {f : MoveFaults}
    (hget : st.get side.other key = some content) :
    (∃ n st', relocateBetweenBuckets key side side.other f st = (.ok n, st') ∧
      st'.get side key = some content) ∨
    (∃ e st', relocateBetweenBuckets key side side.other f st = (.error e, st') ∧
      st'.get side.other key = some content) := by
  unfold relocateBetweenBuckets
  cases f.newReader with
  | some e => exact .inr ⟨_, st, rfl, hget⟩
  | none =>
    rw [hget]
    match hw : writeObject side key content f.write st with
    | (.error e, st') =>
      have hother : st'.get side.other key = st.get side.other key := by
        have h : Same (fun st => st.get side.other key) st
            (writeObject side key content f.write st).2 := keeps_writeObject side.other_ne st
        rwa [hw] at h
      exact .inr ⟨e, st', bind_of_error hw, hother.trans hget⟩
    | (.ok n, st') =>
      refine .inl ⟨n, _, (bind_of_ok hw).trans (bind_of_ok rfl), ?_⟩
      refine (get_dropFromBucket_other side.other_ne.symm).trans ?_
      rw [writeObject_eq_ok hw]
      simp

/-- Validation fails, goes on with everything as it was, or ends the call with the object deleted
that is not the blob. -/
theorem validateBlob_cases (hcid : c.cid = cid) (alreadyHave : Bool) :
    (∃ e, node.validateBlob c side key alreadyHave st = (.error e, st)) ∨
    (node.validateBlob c side key alreadyHave st = (.ok true, st) ∧
      (c.cleanupMode = true → alreadyHave = true → ¬ (isLegacyCID cid = true) →
        ¬ (c.faults.compute.isSome = true) → node.HoldsIn cid whole st side key)) ∨
    (∃ st', node.validateBlob c side key alreadyHave st = (.ok false, st') ∧
      (node.HoldsCopy cid whole st key → node.HoldsCopy cid whole st' key)) := by
  unfold validateBlob
  rw [hcid]
  split
  · rename_i hguard
    have hnew : isLegacyCID cid = false := by
      revert hguard
      cases isLegacyCID cid <;> simp
    split
    · exact .inl ⟨_, rfl⟩
    · exact .inl ⟨_, rfl⟩
    · rename_i content hreader hget
      split
      · rename_i hcompute
        exact .inr (.inl ⟨rfl, fun _ _ _ hno => absurd hcompute hno⟩)
      · split
        · rename_i hhash
          refine .inr (.inl ⟨rfl, fun _ _ _ _ => ⟨content, hget, ?_⟩⟩)
          simpa [Complete, hnew] using hhash
        · rename_i hhash
          refine .inr (.inr ?_)
          split
          · exact ⟨st, rfl, fun h => h⟩
          · refine ⟨_, rfl, ?_⟩
            rintro ⟨side', content', hget', hcomplete⟩
            have hne : side' ≠ side := by
              rintro rfl
              rw [hget] at hget'
              cases hget'
              exact hhash (by simpa [Complete, hnew] using hcomplete)
            exact ⟨side', content', by simpa [hne] using hget', hcomplete⟩
  · rename_i hguard
    refine .inr (.inl ⟨rfl, ?_⟩)
    intro hcleanup hhave hlegacy _
    simp [hcleanup, hhave, hlegacy] at hguard

theorem holdsCopy_dropPrimaryDuplicate {alreadyHave : Bool} (h : node.HoldsCopy cid whole st key)
    (harchive : c.cleanupMode = true → alreadyHave = true → side = .archive →
      c.blobPresentIn st .primary key = true → c.faults.dropDuplicate = none →
      node.HoldsIn cid whole st .archive key) :
    node.HoldsCopy cid whole (node.dropPrimaryDuplicate c side key alreadyHave st).2 key := by
  unfold dropPrimaryDuplicate
  split
  · rename_i hguard
    simp only [Bool.and_eq_true, beq_iff_eq] at hguard
    obtain ⟨⟨⟨hcleanup, hhave⟩, -, hside⟩, hpresent⟩ := hguard
    cases hfault : c.faults.dropDuplicate with
    | some e => exact h
    | none =>
      have hin := harchive hcleanup hhave hside hpresent hfault
      exact (hin.congr (get_dropFromBucket_other (by decide))).copy
  · exact h

theorem relocateLocal_cases (h : node.HoldsIn cid whole st side.other key) :
    (∃ st', node.relocateLocal c side key st = (.ok true, st') ∧
      node.HoldsIn cid whole st' side key) ∨
    (∃ st', node.relocateLocal c side key st = (.ok false, st') ∧
      node.HoldsIn cid whole st' side.other key) := by
  obtain ⟨content, hget, hcomplete⟩ := h
  unfold relocateLocal
  split
  · rcases relocateBetweenBuckets_cases (f := c.faults.move) hget with
      ⟨n, st', hmove, hget'⟩ | ⟨e, st', hmove, hget'⟩
    · have htry : attempt (relocateBetweenBuckets key side side.other c.faults.move) st =
          ((.ok (.ok n), st') : Except StoreFailure _ × _) := by
        rw [attempt, hmove]
      exact .inl ⟨st'.see key true n, (bind_of_ok htry).trans rfl, content, hget', hcomplete⟩
    · have htry : attempt (relocateBetweenBuckets key side side.other c.faults.move) st =
          ((.ok (.error e), st') : Except StoreFailure _ × _) := by
        rw [attempt, hmove]
      exact .inr ⟨st', (bind_of_ok htry).trans rfl, content, hget', hcomplete⟩
  · exact .inr ⟨st, rfl, content, hget, hcomplete⟩

theorem holdsCopy_fetchBlob (hside : side = node.bucketForCID c.ranked c.placementHosts)
    (h : node.HoldsIn cid whole st side.other key) (preferredHosts : List String) :
    node.HoldsCopy cid whole (node.fetchBlob c side key preferredHosts st).2 key := by
  rcases relocateLocal_cases (c := c) h with ⟨st', hmove, hin⟩ | ⟨st', hmove, hin⟩
  · rw [fetchBlob, bind_of_ok hmove]
    exact hin.copy
  · rw [fetchBlob, bind_of_ok hmove]
    -- the pulls write to the bucket the blob belongs to
    have hpull : Keeps (Same fun st => st.get side.other key) (do
        let hosts := (node.candidates c preferredHosts).zipIdx.filter fun host =>
          host.1 ≠ node.selfHost
        if ← node.pullFirst c.cid c.answer c.ranked c.placementHosts hosts then
          return
        fail (.other "failed to pull from any host") : Prog Storage StoreFailure Unit) := by
      refine (keeps_pullFirst (hside ▸ side.other_ne) _).bind fun served => ?_
      exact (keeps_pure _).ite (keeps_fail _)
    exact (hin.congr (hpull st')).copy

theorem dropOverReplicated_of_mustKeep (hkeep : node.MustKeep c) {preferredHosts : List String}
    (hpreferred : c.placementHosts = [] → preferredHosts = c.ranked)
    (entry : Option PresenceEntry) :
    node.dropOverReplicated c key preferredHosts entry st = (.ok (), st) := by
  unfold dropOverReplicated
  split
  · rename_i hguard
    obtain ⟨hplaced, hall, hrecent, -, hrank, -⟩ := hguard
    rw [hpreferred hplaced] at hrank
    rcases hkeep with h | h | h | ⟨-, h⟩
    · rw [hall] at h
      cases h
    · rw [hplaced] at h
      cases h
    · rw [hrecent] at h
      cases h
    · omega
  · rfl

theorem holdsCopy_deleteResizedImage {alreadyHave : Bool} (h : node.HoldsCopy cid whole st key)
    (harchive : c.cleanupMode = true → alreadyHave = true → c.faults.deleteResized = none →
      node.HoldsIn cid whole st .archive key) :
    node.HoldsCopy cid whole (deleteResizedImage c key alreadyHave st).2 key := by
  unfold deleteResizedImage
  split
  · rename_i hguard
    simp only [Bool.and_eq_true] at hguard
    cases hfault : c.faults.deleteResized with
    | some e => exact h
    | none =>
      have hin := harchive hguard.1 hguard.2 hfault
      exact (hin.congr (get_dropFromBucket_other (by decide))).copy
  · exact h

theorem dropPrimaryDuplicate_eq_ok (alreadyHave : Bool) :
    node.dropPrimaryDuplicate c side key alreadyHave st =
      (.ok (), (node.dropPrimaryDuplicate c side key alreadyHave st).2) := by
  unfold dropPrimaryDuplicate
  split <;> rfl

theorem holdsCopy_repairResolved (hcid : c.cid = cid) (hkeep : node.MustKeep c)
    (hcareful : node.Careful cid whole c key st) (h : node.HoldsCopy cid whole st key)
    (hside : side = node.bucketForCID c.ranked c.placementHosts) {preferredHosts : List String}
    (hpreferred : c.placementHosts = [] → preferredHosts = c.ranked) (isMine : Bool) :
    node.HoldsCopy cid whole
      (node.repairResolved c side key preferredHosts isMine (c.presence st side key) st).2 key := by
  have hresized := hcareful.resized
  have hoverwrite := hcareful.overwrite
  rw [← hside] at hresized hoverwrite
  unfold repairResolved
  rcases validateBlob_cases hcid (c.presence st side key).isSome with
    ⟨e, hvalid⟩ | ⟨hvalid, hhashed⟩ | ⟨st', hvalid, hkept⟩
  · rw [bind_of_error hvalid]
    exact h
  · rw [bind_of_ok hvalid, if_pos rfl]
    split
    · rename_i himage
      exact holdsCopy_deleteResizedImage h fun hcleanup hhave => hresized hcleanup himage hhave
    · cases hentry : c.presence st side key with
      | none =>
        -- nothing is known of the bucket, so nothing is dropped for it
        have hdup : node.dropPrimaryDuplicate c side key false st = (.ok (), st) := by
          simp [dropPrimaryDuplicate]
        rw [modify_bind_apply, Option.elim_none, Option.isSome_none, bind_of_ok hdup]
        split
        · rename_i hfetch
          simp only [Option.isNone_none, Bool.and_true, Bool.and_eq_true] at hfetch
          exact holdsCopy_fetchBlob hside (h.other (hoverwrite hentry hfetch.2)) _
        · rw [dropOverReplicated_of_mustKeep hkeep hpreferred]
          exact h
      | some entry =>
        rw [modify_bind_apply, Option.elim_some, Option.isSome_some,
          bind_of_ok (dropPrimaryDuplicate_eq_ok true), if_neg (by simp),
          dropOverReplicated_of_mustKeep hkeep hpreferred]
        refine holdsCopy_dropPrimaryDuplicate h fun hcleanup _ harchive hprimary hfault => ?_
        rw [harchive] at hhashed hentry hside
        by_cases hlegacy : isLegacyCID cid = true ∨ c.faults.compute.isSome = true
        · exact hcareful.duplicate hcleanup hside.symm (by rw [hentry]; rfl) hprimary hfault hlegacy
        · rw [not_or] at hlegacy
          exact hhashed hcleanup (by rw [hentry]; rfl) hlegacy.1 hlegacy.2
  · rw [bind_of_ok hvalid]
    exact hkept h

theorem holdsCopy_repairKey (hcid : c.cid = cid) (hkeep : node.MustKeep c)
    (hcareful : node.Careful cid whole c key st) (h : node.HoldsCopy cid whole st key)
    {preferredHosts : List String}
    (hpreferred : c.placementHosts = [] → preferredHosts = c.ranked) (isMine : Bool) :
    node.HoldsCopy cid whole (node.repairKey c key preferredHosts isMine st).2 key := by
  unfold repairKey
  -- what the cycle has seen is not what the buckets hold
  have hsee : ∀ alreadyHave size, node.Careful cid whole c key (st.see key alreadyHave size) :=
    fun _ _ => ⟨hcareful.resized, hcareful.duplicate, hcareful.overwrite⟩
  dsimp only
  split
  · exact h
  · generalize ite (c.cleanupMode = true) none _ = known
    cases known with
    | some size => exact h
    | none => exact holdsCopy_repairResolved hcid hkeep (hsee _ _) h rfl hpreferred isMine

theorem holdsCopy_repairCidWithPolicy (hcid : c.cid = cid) (hkey : shardCID cid = some key)
    (hkeep : node.MustKeep c) (hcareful : node.Careful cid whole c key st)
    (h : node.HoldsCopy cid whole st key) :
    node.HoldsCopy cid whole (node.repairCidWithPolicy c st).2 key := by
  have hpreferred : c.placementHosts = [] →
      (if decide (c.placementHosts ≠ []) = true then c.placementHosts else c.ranked) = c.ranked := by
    intro hnone
    simp [hnone]
  unfold repairCidWithPolicy
  split
  · exact h
  · dsimp only
    split
    · exact h
    · split
      · exact h
      · split
        · exact h
        · rw [hcid, hkey]
          exact holdsCopy_repairKey hcid hkeep hcareful h hpreferred _

end StorageNode

/-- A new cycle has seen no keys. -/
inductive RepairStep where
  | newCycle
  | repair (c : RepairCall)

namespace StorageNode

variable (node : StorageNode)

/-- What a step leaves in the buckets, whether the call returns or fails. -/
def repairStep (st : Storage) : RepairStep → Storage
  | .newCycle => { st with seenKeys := ∅ }
  | .repair c => (node.repairCidWithPolicy c st).2

/-- Every call of the sequence is careful in the state it finds. -/
def CarefulRun (cid : String) (whole key : Bytes) : List RepairStep → Storage → Prop
  | [], _ => True
  | step :: steps, st =>
    (∀ c, step = .repair c → node.Careful cid whole c key st) ∧
      CarefulRun cid whole key steps (node.repairStep st step)

variable {node}

/-- However many calls there are, whatever fails in them and however the ranking changes between
them: a node that has to keep the blob at each call and holds it completely in one of its buckets
holds it completely in one of them afterwards, if the calls are careful. -/
theorem repairs_keep_last_copy {cid : String} {whole key : Bytes} (hkey : shardCID cid = some key)
    {steps : List RepairStep} {st : Storage}
    (hsteps : ∀ c, .repair c ∈ steps → c.cid = cid ∧ node.MustKeep c)
    (hcareful : node.CarefulRun cid whole key steps st) (h : node.HoldsCopy cid whole st key) :
    node.HoldsCopy cid whole (steps.foldl node.repairStep st) key := by
  induction steps generalizing st with
  | nil => exact h
  | cons step steps ih =>
    obtain ⟨hfirst, hrest⟩ := hcareful
    refine ih (fun c hc => hsteps c (List.mem_cons_of_mem step hc)) hrest ?_
    cases step with
    | newCycle => exact h
    | repair c =>
      obtain ⟨hcid, hkeep⟩ := hsteps c List.mem_cons_self
      exact holdsCopy_repairCidWithPolicy hcid hkey hkeep (hfirst c rfl) h

def archiveCall (cleanupMode : Bool) (move : MoveFaults) : RepairCall where
  cid := "QmP8Wuu1kN9iHBoBptB4UrTN3orna3Z6ZW2xevNkoE2y22"
  ranked := ["https://b.example", "https://c.example", "https://d.example", "https://a.example"]
  policy := { storeAll := true, storeRecent := false, ttl := 0, now := 0 }
  cleanupMode := cleanupMode
  now := 0
  faults := { move := move }

def twoCycles (move : MoveFaults) : List RepairStep :=
  [.newCycle, .repair (archiveCall false move), .newCycle, .repair (archiveCall true {})]

def beforeArchive : Storage :=
  Storage.put {} .primary (textBytes "2y2/QmP8Wuu1kN9iHBoBptB4UrTN3orna3Z6ZW2xevNkoE2y22") [1, 2, 3, 4]

theorem mustKeep_twoCycles (move : MoveFaults) (c : RepairCall)
    (hc : RepairStep.repair c ∈ twoCycles move) :
    c.cid = "QmP8Wuu1kN9iHBoBptB4UrTN3orna3Z6ZW2xevNkoE2y22" ∧ archiver.MustKeep c := by
  simp only [twoCycles, List.mem_cons, RepairStep.repair.injEq, reduceCtorEq, false_or, or_false,
    List.not_mem_nil] at hc
  rcases hc with rfl | rfl <;> exact ⟨rfl, .inl rfl⟩

/-- A move that does not break off. -/
theorem unbroken_move_keeps_blob :
    archiver.HoldsCopy "QmP8Wuu1kN9iHBoBptB4UrTN3orna3Z6ZW2xevNkoE2y22" [1, 2, 3, 4]
      ((twoCycles {}).foldl archiver.repairStep beforeArchive)
      (textBytes "2y2/QmP8Wuu1kN9iHBoBptB4UrTN3orna3Z6ZW2xevNkoE2y22") := by
  refine repairs_keep_last_copy (by decide +kernel) (mustKeep_twoCycles {}) ?_
    ⟨.primary, [1, 2, 3, 4], by decide +kernel, by decide +kernel⟩
  refine ⟨fun c hc => (by cases hc), fun c hc => ?_, fun c hc => (by cases hc), fun c hc => ?_,
    trivial⟩
  · cases hc
    refine ⟨fun hcleanup => (by cases hcleanup), fun hcleanup => (by cases hcleanup), fun _ _ => ?_⟩
    rintro ⟨content, hget, -⟩
    have hempty : (archiver.repairStep beforeArchive .newCycle).get
        (archiver.bucketForCID (archiveCall false {}).ranked (archiveCall false {}).placementHosts)
        (textBytes "2y2/QmP8Wuu1kN9iHBoBptB4UrTN3orna3Z6ZW2xevNkoE2y22") = none := by
      decide +kernel
    rw [hempty] at hget
    cases hget
  · cases hc
    refine ⟨fun _ himage => ?_, fun _ _ _ hprimary => ?_, fun hmissing => ?_⟩
    · exact absurd himage (by decide +kernel)
    · exact absurd hprimary (by decide +kernel)
    · exact absurd (congrArg Option.isSome hmissing) (by decide +kernel)

/-- The move breaks off after two bytes, and the cleanup cycle drops the blob for them. -/
theorem broken_move_loses_blob :
    (∀ c, RepairStep.repair c ∈ twoCycles { write := { copy := some (2, "reset") } } →
      c.cid = "QmP8Wuu1kN9iHBoBptB4UrTN3orna3Z6ZW2xevNkoE2y22" ∧ archiver.MustKeep c) ∧
    archiver.HoldsCopy "QmP8Wuu1kN9iHBoBptB4UrTN3orna3Z6ZW2xevNkoE2y22" [1, 2, 3, 4] beforeArchive
      (textBytes "2y2/QmP8Wuu1kN9iHBoBptB4UrTN3orna3Z6ZW2xevNkoE2y22") ∧
    ¬ archiver.HoldsCopy "QmP8Wuu1kN9iHBoBptB4UrTN3orna3Z6ZW2xevNkoE2y22" [1, 2, 3, 4]
      ((twoCycles { write := { copy := some (2, "reset") } }).foldl archiver.repairStep beforeArchive)
      (textBytes "2y2/QmP8Wuu1kN9iHBoBptB4UrTN3orna3Z6ZW2xevNkoE2y22") := by
  refine ⟨mustKeep_twoCycles _, ⟨.primary, [1, 2, 3, 4], by decide +kernel, by decide +kernel⟩, ?_⟩
  rintro ⟨side, content, hget, hcomplete⟩
  have hprimary : ((twoCycles { write := { copy := some (2, "reset") } }).foldl archiver.repairStep
      beforeArchive).get .primary
      (textBytes "2y2/QmP8Wuu1kN9iHBoBptB4UrTN3orna3Z6ZW2xevNkoE2y22") = none := by
    decide +kernel
  have harchive : ((twoCycles { write := { copy := some (2, "reset") } }).foldl archiver.repairStep
      beforeArchive).get .archive
      (textBytes "2y2/QmP8Wuu1kN9iHBoBptB4UrTN3orna3Z6ZW2xevNkoE2y22") = some [1, 2] := by
    decide +kernel
  cases side with
  | primary => cases hprimary.symm.trans hget
  | archive =>
    cases harchive.symm.trans hget
    revert hcomplete
    decide +kernel

end StorageNode

end OpenAudio.Mediorum
