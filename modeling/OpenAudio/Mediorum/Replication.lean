import OpenAudio.Mediorum.Repair
import Mathlib.Data.List.Dedup
import Mathlib.Data.List.Perm.Subperm

/-!
# Replicating an upload

The upload endpoint stores a file on this node, and a worker hands it and its transcode to the other
hosts that should have them. How many those are is counted in one place, and who they are is found
in another.
-/

namespace OpenAudio.Mediorum

/-- What a row has to say about replication. `transcoded` is `TranscodeResults["320"]`. -/
structure ReplicatedUpload where
  origFileCID : String
  placementHosts : List String
  mirrors : List String
  transcoded : Option String := none
  transcodedMirrors : List String := []

/-- What comes of `replicateStoredFileToHost` and `notePullHandoff`. -/
inductive PeerOutcome where
  | accepted
  | busy
  | handoffFresh
  | handoffRunning
  | handoffRepeat
  | failed
deriving DecidableEq

/-- The peers' answers, which come off the channel in any order. -/
structure PeerRound where
  arrive : List String → List String
  perm : ∀ hosts, (arrive hosts).Perm hosts
  outcome : String → PeerOutcome

/-! ### The endpoint -/

/-- The check of `placement_hosts` in `postUpload` -/
def acceptPlacement (selfHost : String) (peers : List String) (form : String) :
    Except String (List String) :=
  if form = "" then .ok []
  else
    let placementHosts := (form.toList.splitOn ',').map String.ofList
    if selfHost ∉ placementHosts then
      .error "if placement_hosts is specified, you must upload to one of the placement_hosts"
    else if ∀ host ∈ placementHosts, host ∈ peers then .ok placementHosts
    else .error "all placement_hosts must be registered signers"

theorem mem_of_acceptPlacement {selfHost form : String} {peers placementHosts : List String}
    (h : acceptPlacement selfHost peers form = .ok placementHosts) (hne : placementHosts ≠ []) :
    selfHost ∈ placementHosts := by
  simp only [acceptPlacement] at h
  split_ifs at h with hform hself hpeers
  · exact absurd (Except.ok.inj h).symm hne
  · exact Except.ok.inj h ▸ hself

namespace StorageNode

variable (node : StorageNode)

/-- What `postUpload` and `transcode` record as the mirrors of a file they have just stored. -/
def firstMirrors (placementHosts ranked : List String) : List String :=
  let shouldAddSelf := if 0 < placementHosts.length then decide (node.selfHost ∈ placementHosts)
    else node.isMine ranked
  if shouldAddSelf then [node.selfHost] else []

/-- The row `postUpload` creates, after `transcode` if there is one, for a ranking of the hosts. -/
def createUpload (rank : String → List String) (placementHosts : List String) (cid : String)
    (transcoded : Option String) : ReplicatedUpload where
  origFileCID := cid
  placementHosts := placementHosts
  mirrors := node.firstMirrors placementHosts (rank cid)
  transcoded := transcoded
  transcodedMirrors := transcoded.elim [] fun cid => node.firstMirrors placementHosts (rank cid)

/-! ### The worker -/

def replicationTargetFor (u : ReplicatedUpload) : Int :=
  if 0 < u.placementHosts.length then u.placementHosts.length else node.replicationFactor

def uploadNeedsReplication (u : ReplicatedUpload) : Bool :=
  if (u.mirrors.length : Int) < node.replicationTargetFor u then true
  else u.transcoded.getD "" ≠ "" ∧ (u.transcodedMirrors.length : Int) < node.replicationTargetFor u

/-- The hosts of a file; none where the slice is out of bounds. -/
def placementFor (placementHosts ranked : List String) : Option (List String) :=
  if placementHosts.length = 0 then
    if node.replicationFactor < ranked.length then
      if node.replicationFactor < 0 then none
      else some (ranked.take node.replicationFactor.toNat)
    else some ranked
  else some placementHosts

end StorageNode

def mergeReplicationMirrors (existing newSuccessHosts : List String) : List String × Bool :=
  newSuccessHosts.foldl
    (fun r host => if host ∈ r.1 then r else (r.1 ++ [host], true)) (existing, false)

namespace StorageNode

variable (node : StorageNode)

/-- The mirrors `replicateToHosts` adds to those of the row, with a blob that is in the bucket. -/
def replicateToHosts (placementHosts ranked existingMirrors rowMirrors : List String)
    (round : PeerRound) : Option (List String) := do
  let hosts ← node.placementFor placementHosts ranked
  let targetHosts := hosts.filter fun host => host ≠ node.selfHost ∧ host ∉ existingMirrors
  let newSuccessHosts := (round.arrive targetHosts).filter fun host => round.outcome host = .accepted
  let (merged, changed) := mergeReplicationMirrors rowMirrors newSuccessHosts
  pure (if changed then merged else rowMirrors)

def replicateTranscode (rank : String → List String) (round : PeerRound) (u : ReplicatedUpload) :
    Option ReplicatedUpload :=
  match u.transcoded with
  | some cid =>
    if (u.transcodedMirrors.length : Int) < node.replicationTargetFor u ∧ cid ≠ "" then
      (node.replicateToHosts u.placementHosts (rank cid) u.transcodedMirrors u.transcodedMirrors
        round).map fun merged => { u with transcodedMirrors := merged }
    else some u
  | none => some u

def replicateOriginal (rank : String → List String) (round : PeerRound) (u row : ReplicatedUpload) :
    Option ReplicatedUpload :=
  if (u.mirrors.length : Int) < node.replicationTargetFor u ∧ u.origFileCID ≠ "" then
    (node.replicateToHosts u.placementHosts (rank u.origFileCID) u.mirrors row.mirrors round).map
      fun merged => { row with mirrors := merged }
  else some row

/-- A round of `replicationWorker`, for an upload that is as the row was before it -/
def replicateUpload (rank : String → List String) (original transcode : PeerRound) (u : ReplicatedUpload) :
    Option ReplicatedUpload := do
  let row ← node.replicateTranscode rank transcode u
  node.replicateOriginal rank original u row

/-- `findMissedReplications`, of this node's rows that are not being transcoded -/
def findMissedReplications (uploads : List ReplicatedUpload) : List ReplicatedUpload :=
  uploads.filter fun u => u.origFileCID ≠ "" ∧ node.uploadNeedsReplication u

end StorageNode

/-! ### How many hosts that makes -/

/-- The merged mirrors are those that were there and the new ones, each once. -/
theorem mergeReplicationMirrors_spec (hosts : List String) {existing : List String}
    (h : existing.Nodup) :
    let r := mergeReplicationMirrors existing hosts
    (if r.2 then r.1 else existing) = r.1 ∧ r.1.Nodup ∧ ∀ host, host ∈ r.1 ↔ host ∈ existing ∨ host ∈ hosts := by
  -- over the fold, from a list that may have been changed before
  suffices hfold : ∀ r : List String × Bool, r.1.Nodup → (r.2 = false → r.1 = existing) →
      let r' := hosts.foldl (fun r host => if host ∈ r.1 then r else (r.1 ++ [host], true)) r
      (if r'.2 then r'.1 else existing) = r'.1 ∧ r'.1.Nodup ∧
        ∀ host, host ∈ r'.1 ↔ host ∈ r.1 ∨ host ∈ hosts from
    hfold (existing, false) h fun _ => rfl
  induction hosts with
  | nil =>
    intro r hr hsame
    refine ⟨?_, hr, by simp⟩
    cases hchanged : r.2 with
    | false => simp [hchanged, hsame hchanged]
    | true => simp [hchanged]
  | cons host hosts ih =>
    intro r hr hsame
    rw [List.foldl_cons]
    split_ifs with hmem
    · obtain ⟨hend, hnodup, hiff⟩ := ih r hr hsame
      refine ⟨hend, hnodup, fun host' => (hiff host').trans ?_⟩
      rw [List.mem_cons]
      constructor
      · exact Or.imp_right .inr
      · rintro (hin | rfl | hin)
        exacts [.inl hin, .inl hmem, .inr hin]
    · have hnew : (r.1 ++ [host]).Nodup := hr.append (List.nodup_singleton host) (by simpa using hmem)
      obtain ⟨hend, hnodup, hiff⟩ := ih (r.1 ++ [host], true) hnew nofun
      exact ⟨hend, hnodup, fun host' => (hiff host').trans (by simp [or_assoc])⟩

theorem length_dedup_lt_iff {hosts : List String} : hosts.dedup.length < hosts.length ↔ ¬ hosts.Nodup := by
  refine ⟨fun hlt hnodup => ?_, fun hdup => ?_⟩
  · rw [hnodup.dedup] at hlt
    exact lt_irrefl _ hlt
  · refine lt_of_le_of_ne hosts.dedup_sublist.length_le fun heq => hdup ?_
    rw [← hosts.dedup_sublist.eq_of_length heq]
    exact hosts.nodup_dedup

namespace StorageNode

variable {node : StorageNode} {placementHosts ranked : List String} {round : PeerRound}

theorem nodup_firstMirrors : (node.firstMirrors placementHosts ranked).Nodup := by
  simp only [firstMirrors]
  split_ifs <;> simp

/-- The mirrors of a file that was just stored, once all peers have accepted it: the hosts of the
file, and this node if it counts itself. -/
theorem replicateToHosts_firstMirrors {hosts : List String}
    (hhosts : node.placementFor placementHosts ranked = some hosts)
    (haccept : ∀ host, round.outcome host = .accepted) :
    let first := node.firstMirrors placementHosts ranked
    ∃ merged, node.replicateToHosts placementHosts ranked first first round = some merged ∧
      merged.Nodup ∧ ∀ host, host ∈ merged ↔ host ∈ first ∨ host ∈ hosts ∧ host ≠ node.selfHost := by
  intro first
  have hspec := mergeReplicationMirrors_spec
    ((round.arrive (hosts.filter fun host => host ≠ node.selfHost ∧ host ∉ first)).filter
      fun host => round.outcome host = .accepted) (nodup_firstMirrors : first.Nodup)
  refine ⟨_, by simp only [replicateToHosts, hhosts]; rfl, ?_⟩
  rw [hspec.1]
  refine ⟨hspec.2.1, fun host => (hspec.2.2 host).trans ?_⟩
  rw [List.mem_filter, (round.perm _).mem_iff, List.mem_filter]
  simp only [haccept, decide_true, and_true, decide_eq_true_eq]
  tauto

theorem mem_firstMirrors_of_ranked (h : node.selfHost ∈ ranked.take node.replicationFactor.toNat) :
    node.selfHost ∈ node.firstMirrors [] ranked := by
  have hmem : node.selfHost ∈ ranked := List.mem_of_mem_take h
  have hidx : ranked.idxOf node.selfHost < node.replicationFactor.toNat :=
    (List.mem_take_iff_idxOf_lt hmem).mp h
  have hmine : node.isMine ranked = true := by
    simp [isMine, rankOf, hmem]
    omega
  simp [firstMirrors, hmine]

/-- After a round the file has as many mirrors as the row wants, unless a host is named twice. -/
theorem mirrors_lt_target_iff (hself : placementHosts ≠ [] → node.selfHost ∈ placementHosts)
    (hnodup : ranked.Nodup) (hring : node.replicationFactor ≤ ranked.length)
    (haccept : ∀ host, round.outcome host = .accepted) {target : Int}
    (htarget : target = if 0 < placementHosts.length then (placementHosts.length : Int)
      else node.replicationFactor)
    (hlt : ((node.firstMirrors placementHosts ranked).length : Int) < target) :
    ∃ merged, node.replicateToHosts placementHosts ranked (node.firstMirrors placementHosts ranked)
        (node.firstMirrors placementHosts ranked) round = some merged ∧
      ((merged.length : Int) < target ↔ ¬ placementHosts.Nodup) := by
  by_cases hplaced : placementHosts = []
  · subst hplaced
    simp only [List.length_nil, lt_irrefl, if_false] at htarget
    have hhosts : node.placementFor [] ranked = some (ranked.take node.replicationFactor.toNat) := by
      simp only [placementFor, List.length_nil, if_true]
      split_ifs with hlonger hneg
      · omega
      · rfl
      · rw [List.take_of_length_le (by omega)]
    obtain ⟨merged, hmerged, -, hmem⟩ := replicateToHosts_firstMirrors hhosts haccept
    refine ⟨merged, hmerged, iff_of_false (fun hshort => ?_) (by simp)⟩
    have hsub : ranked.take node.replicationFactor.toNat ⊆ merged := by
      intro host hhost
      rw [hmem]
      by_cases hown : host = node.selfHost
      · exact .inl (hown ▸ mem_firstMirrors_of_ranked (hown ▸ hhost))
      · exact .inr ⟨hhost, hown⟩
    have hle := (List.subperm_of_subset (hnodup.sublist (List.take_sublist _ _)) hsub).length_le
    rw [List.length_take] at hle
    omega
  · have hpos : 0 < placementHosts.length := List.length_pos_iff.mpr hplaced
    rw [if_pos hpos] at htarget
    have hhosts : node.placementFor placementHosts ranked = some placementHosts := by
      simp [placementFor, hplaced]
    have hfirst : node.firstMirrors placementHosts ranked = [node.selfHost] := by
      simp [firstMirrors, hpos, hself hplaced]
    obtain ⟨merged, hmerged, hmergedNodup, hmem⟩ := replicateToHosts_firstMirrors hhosts haccept
    refine ⟨merged, hmerged, ?_⟩
    have hperm : merged.Perm placementHosts.dedup := by
      refine (List.perm_ext_iff_of_nodup hmergedNodup placementHosts.nodup_dedup).mpr fun host => ?_
      rw [hmem, hfirst, List.mem_singleton, List.mem_dedup]
      constructor
      · rintro (rfl | hhost)
        exacts [hself hplaced, hhost.1]
      · exact fun hhost => or_iff_not_imp_left.mpr fun hne => ⟨hhost, hne⟩
    rw [htarget, hperm.length_eq, Int.ofNat_lt, length_dedup_lt_iff]

/-- So it is with the worker's check, which leaves a file alone that has enough mirrors. -/
theorem round_lt_target_iff (hself : placementHosts ≠ [] → node.selfHost ∈ placementHosts)
    (hring : ranked.Nodup ∧ node.replicationFactor ≤ ranked.length)
    (haccept : ∀ host, round.outcome host = .accepted) {target : Int}
    (htarget : target = if 0 < placementHosts.length then (placementHosts.length : Int)
      else node.replicationFactor) :
    let first := node.firstMirrors placementHosts ranked
    ∃ merged, (∀ row : List String → ReplicatedUpload, (if (first.length : Int) < target then
        (node.replicateToHosts placementHosts ranked first first round).map row
        else some (row first)) = some (row merged)) ∧
      ((merged.length : Int) < target ↔ ¬ placementHosts.Nodup) := by
  intro first
  split_ifs with hlt
  · obtain ⟨merged, hmerged, hiff⟩ :=
      mirrors_lt_target_iff hself hring.1 hring.2 haccept htarget hlt
    exact ⟨merged, fun row => by rw [hmerged]; rfl, hiff⟩
  · refine ⟨first, fun _ => rfl, iff_of_false hlt (not_not.mpr ?_)⟩
    by_cases hplaced : placementHosts = []
    · simp [hplaced]
    · have hpos : 0 < placementHosts.length := List.length_pos_iff.mpr hplaced
      have hone : first.length ≤ 1 := by
        simp only [first, firstMirrors]
        split_ifs <;> simp
      rw [if_pos hpos] at htarget
      obtain ⟨host, rfl⟩ := List.length_eq_one_iff.mp (show placementHosts.length = 1 by omega)
      exact List.nodup_singleton host

theorem replicateTranscode_createUpload (hself : placementHosts ≠ [] → node.selfHost ∈ placementHosts)
    {rank : String → List String}
    (hring : ∀ cid, (rank cid).Nodup ∧ node.replicationFactor ≤ (rank cid).length)
    (haccept : ∀ host, round.outcome host = .accepted) (cid : String) (transcoded : Option String) :
    let u := node.createUpload rank placementHosts cid transcoded
    ∃ merged, node.replicateTranscode rank round u = some { u with transcodedMirrors := merged } ∧
      (transcoded.getD "" ≠ "" →
        ((merged.length : Int) < node.replicationTargetFor u ↔ ¬ placementHosts.Nodup)) := by
  cases transcoded with
  | none => exact ⟨[], rfl, by simp⟩
  | some result =>
    by_cases hresult : result = ""
    · exact ⟨_, by simp only [replicateTranscode, createUpload, hresult]; simp; rfl, by simp [hresult]⟩
    · obtain ⟨merged, hround, hlt⟩ := round_lt_target_iff hself (hring result) haccept rfl
      refine ⟨merged, ?_, fun _ => hlt⟩
      simp only [replicateTranscode, createUpload, ne_eq, hresult, not_false_eq_true, and_true]
      exact hround _

/-- Every peer accepts the files of a row that the endpoint made. After one round it needs no more
replication just if its `placement_hosts` name no host twice. -/
theorem replicated_iff_nodup {peers : List String} {form : String}
    (haccepted : acceptPlacement node.selfHost peers form = .ok placementHosts)
    {rank : String → List String}
    (hring : ∀ cid, (rank cid).Nodup ∧ node.replicationFactor ≤ (rank cid).length)
    {original transcode : PeerRound} (horiginal : ∀ host, original.outcome host = .accepted)
    (htranscode : ∀ host, transcode.outcome host = .accepted) {cid : String} (hcid : cid ≠ "")
    (transcoded : Option String) :
    ∃ u, node.replicateUpload rank original transcode
        (node.createUpload rank placementHosts cid transcoded) = some u ∧
      (node.uploadNeedsReplication u = false ↔ placementHosts.Nodup) ∧
      (node.findMissedReplications [u] = [] ↔ placementHosts.Nodup) := by
  have hself := mem_of_acceptPlacement haccepted
  obtain ⟨transcodedMirrors, hrow, htranscoded⟩ :=
    replicateTranscode_createUpload hself hring htranscode cid transcoded
  obtain ⟨mirrors, hround, hlt⟩ := round_lt_target_iff hself (hring cid) horiginal rfl
  have hneeds : node.uploadNeedsReplication { node.createUpload rank placementHosts cid transcoded with
      mirrors := mirrors, transcodedMirrors := transcodedMirrors } = false ↔ placementHosts.Nodup := by
    simp only [uploadNeedsReplication]
    split_ifs with hmirrors
    · exact iff_of_false nofun (hlt.mp hmirrors)
    · have hnodup : placementHosts.Nodup := not_not.mp fun h => hmirrors (hlt.mpr h)
      refine iff_of_true (decide_eq_false fun h => ?_) hnodup
      exact (htranscoded h.1).mp h.2 hnodup
  refine ⟨_, ?_, hneeds, ?_⟩
  · rw [replicateUpload, hrow, Option.bind_eq_bind, Option.bind_some, replicateOriginal]
    simp only [createUpload, ne_eq, hcid, not_false_eq_true, and_true]
    exact hround fun merged => { node.createUpload rank placementHosts cid transcoded with
      mirrors := merged, transcodedMirrors := transcodedMirrors }
  · rw [findMissedReplications, List.filter_eq_nil_iff, List.forall_mem_singleton, ← hneeds]
    simp [createUpload, hcid]

/-! ### A host named twice -/

def pairNode : StorageNode where
  selfHost := "a"
  replicationFactor := 2
  storeAll := false
  hasArchive := false
  computeCID := fun _ => ""

def allAccept : PeerRound := ⟨id, fun _ => List.Perm.refl _, fun _ => .accepted⟩

def pairRank (_ : String) : List String := ["b", "c"]

theorem pair_replicated : acceptPlacement "a" ["a", "b"] "a,b" = .ok ["a", "b"] ∧
    ∃ u, pairNode.replicateUpload pairRank allAccept allAccept
        (pairNode.createUpload pairRank ["a", "b"] "c" (some "t")) = some u ∧
      pairNode.uploadNeedsReplication u = false := by
  have haccepted : acceptPlacement pairNode.selfHost ["a", "b"] "a,b" = .ok ["a", "b"] := by
    decide +kernel
  have hring (cid : String) :
      (pairRank cid).Nodup ∧ pairNode.replicationFactor ≤ (pairRank cid).length := by
    simp only [pairRank]
    decide
  have haccept (host : String) : allAccept.outcome host = .accepted := rfl
  obtain ⟨u, hu, hneeds, -⟩ :=
    replicated_iff_nodup haccepted hring haccept haccept (show "c" ≠ "" by decide) (some "t")
  exact ⟨haccepted, u, hu, hneeds.mpr (by decide)⟩

/-- The row wants three mirrors, and two are all there can be. -/
theorem host_named_twice : acceptPlacement "a" ["a", "b"] "a,b,b" = .ok ["a", "b", "b"] ∧
    ∃ u, pairNode.replicateUpload pairRank allAccept allAccept
        (pairNode.createUpload pairRank ["a", "b", "b"] "c" none) = some u ∧
      u.mirrors = ["a", "b"] ∧ pairNode.uploadNeedsReplication u = true := by
  refine ⟨by decide +kernel, _, rfl, ?_⟩
  decide +kernel

end StorageNode

end OpenAudio.Mediorum
