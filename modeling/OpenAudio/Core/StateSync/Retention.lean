import OpenAudio.Core.StateSync.Snapshots

/-!
# Which blocks a node keeps

At every commit the application may tell CometBFT from which height on blocks are needed. A node
that serves snapshots keeps the blocks from a hundred below its oldest snapshot, which it looks up in
a cache that is refreshed in the background; if the cache lists none it keeps a window of recent
blocks instead. Pruning is not undone, so that the height must never pass what a snapshot needs.
-/

namespace OpenAudio.Core

structure RetentionConfig where
  archive : Bool
  serveSnapshots : Bool
  /-- `RetainHeight`, the number of recent blocks to keep -/
  retainWindow : Int

def safetyBuffer : Int := 100

/-- `calculateLowestRetainHeight`, over the height of the latest block if it can be read and the
heights of the cached snapshots, the newest first. Zero is no change. -/
def calculateLowestRetainHeight (config : RetentionConfig) (latestBlock : Option Int)
    (cache : List Nat) (lastSetRetain : Int) : Int :=
  if config.archive then 0
  else
    match latestBlock with
    | none => 0
    | some latestHeight =>
      match if config.serveSnapshots then cache.getLast? else none with
      | some oldestSnapshotHeight =>
        let retainFromSnapshots := max ((oldestSnapshotHeight : Int) - safetyBuffer) 1
        if retainFromSnapshots > lastSetRetain then retainFromSnapshots else 0
      | none =>
        if config.retainWindow ≤ 0 ∨ latestHeight ≤ config.retainWindow then 0
        else
          let retainFromWindow := latestHeight - config.retainWindow
          if retainFromWindow ≤ lastSetRetain then 0 else retainFromWindow

/-- A snapshot that is offered to other nodes. -/
def OfferedAt (dir : SnapshotDir) (height : Nat) : Prop := CompleteAt dir height ∧ height ≠ 0

instance (dir : SnapshotDir) (height : Nat) : Decidable (OfferedAt dir height) :=
  inferInstanceAs (Decidable (_ ∧ _))

/-- `getStoredSnapshots`: the heights in ascending order. Torn metadata are an error. -/
def getStoredSnapshots (config : RetentionConfig) (dir : SnapshotDir) : Option (List Nat) :=
  if config.serveSnapshots = false then some []
  else if ∃ h ∈ dir.keys, dir.lookup h = some .torn then none
  else
    some ((dir.keys.filter fun h => OfferedAt dir h).insertionSort (· ≤ ·))

/-- The part of a node that decides which blocks are pruned: its snapshots, the cache, and the last
height it set in this process. Beside it stands what the process has returned, the last one first,
each with the snapshots at that time. -/
structure RetentionNode where
  dir : SnapshotDir := ∅
  cache : List Nat := []
  lastRetainHeight : Int := 0
  returned : List (Int × SnapshotDir) := []

namespace RetentionNode

variable (config : RetentionConfig) (n : RetentionNode)

/-- `cacheSnapshots`: the newest first. An error leaves the cache as it is. -/
def cacheSnapshots : RetentionNode :=
  match getStoredSnapshots config n.dir with
  | none => n
  | some heights => { n with cache := heights.reverse }

/-- The end of `Commit`. -/
def commit (latestBlock : Option Int) : RetentionNode :=
  let h := calculateLowestRetainHeight config latestBlock n.cache n.lastRetainHeight
  if h > 0 then { n with lastRetainHeight := h, returned := (h, n.dir) :: n.returned } else n

end RetentionNode

/-- The cache lists a snapshot as old as every snapshot on disk. -/
def Covers (cache : List Nat) (dir : SnapshotDir) : Prop :=
  ∀ h, OfferedAt dir h → ∃ oldest, cache.getLast? = some oldest ∧ oldest ≤ h

/-- Blocks are committed while snapshots come and go, the cache is refreshed and the process
restarts. The condition is the one the commits meet. -/
inductive RetentionRun (config : RetentionConfig) (ok : RetentionNode → Prop) :
    RetentionNode → Prop
  | start (dir : SnapshotDir) : RetentionRun config ok { dir := dir }
  | disk {n : RetentionNode} (run : RetentionRun config ok n) (dir : SnapshotDir) :
    RetentionRun config ok { n with dir := dir }
  | refresh {n : RetentionNode} (run : RetentionRun config ok n) :
    RetentionRun config ok (n.cacheSnapshots config)
  | restart {n : RetentionNode} (run : RetentionRun config ok n) :
    RetentionRun config ok { dir := n.dir }
  | commit {n : RetentionNode} (run : RetentionRun config ok n) (h : ok n)
    (latestBlock : Option Int) : RetentionRun config ok (n.commit config latestBlock)

/-! ### One height -/

section Height

variable {config : RetentionConfig} {latestBlock : Option Int} {cache : List Nat}
  {lastSetRetain : Int}

theorem lt_calculateLowestRetainHeight
    (h : 0 < calculateLowestRetainHeight config latestBlock cache lastSetRetain) :
    lastSetRetain < calculateLowestRetainHeight config latestBlock cache lastSetRetain := by
  unfold calculateLowestRetainHeight at h ⊢
  grind

theorem calculateLowestRetainHeight_le {dir : SnapshotDir} (hserve : config.serveSnapshots = true)
    (hcovers : Covers cache dir) {height : Nat} (hheight : OfferedAt dir height) :
    calculateLowestRetainHeight config latestBlock cache lastSetRetain ≤
      max 1 ((height : Int) - safetyBuffer) := by
  obtain ⟨oldest, holdest, hle⟩ := hcovers height hheight
  unfold calculateLowestRetainHeight
  rw [hserve, if_pos rfl, holdest]
  grind

end Height

/-! ### The cache -/

section Cache

variable {config : RetentionConfig} {n : RetentionNode}

/-- A cache that was read from the disk covers it. -/
theorem covers_cacheSnapshots {heights : List Nat} (hserve : config.serveSnapshots = true)
    (h : getStoredSnapshots config n.dir = some heights) :
    Covers (n.cacheSnapshots config).cache (n.cacheSnapshots config).dir := by
  intro height hheight
  simp only [RetentionNode.cacheSnapshots, h] at hheight ⊢
  rw [getStoredSnapshots, hserve, if_neg (by decide)] at h
  split at h
  · cases h
  cases h
  have hmem : height ∈ (n.dir.keys.filter fun h => OfferedAt n.dir h).insertionSort (· ≤ ·) := by
    rw [(List.perm_insertionSort _ _).mem_iff, List.mem_filter]
    refine ⟨?_, decide_eq_true hheight⟩
    exact AList.lookup_isSome.mp (by rw [hheight.1]; rfl)
  have hsorted := List.pairwise_insertionSort (· ≤ ·)
    (n.dir.keys.filter fun h => OfferedAt n.dir h)
  generalize (n.dir.keys.filter fun h => OfferedAt n.dir h).insertionSort (· ≤ ·) = sorted
    at hmem hsorted
  rw [List.getLast?_reverse]
  cases sorted with
  | nil => cases hmem
  | cons oldest rest =>
    refine ⟨oldest, rfl, ?_⟩
    rcases List.mem_cons.mp hmem with rfl | hrest
    · exact Nat.le_refl _
    · exact List.rel_of_pairwise_cons hsorted hrest

end Cache

/-! ### Runs -/

/-- The heights a process returns increase. -/
structure Increases (n : RetentionNode) : Prop where
  last : ∀ p ∈ n.returned, p.1 ≤ n.lastRetainHeight
  sorted : (n.returned.map Prod.fst).Pairwise (· > ·)

section Runs

variable {config : RetentionConfig} {n : RetentionNode}

theorem Increases.commit (h : Increases n) (latestBlock : Option Int) :
    Increases (n.commit config latestBlock) := by
  unfold RetentionNode.commit
  by_cases hpos : calculateLowestRetainHeight config latestBlock n.cache n.lastRetainHeight > 0
  · have hlt := lt_calculateLowestRetainHeight hpos
    simp only [if_pos hpos]
    refine ⟨List.forall_mem_cons.mpr ⟨le_refl _, fun p hp => ((h.last p hp).trans_lt hlt).le⟩,
      List.pairwise_cons.mpr ⟨?_, h.sorted⟩⟩
    intro height hmem
    obtain ⟨p, hp, rfl⟩ := List.mem_map.mp hmem
    exact (h.last p hp).trans_lt hlt
  · simp only [if_neg hpos]
    exact h

theorem increases_cacheSnapshots (h : Increases n) : Increases (n.cacheSnapshots config) := by
  unfold RetentionNode.cacheSnapshots
  split
  · exact h
  · exact ⟨h.last, h.sorted⟩

theorem RetentionRun.increases {ok : RetentionNode → Prop} (run : RetentionRun config ok n) :
    Increases n := by
  induction run with
  | start dir => exact ⟨fun p hp => (by cases hp), List.Pairwise.nil⟩
  | disk _ dir ih => exact ⟨ih.last, ih.sorted⟩
  | refresh _ ih => exact increases_cacheSnapshots ih
  | restart _ _ => exact ⟨fun p hp => (by cases hp), List.Pairwise.nil⟩
  | commit _ _ latestBlock ih => exact ih.commit latestBlock

theorem returned_cacheSnapshots (n : RetentionNode) :
    (n.cacheSnapshots config).returned = n.returned := by
  unfold RetentionNode.cacheSnapshots
  split <;> rfl

/-- If the cache covers the disk at every commit, no height that is returned passes what the oldest
snapshot needs, and the heights of a process increase. -/
theorem retain_heights_below_snapshots (hserve : config.serveSnapshots = true)
    (run : RetentionRun config (fun n => Covers n.cache n.dir) n) :
    (∀ p ∈ n.returned, ∀ height, OfferedAt p.2 height →
      p.1 ≤ max 1 ((height : Int) - safetyBuffer)) ∧
    (n.returned.map Prod.fst).Pairwise (· > ·) := by
  refine ⟨?_, run.increases.sorted⟩
  induction run with
  | start dir => exact fun p hp => (by cases hp)
  | disk _ dir ih => exact ih
  | refresh _ ih =>
    rw [returned_cacheSnapshots]
    exact ih
  | restart _ _ => exact fun p hp => (by cases hp)
  | commit _ hcovers latestBlock ih =>
    unfold RetentionNode.commit
    dsimp only
    split
    · exact List.forall_mem_cons.mpr
        ⟨fun height hheight => calculateLowestRetainHeight_le hserve hcovers hheight, ih⟩
    · exact ih

end Runs

def servingConfig : RetentionConfig := ⟨false, true, 200⟩

def snapshotAt850 : SnapshotDir := createSnapshot ∅ 850 .written

/-- The cache is filled before the first commit. -/
theorem retain_heights_below_snapshots_cached :
    ∃ n, RetentionRun servingConfig (fun n => Covers n.cache n.dir) n ∧
      n.returned.map Prod.fst = [750] ∧
      ∀ p ∈ n.returned, ∀ height, OfferedAt p.2 height →
        p.1 ≤ max 1 ((height : Int) - safetyBuffer) := by
  have hstored : getStoredSnapshots servingConfig snapshotAt850 = some [850] := by decide
  have hcovers := covers_cacheSnapshots (n := { dir := snapshotAt850 }) rfl hstored
  have run : RetentionRun servingConfig (fun n => Covers n.cache n.dir) _ :=
    .commit (.refresh (.start snapshotAt850)) hcovers (some 1100)
  exact ⟨_, run, by decide, (retain_heights_below_snapshots rfl run).1⟩

/-- Before the cache is filled, the window of recent blocks passes the snapshot on disk. -/
theorem unloaded_cache_prunes_snapshot_blocks :
    ∃ n, RetentionRun servingConfig (fun _ => True) n ∧ OfferedAt n.dir 850 ∧
      ∃ p ∈ n.returned, p.2 = n.dir ∧ ¬ p.1 ≤ max 1 ((850 : Int) - safetyBuffer) := by
  refine ⟨_, .commit (.start snapshotAt850) trivial (some 1100), by decide, ?_⟩
  exact ⟨(900, snapshotAt850), List.mem_singleton.mpr rfl, rfl, by decide⟩

end OpenAudio.Core
