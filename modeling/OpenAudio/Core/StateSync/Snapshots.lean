import OpenAudio.Core.StateSync

/-!
# The snapshots a node keeps

A snapshot is made in a directory of its own, whose name carries the height; its metadata is the
last file that is written. An attempt that fails removes its directory, and one that is cut off by a
crash leaves it. Old snapshots are pruned by the names of the directories alone.
-/

namespace OpenAudio.Core

/-! ### The directory -/

/-- The directory of a height: without metadata, with metadata that were not written to the end, or
with a snapshot. -/
inductive SnapshotFiles
  | unfinished
  | torn
  | complete
  deriving DecidableEq

/-- The directories under their heights. -/
abbrev SnapshotDir := Table Nat SnapshotFiles

/-- The name `getHeightDir` gives a height. -/
def heightDirName (height : Nat) : String := "height_" ++ paddedDecimal 10 height

/-- How far an attempt comes: it ends before it makes a directory, fails and removes it, is cut off,
or writes its metadata. An attempt that fails and cannot remove its directory leaves it too. -/
inductive SnapshotAttempt
  | skipped
  | failed
  | cutOff (metadata : Bool)
  | written

/-- `createSnapshot` at the height its view of the database has. -/
def createSnapshot (dir : SnapshotDir) (height : Nat) (attempt : SnapshotAttempt) : SnapshotDir :=
  if dir.lookup height = some .torn ∨ dir.lookup height = some .complete then dir
  else
    match attempt with
    | .skipped => dir
    | .failed => AList.erase height dir
    | .cutOff metadata => dir.insert height (if metadata then .torn else .unfinished)
    | .written => dir.insert height .complete

/-- The entries of the directory in the order of their names. -/
def byDirName (dir : SnapshotDir) : List Nat :=
  dir.keys.insertionSort fun h h' => heightDirName h ≤ heightDirName h'

def pruneSnapshots (keep : Nat) (dir : SnapshotDir) : SnapshotDir :=
  let files := byDirName dir
  (files.take (files.length - keep)).foldl (fun dir height => AList.erase height dir) dir

/-- Attempts and prunes in any order, with the directory before and after each prune, the last one
first. -/
inductive SnapshotRun (keep : Nat) : List (SnapshotDir × SnapshotDir) → SnapshotDir → Prop
  | start : SnapshotRun keep [] ∅
  | create {prunes : List (SnapshotDir × SnapshotDir)} {dir : SnapshotDir}
    (run : SnapshotRun keep prunes dir) (height : Nat) (attempt : SnapshotAttempt) :
    SnapshotRun keep prunes (createSnapshot dir height attempt)
  | prune {prunes : List (SnapshotDir × SnapshotDir)} {dir : SnapshotDir}
    (run : SnapshotRun keep prunes dir) :
    SnapshotRun keep ((dir, pruneSnapshots keep dir) :: prunes) (pruneSnapshots keep dir)

def CompleteAt (dir : SnapshotDir) (height : Nat) : Prop := dir.lookup height = some .complete

instance (dir : SnapshotDir) (height : Nat) : Decidable (CompleteAt dir height) :=
  inferInstanceAs (Decidable (_ = _))

/-- The snapshots above a height. -/
def completeAbove (dir : SnapshotDir) (height : Nat) : List Nat :=
  dir.keys.filter fun h => height < h ∧ CompleteAt dir h

/-- The snapshots of a directory with fewer than `keep` snapshots above them are in another. -/
def HoldsHighest (keep : Nat) (before after : SnapshotDir) : Prop :=
  ∀ h, CompleteAt before h → (completeAbove before h).length < keep → CompleteAt after h

/-- No directory without a snapshot is above a snapshot. -/
def NoLeftoverAbove (dir : SnapshotDir) : Prop :=
  ∀ h ∈ dir.keys, ¬ CompleteAt dir h → ∀ h' ∈ dir.keys, CompleteAt dir h' → h < h'

instance (dir : SnapshotDir) : Decidable (NoLeftoverAbove dir) :=
  inferInstanceAs (Decidable (∀ h ∈ dir.keys, _ → ∀ h' ∈ dir.keys, _ → _))

/-! ### What a prune leaves -/

section Prune

variable {keep : Nat} {dir : SnapshotDir} {height : Nat}

theorem lookup_foldl_erase (heights : List Nat) (dir : SnapshotDir) :
    (heights.foldl (fun dir height => AList.erase height dir) dir).lookup height =
      if height ∈ heights then none else dir.lookup height := by
  induction heights generalizing dir with
  | nil => exact (if_neg List.not_mem_nil).symm
  | cons h heights ih =>
    rw [List.foldl_cons, ih, Table.lookup_erase_eq]
    by_cases hmem : height ∈ heights
    · rw [if_pos hmem, if_pos (List.mem_cons_of_mem h hmem)]
    · rw [if_neg hmem]
      simp only [List.mem_cons, hmem, or_false]

theorem perm_byDirName : (byDirName dir).Perm dir.keys := List.perm_insertionSort _ _

theorem nodup_byDirName : (byDirName dir).Nodup := perm_byDirName.nodup_iff.mpr dir.nodupKeys

theorem mem_byDirName : height ∈ byDirName dir ↔ height ∈ dir := perm_byDirName.mem_iff

/-- With ten digits the order of the names is that of the heights. -/
theorem pairwise_byDirName (hheights : ∀ h ∈ dir, h < 10 ^ 10) :
    (byDirName dir).Pairwise (· < ·) := by
  have hnames : (byDirName dir).Pairwise fun h h' => heightDirName h ≤ heightDirName h' :=
    List.pairwise_insertionSort _ _
  refine (hnames.and nodup_byDirName).imp_of_mem fun {h h'} hmem _ hle => ?_
  rcases Nat.lt_trichotomy h h' with hlt | heq | hgt
  · exact hlt
  · exact absurd heq hle.2
  · have hname := paddedDecimal_lt (hheights h (mem_byDirName.mp hmem)) hgt "height_" ""
    rw [String.append_empty, String.append_empty] at hname
    exact absurd hle.1 hname.not_ge

theorem lookup_pruneSnapshots : (pruneSnapshots keep dir).lookup height =
    if height ∈ (byDirName dir).take ((byDirName dir).length - keep) then none
    else dir.lookup height :=
  lookup_foldl_erase _ _

/-- A height that is pruned has as many entries above it as are kept. -/
theorem length_above_of_mem_take (hsorted : (byDirName dir).Pairwise (· < ·))
    (hmem : height ∈ (byDirName dir).take ((byDirName dir).length - keep)) :
    ((byDirName dir).drop ((byDirName dir).length - keep)).length = keep ∧
      ∀ h ∈ (byDirName dir).drop ((byDirName dir).length - keep), height < h := by
  constructor
  · have hpos : (byDirName dir).length - keep ≠ 0 := by
      intro hzero
      rw [hzero] at hmem
      cases hmem
    rw [List.length_drop]
    omega
  · rw [← List.take_append_drop ((byDirName dir).length - keep) (byDirName dir),
      List.pairwise_append] at hsorted
    exact hsorted.2.2 height hmem

theorem holdsHighest_pruneSnapshots (hheights : ∀ h ∈ dir, h < 10 ^ 10)
    (hleft : NoLeftoverAbove dir) : HoldsHighest keep dir (pruneSnapshots keep dir) := by
  intro h hcomplete hfew
  rw [CompleteAt, lookup_pruneSnapshots, if_neg]
  · exact hcomplete
  intro hmem
  have hdir : h ∈ dir.keys := mem_byDirName.mp (List.mem_of_mem_take hmem)
  obtain ⟨hlength, habove⟩ := length_above_of_mem_take (pairwise_byDirName hheights) hmem
  have hsub : (byDirName dir).drop ((byDirName dir).length - keep) ⊆ completeAbove dir h := by
    intro h' hh'
    have hdir' : h' ∈ dir.keys := mem_byDirName.mp (List.mem_of_mem_drop hh')
    refine List.mem_filter.mpr ⟨hdir', decide_eq_true ⟨habove h' hh', ?_⟩⟩
    by_contra hincomplete
    exact (hleft h' hdir' hincomplete h hdir hcomplete).not_gt (habove h' hh')
  have hle := List.subperm_of_subset (nodup_byDirName.sublist (List.drop_sublist _ _)) hsub
  exact absurd (hlength ▸ hle.length_le) (not_le.mpr hfew)

/-- Every prune of a run leaves the highest snapshots, where none finds a directory that an attempt
left above a snapshot. -/
theorem prunes_hold_highest {prunes : List (SnapshotDir × SnapshotDir)}
    (hrun : SnapshotRun keep prunes dir)
    (hheights : ∀ p ∈ prunes, ∀ h ∈ p.1.keys, h < 10 ^ 10)
    (hleft : ∀ p ∈ prunes, NoLeftoverAbove p.1) :
    ∀ p ∈ prunes, HoldsHighest keep p.1 p.2 := by
  induction hrun with
  | start => exact fun p hp => (by cases hp)
  | create run height attempt ih => exact ih hheights hleft
  | prune run ih =>
    rw [List.forall_mem_cons] at hheights hleft ⊢
    exact ⟨holdsHighest_pruneSnapshots hheights.1 hleft.1, ih hheights.2 hleft.2⟩

end Prune

/-- Three snapshots, of which two are kept. -/
theorem prunes_hold_highest_two :
    let dir := createSnapshot (createSnapshot (createSnapshot ∅ 100 .written) 200 .written) 300
      .written
    HoldsHighest 2 dir (pruneSnapshots 2 dir) ∧ CompleteAt (pruneSnapshots 2 dir) 200 := by
  intro dir
  have hrun : SnapshotRun 2 [(dir, pruneSnapshots 2 dir)] (pruneSnapshots 2 dir) :=
    .prune (.create (.create (.create .start 100 .written) 200 .written) 300 .written)
  have hholds := prunes_hold_highest hrun (by decide) (by decide) _ (List.mem_singleton.mpr rfl)
  exact ⟨hholds, hholds 200 (by decide) (by decide)⟩

/-- The directory that an attempt at 200 left behind takes the place of the snapshot at 100. -/
theorem leftover_displaces_snapshot :
    let dir := createSnapshot (createSnapshot (createSnapshot ∅ 100 .written) 200 (.cutOff false))
      300 .written
    SnapshotRun 2 [(dir, pruneSnapshots 2 dir)] (pruneSnapshots 2 dir) ∧
      CompleteAt dir 100 ∧ (completeAbove dir 100).length < 2 ∧
      ¬ CompleteAt (pruneSnapshots 2 dir) 100 := by
  intro dir
  exact ⟨.prune (.create (.create (.create .start 100 .written) 200 (.cutOff false)) 300 .written),
    by decide, by decide, by decide⟩

end OpenAudio.Core
