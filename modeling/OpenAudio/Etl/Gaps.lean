import OpenAudio.Etl.Reindex

/-!
# Gaps in the indexed blocks

A block source asks Core for the blocks from a height on and hands them over one by one; the
indexer processes each and goes on to the next, also after one that failed. A new process starts
after the highest block in `etl_blocks`. The sources leave nothing out, so the indexed blocks have no
gap as long as a block that fails is the last its process handles.
-/

namespace OpenAudio.Etl

open OpenAudio.Core

/-! ### The sources -/

/-- Core's blocks: a height is answered with the block of that height. -/
structure Chain where
  blockAt : Int → EtlBlock
  height_blockAt : ∀ h, (blockAt h).height = h

/-- What comes back from `GetBlocks`. -/
inductive BatchAnswer where
  /-- `Unimplemented` or `InvalidArgument` -/
  | unsupported
  | failed
  /-- the heights of the map -/
  | blocks (heights : List Int)

/-- One round of the polling loop: the answer to `GetBlocks` and whether `GetBlock` returned the
block. -/
structure PollAnswer where
  batch : BatchAnswer
  single : Bool

/-- One connection of the stream: it does not open, or brings some blocks and then breaks off; the
flag is `Unimplemented`. -/
inductive StreamAnswer where
  | failed (unimplemented : Bool)
  | blocks (n : Nat) (unimplemented : Bool)

inductive SourceAnswer where
  | poll (a : PollAnswer)
  | stream (a : StreamAnswer)

/-- A source: the polling prefetcher, with or without batches, or the stream. -/
inductive SourceMode where
  | polling (batchEnabled : Bool)
  | streaming
deriving DecidableEq, Repr

/-- A source and the height it asks for next. -/
structure Cursor where
  mode : SourceMode
  height : Int

def batchSize : Nat := 50

/-- The length of the run of heights from `height` on that the map has, of those asked for. -/
def contiguousRun (heights : List Int) (height : Int) : Nat → Nat
  | 0 => 0
  | n + 1 => if height ∈ heights then contiguousRun heights (height + 1) n + 1 else 0

def pollSingle (batchEnabled : Bool) (height : Int) (single : Bool) : Cursor × List Int :=
  if single then (⟨.polling batchEnabled, height + 1⟩, [height])
  else (⟨.polling batchEnabled, height⟩, [])

/-- A round of `runInto`: the cursor after it and the heights it sends. -/
def poll (batchEnabled : Bool) (height : Int) (a : PollAnswer) : Cursor × List Int :=
  if batchEnabled then
    match a.batch with
    | .unsupported => pollSingle false height a.single
    | .failed => pollSingle true height a.single
    | .blocks heights =>
      if heights = [] then (⟨.polling true, height⟩, [])
      else
        let n := contiguousRun heights height batchSize
        if n = 0 then pollSingle true height a.single
        else (⟨.polling true, height + n⟩, (List.range n).map fun (i : Nat) => height + i)
  else pollSingle false height a.single

/-- `fellBackToPolling`: an endpoint that has no stream is polled from then on. -/
def fellBackToPolling (unimplemented : Bool) : SourceMode :=
  if unimplemented then .polling true else .streaming

def stream (height : Int) : StreamAnswer → Cursor × List Int
  | .failed unimplemented => (⟨fellBackToPolling unimplemented, height⟩, [])
  | .blocks n unimplemented =>
    (⟨fellBackToPolling unimplemented, height + n⟩, (List.range n).map fun (i : Nat) => height + i)

def Cursor.step (c : Cursor) (a : SourceAnswer) : Cursor × List Int :=
  match c.mode, a with
  | .polling batchEnabled, .poll a => poll batchEnabled c.height a
  | .streaming, .stream a => stream c.height a
  | _, _ => (c, [])

def Cursor.sends (c : Cursor) : List SourceAnswer → List Int
  | [] => []
  | a :: as => (c.step a).2 ++ (c.step a).1.sends as

/-! ### The indexer -/

section Indexer

variable {σ : Type} (ix : Indexing σ) (chain : Chain)

/-- A process: its configuration, what it gets from Core and from the database, and for each block
it handles before it ends the faults of the attempts. -/
structure IndexerProcess where
  startingBlockHeight : Int := 0
  endingBlockHeight : Int := 0
  blockStreamEnabled : Bool := false
  /-- the read of the highest indexed block fails -/
  readFault : Bool := false
  /-- the read of `core_indexed_blocks` fails -/
  fallbackFault : Bool := false
  answers : List SourceAnswer
  faults : List (BlockFaults × BlockFaults)

/-- `SELECT MAX(height) FROM core_indexed_blocks` of the chain. -/
def latestCoreHeight (db : EtlTables σ) : Option Int :=
  ((db.coreIndexedBlocks.keys.filter fun k => k.1 == ix.chainId).map (·.2.val)).max?

def latestHeight (p : IndexerProcess) (db : EtlTables σ) : Int :=
  if 0 < p.startingBlockHeight then p.startingBlockHeight - 1
  else match (db.etlBlocks.map (·.blockHeight)).max? with
    | some h => h
    | none => if p.fallbackFault then 0 else (latestCoreHeight ix db).getD 0

def startHeight (p : IndexerProcess) (db : EtlTables σ) : Int := latestHeight ix p db + 1

/-- The loop of `indexBlocks` over the blocks it is sent, as the states it commits. A call that does
not return is the last. -/
def consume (ending : Int) : List (Int × BlockFaults × BlockFaults) → EtlTables σ →
    List (EtlTables σ)
  | [], _ => []
  | (h, first, second) :: rest, db =>
    match processBlock ix (chain.blockAt h) first second db with
    | .ok db' =>
      if 0 < ending ∧ ending ≤ (chain.blockAt h).height then [db'] else db' :: consume ending rest db'
    | .error .endless => []
    | .error _ => consume ending rest db

def IndexerProcess.handles (p : IndexerProcess) (start : Int) :
    List (Int × BlockFaults × BlockFaults) :=
  let mode := if p.blockStreamEnabled then .streaming else .polling true
  ((⟨mode, start⟩ : Cursor).sends p.answers).zip p.faults

/-- `indexBlocks`: the states a process commits. -/
def indexBlocks (p : IndexerProcess) (db : EtlTables σ) : List (EtlTables σ) :=
  if p.readFault ∧ p.startingBlockHeight ≤ 0 then []
  else consume ix chain p.endingBlockHeight (p.handles (startHeight ix p db)) db

def history : List IndexerProcess → EtlTables σ → List (EtlTables σ)
  | [], _ => []
  | p :: ps, db =>
    let states := indexBlocks ix chain p db
    states ++ history ps (states.getLastD db)

end Indexer

/-! ### The sources leave nothing out -/

/-- The heights from `h` on, without a gap. -/
def Consecutive (h : Int) : List Int → Prop
  | [] => True
  | k :: ks => k = h ∧ Consecutive (h + 1) ks

theorem consecutive_append {h : Int} {ks ls : List Int} (hks : Consecutive h ks)
    (hls : Consecutive (h + ks.length) ls) : Consecutive h (ks ++ ls) := by
  induction ks generalizing h with
  | nil => simpa using hls
  | cons k ks ih =>
    refine ⟨hks.1, ih hks.2 ?_⟩
    have hlen : h + ((k :: ks).length : Int) = h + 1 + ks.length := by
      rw [List.length_cons]
      omega
    rwa [hlen] at hls

theorem consecutive_zip {α : Type} {h : Int} {ks : List Int} (hks : Consecutive h ks)
    (as : List α) : Consecutive h ((ks.zip as).map (·.1)) := by
  induction ks generalizing h as with
  | nil => trivial
  | cons k ks ih =>
    cases as with
    | nil => trivial
    | cons a as => exact ⟨hks.1, ih hks.2 as⟩

theorem consecutive_range (h : Int) (n : Nat) :
    Consecutive h ((List.range n).map fun (i : Nat) => h + i) := by
  induction n generalizing h with
  | zero => trivial
  | succ n ih =>
    rw [List.range_succ, List.map_append]
    refine consecutive_append (ih h) ?_
    simp [Consecutive]

/-- A round sends the heights the cursor moves over. -/
def Advances (c : Cursor) (out : Cursor × List Int) : Prop :=
  Consecutive c.height out.2 ∧ out.1.height = c.height + out.2.length

theorem advances_pollSingle (mode : SourceMode) (batchEnabled : Bool) (height : Int)
    (single : Bool) : Advances ⟨mode, height⟩ (pollSingle batchEnabled height single) := by
  unfold pollSingle
  cases single with
  | true => exact ⟨⟨rfl, trivial⟩, rfl⟩
  | false => exact ⟨trivial, (add_zero height).symm⟩

theorem advances_range (mode mode' : SourceMode) (height : Int) (n : Nat) :
    Advances ⟨mode, height⟩ (⟨mode', height + n⟩, (List.range n).map fun (i : Nat) => height + i) := by
  refine ⟨consecutive_range height n, ?_⟩
  simp

theorem advances_step (c : Cursor) (a : SourceAnswer) : Advances c (c.step a) := by
  obtain ⟨mode, height⟩ := c
  have hstay : ∀ m, Advances ⟨mode, height⟩ (⟨m, height⟩, []) :=
    fun _ => ⟨trivial, (add_zero height).symm⟩
  cases mode with
  | polling batchEnabled =>
    cases a with
    | stream a => exact hstay _
    | poll a =>
      simp only [Cursor.step, poll]
      split
      · split
        · exact advances_pollSingle _ _ _ _
        · exact advances_pollSingle _ _ _ _
        · split
          · exact hstay _
          · split
            · exact advances_pollSingle _ _ _ _
            · exact advances_range _ _ _ _
      · exact advances_pollSingle _ _ _ _
  | streaming =>
    cases a with
    | poll a => exact hstay _
    | stream a =>
      cases a with
      | failed unimplemented => exact hstay _
      | blocks n unimplemented => exact advances_range _ _ _ _

theorem consecutive_sends (c : Cursor) (as : List SourceAnswer) :
    Consecutive c.height (c.sends as) := by
  induction as generalizing c with
  | nil => trivial
  | cons a as ih =>
    obtain ⟨hsent, hheight⟩ := advances_step c a
    refine consecutive_append hsent ?_
    rw [← hheight]
    exact ih (c.step a).1

/-! ### Blocks without a gap -/

section Gapless

variable {σ : Type} {ix : Indexing σ} {chain : Chain}

def Committed (db : EtlTables σ) (h : Int) : Prop := ∃ row ∈ db.etlBlocks, row.blockHeight = h

instance (db : EtlTables σ) (h : Int) : Decidable (Committed db h) :=
  inferInstanceAs (Decidable (∃ row ∈ db.etlBlocks, row.blockHeight = h))

/-- Below a committed block, every block from `s` on is committed. -/
def Gapless (s : Int) (db : EtlTables σ) : Prop :=
  ∀ h, Committed db h → ∀ k, s ≤ k → k < h → Committed db k

/-- A start at `h` skips nothing: it is at `s` or below, or the block before it is committed. -/
def Joins (s h : Int) (db : EtlTables σ) : Prop := h ≤ s ∨ Committed db (h - 1)

theorem committed_append {db db' : EtlTables σ} {b : EtlBlock} {h : Int}
    (hrows : db'.etlBlocks = db.etlBlocks ++ [b.row]) :
    Committed db' h ↔ Committed db h ∨ b.height = h := by
  unfold Committed
  rw [hrows]
  simp [or_and_right, exists_or, EtlBlock.row]

theorem gapless_processBlock {s h : Int} {first second : BlockFaults} {db db' : EtlTables σ}
    (hgap : Gapless s db) (hjoins : Joins s h db)
    (hok : processBlock ix (chain.blockAt h) first second db = .ok db') :
    Gapless s db' ∧ Joins s (h + 1) db' := by
  have hcommitted : ∀ k, Committed db' k ↔ Committed db k ∨ h = k := by
    intro k
    rw [committed_append (processBlock_etlBlocks ix _ hok), chain.height_blockAt]
  have hlast : Committed db' h := (hcommitted h).mpr (.inr rfl)
  refine ⟨fun j hj k hsk hkj => ?_, .inr (by rwa [add_sub_cancel_right])⟩
  rw [hcommitted] at hj ⊢
  rcases hj with hj | rfl
  · exact .inl (hgap j hj k hsk hkj)
  · -- below the new block lie only blocks that were committed
    rcases hjoins with hstart | hbefore
    · omega
    · rcases eq_or_lt_of_le (show k ≤ h - 1 by omega) with rfl | hlt
      · exact .inl hbefore
      · exact .inl (hgap (h - 1) hbefore k hsk hlt)

/-- A block that fails is the last of those to be handled. -/
def failsLast (ix : Indexing σ) (chain : Chain) : List (Int × BlockFaults × BlockFaults) →
    EtlTables σ → Bool
  | [], _ => true
  | (h, first, second) :: rest, db =>
    match processBlock ix (chain.blockAt h) first second db with
    | .ok db' => failsLast ix chain rest db'
    | .error _ => rest.isEmpty

theorem gapless_consume {s h ending : Int} {blocks : List (Int × BlockFaults × BlockFaults)}
    {db : EtlTables σ} (hheights : Consecutive h (blocks.map (·.1))) (hgap : Gapless s db)
    (hjoins : Joins s h db) (hlast : failsLast ix chain blocks db = true) :
    ∀ db' ∈ consume ix chain ending blocks db, Gapless s db' := by
  induction blocks generalizing h db with
  | nil =>
    intro db' hdb'
    cases hdb'
  | cons b rest ih =>
    obtain ⟨k, first, second⟩ := b
    obtain ⟨hk, hrest⟩ := hheights
    obtain rfl : k = h := hk
    cases hr : processBlock ix (chain.blockAt k) first second db with
    | ok db₁ =>
      obtain ⟨hgap₁, hjoins₁⟩ := gapless_processBlock hgap hjoins hr
      rw [failsLast, hr] at hlast
      rw [consume, hr]
      simp only
      split
      · simpa using hgap₁
      · simp only [List.mem_cons, forall_eq_or_imp]
        exact ⟨hgap₁, ih hrest hgap₁ hjoins₁ hlast⟩
    | error e =>
      rw [failsLast, hr] at hlast
      obtain rfl : rest = [] := List.isEmpty_iff.mp hlast
      have hnone : consume ix chain ending [(k, first, second)] db = [] := by
        rw [consume, hr]
        cases e <;> rfl
      rw [hnone]
      simp

/-- A process starts where nothing is skipped, and a block that fails is the last it handles. -/
structure Orderly (ix : Indexing σ) (chain : Chain) (s : Int) (p : IndexerProcess)
    (db : EtlTables σ) : Prop where
  joins : Joins s (startHeight ix p db) db
  failsLast : failsLast ix chain (p.handles (startHeight ix p db)) db = true

/-- Each process of a run is orderly from the state it finds. -/
def OrderlyRun (ix : Indexing σ) (chain : Chain) (s : Int) : List IndexerProcess → EtlTables σ → Prop
  | [], _ => True
  | p :: ps, db => Orderly ix chain s p db ∧
      OrderlyRun ix chain s ps ((indexBlocks ix chain p db).getLastD db)

theorem consecutive_handles (p : IndexerProcess) (start : Int) :
    Consecutive start ((p.handles start).map (·.1)) :=
  consecutive_zip (consecutive_sends ⟨_, start⟩ p.answers) p.faults

/-- In a run whose processes are orderly, no committed state has a gap. -/
theorem gapless_history {s : Int} {ps : List IndexerProcess} {db : EtlTables σ}
    (hgap : Gapless s db) (hrun : OrderlyRun ix chain s ps db) :
    ∀ db' ∈ history ix chain ps db, Gapless s db' := by
  induction ps generalizing db with
  | nil =>
    intro db' hdb'
    cases hdb'
  | cons p ps ih =>
    obtain ⟨horderly, hrest⟩ := hrun
    have hstates : ∀ db' ∈ indexBlocks ix chain p db, Gapless s db' := by
      unfold indexBlocks
      split
      · simp
      · exact gapless_consume (consecutive_handles p _) hgap horderly.joins horderly.failsLast
    have hlast : Gapless s ((indexBlocks ix chain p db).getLastD db) := by
      cases hcommits : indexBlocks ix chain p db with
      | nil => exact hgap
      | cons first rest =>
        apply hstates
        rw [hcommits, List.getLastD_cons]
        exact List.getLastD_mem_cons
    intro db' hdb'
    rcases List.mem_append.mp hdb' with hdb' | hdb'
    · exact hstates db' hdb'
    · exact ih hlast hrest db' hdb'

end Gapless

/-! ### A block that is passed over -/

def emptyChain : Chain where
  blockAt h := ⟨⟨"0xb", by decide⟩, ⟨"0xp", by decide⟩, h, 0, []⟩
  height_blockAt _ := rfl

def pollingProcess (faults : List (BlockFaults × BlockFaults)) : IndexerProcess where
  answers := List.replicate faults.length (.poll ⟨.unsupported, true⟩)
  faults := faults

def committedHeights (ps : List IndexerProcess) : List (List Int) :=
  (history playCountIndexing emptyChain ps emptyTables).map fun db =>
    db.etlBlocks.map (·.blockHeight)

def restartedRun : List IndexerProcess :=
  [pollingProcess [({}, {}), ({}, { commit := true })], pollingProcess [({}, {}), ({}, {})]]

def restartState : EtlTables AggregatePlays :=
  (indexBlocks playCountIndexing emptyChain (pollingProcess [({}, {}), ({}, { commit := true })])
    emptyTables).getLastD emptyTables

theorem orderly_restartedRun :
    OrderlyRun playCountIndexing emptyChain 1 restartedRun emptyTables := by
  have hcommitted : Committed restartState
      (startHeight playCountIndexing (pollingProcess [({}, {}), ({}, {})]) restartState - 1) := by
    decide +kernel
  exact ⟨⟨.inl (by decide +kernel), by decide +kernel⟩, ⟨.inr hcommitted, by decide +kernel⟩, trivial⟩

/-- It is the first block of the second. -/
theorem gapless_restartedRun :
    committedHeights restartedRun = [[1], [1, 2], [1, 2, 3]] ∧
      ∀ db ∈ history playCountIndexing emptyChain restartedRun emptyTables, Gapless 1 db := by
  refine ⟨by decide +kernel, gapless_history ?_ orderly_restartedRun⟩
  rintro h ⟨row, hrow, -⟩
  cases hrow

/-- A block that fails is passed over for good: the process goes on, and the next one starts after
the highest block. -/
theorem block_passed_over :
    committedHeights [pollingProcess [({}, {}), ({}, { commit := true }), ({}, {})],
        pollingProcess [({}, {})]] = [[1], [1, 3], [1, 3, 4]] := by
  decide +kernel

end OpenAudio.Etl
