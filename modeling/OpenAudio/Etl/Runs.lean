import OpenAudio.Etl.Reindex
import OpenAudio.Core.Server

/-!
# Blocks one after another

Each transaction of a block takes the tables a step further, in a savepoint of its own. What holds
of a part of the tables before a block, and is kept by each such step, holds when the block is
committed, and so after any number of blocks.
-/

namespace OpenAudio.Etl

open OpenAudio.Core Prog

section Runs

variable {σ β : Type} {ix : Indexing σ} {b : EtlBlock} {part : EtlTables σ → β}

/-- A transaction takes the tables from `d` to `d'`, and the block goes on. -/
def IndexesTx (ix : Indexing σ) (b : EtlBlock) (t : BlockTx) (d d' : EtlTables σ) : Prop :=
  ∃ emBlock index, indexTxNested ix b emBlock t index ⟨d, false⟩ = (.ok (), ⟨d', false⟩)

/-- Blocks that were indexed and committed, the last one last. -/
inductive IndexedBlocks (ix : Indexing σ) (d : EtlTables σ) : List EtlBlock → EtlTables σ → Prop
  | nil : IndexedBlocks ix d [] d
  | snoc {bs : List EtlBlock} {b : EtlBlock} {first second : BlockFaults} {d' d'' : EtlTables σ} :
      IndexedBlocks ix d bs d' → processBlock ix b first second d' = .ok d'' →
      IndexedBlocks ix d (bs ++ [b]) d''

theorem IndexesTx.keeps (hpart : Apart part) {t : BlockTx} (ht : t.LeavesPart part b)
    {d d' : EtlTables σ} (h : IndexesTx ix b t d d') : part d' = part d := by
  obtain ⟨emBlock, index, hrun⟩ := h
  have hkeeps := keeps_indexTxNested hpart ix b emBlock ht index ⟨d, false⟩
  rw [hrun] at hkeeps
  exact hkeeps

theorem orRollback_of_ok {row : InsertTx} {q : Stmt (EtlTables σ) Unit} {d d' : EtlTables σ}
    (h : q d = .ok ((), d')) : orRollback row q ⟨d, false⟩ = (.ok (), ⟨d', false⟩) := by
  rw [orRollback, mapError, Txn.exec_of_ok rfl h]
  rfl

/-- A transaction of two statements that can be executed, with an audit row that can be stored. -/
theorem IndexesTx.part_of_two (hpart : Apart part) {t : BlockTx} {d d₁ d₂ d' : EtlTables σ}
    {q₁ q₂ : Stmt (EtlTables σ) Unit} (h : IndexesTx ix b t d d')
    (hone : ∀ emBlock row, row.address = none → ∃ row',
      processOneTx ix b emBlock row t = (do
        orRollback row' q₁
        orRollback row' q₂
        return row') ∧ ∀ a, row'.address = some a → NulFree a)
    (h₁ : q₁ d = .ok ((), d₁)) (h₂ : q₂ d₁ = .ok ((), d₂)) : part d' = part d₂ := by
  obtain ⟨emBlock, index, hrun⟩ := h
  obtain ⟨row', htx, haddress⟩ := hone emBlock (initialRow b index t) rfl
  have hok : processOneTx ix b emBlock (initialRow b index t) t ⟨d, false⟩ =
      (.ok row', ⟨d₂, false⟩) := by
    rw [htx, bind_of_ok (orRollback_of_ok h₁), bind_of_ok (orRollback_of_ok h₂)]
    rfl
  obtain ⟨d₃, haudit⟩ := insertTransaction_of_nulFree haddress d₂
  have hexec : Txn.exec (insertTransaction row') ⟨d₂, false⟩ = (.ok (), ⟨d₃, false⟩) :=
    Txn.exec_of_ok rfl haudit
  simp only [indexTxNested, Bool.false_eq_true, if_false, hok, hexec] at hrun
  cases hrun
  exact keepsPart_insertTransaction hpart row' d₂ () _ haudit

/-- A transaction that is rolled back leaves everything but its audit row. -/
theorem IndexesTx.part_of_rolledBack (hpart : Apart part) {t : BlockTx} {d d' : EtlTables σ}
    (h : IndexesTx ix b t d d')
    (hone : ∀ emBlock row, ∃ row' txn,
      processOneTx ix b emBlock row t ⟨d, false⟩ = (.error (.rolledBack row'), txn)) :
    part d' = part d := by
  obtain ⟨emBlock, index, hrun⟩ := h
  obtain ⟨row', txn, hback⟩ := hone emBlock (initialRow b index t)
  have haudit := keeps_exec (keepsPart_insertTransaction hpart row') ⟨d, false⟩
  simp only [indexTxNested, Bool.false_eq_true, if_false, hback] at hrun
  rw [(Prod.mk.inj hrun).2] at haudit
  exact haudit

theorem live_of_forEach {emBlock : Int} {ts : List (BlockTx × Nat)} {txn txn' : Txn (EtlTables σ)}
    (h : indexTxs ix b emBlock ts txn = (.ok (), txn')) (hlive : txn'.aborted = false) :
    txn.aborted = false := by
  by_contra hdead
  rw [Bool.not_eq_false] at hdead
  cases ts with
  | nil =>
    cases h
    rw [hdead] at hlive
    cases hlive
  | cons t ts =>
    rw [indexTxs, forEach, bind_of_error (indexTxNested_aborted hdead)] at h
    cases h

/-- The transactions of a block, from any of them on. -/
theorem indexTxs_invariant {P : List BlockTx → β → Prop} {emBlock : Int}
    (hstep : ∀ before t d d', P before (part d) → IndexesTx ix b t d d' →
      P (before ++ [t]) (part d')) :
    ∀ (ts : List (BlockTx × Nat)) {before : List BlockTx} {txn txn' : Txn (EtlTables σ)},
      indexTxs ix b emBlock ts txn = (.ok (), txn') → txn'.aborted = false →
      P before (part txn.view) → P (before ++ ts.map (·.1)) (part txn'.view) := by
  intro ts
  induction ts with
  | nil =>
    intro before txn txn' h _ hP
    cases h
    rwa [List.map_nil, List.append_nil]
  | cons t ts ih =>
    intro before txn txn' h hlive hP
    obtain ⟨_, txn₁, hone, hrest⟩ := bind_eq_ok h
    have hlive₀ := live_of_forEach h hlive
    have hlive₁ := live_of_forEach hrest hlive
    obtain ⟨d, _⟩ := txn
    obtain ⟨d₁, _⟩ := txn₁
    cases hlive₀
    cases hlive₁
    rw [List.map_cons, List.append_cons]
    exact ih hrest hlive (hstep before t.1 d d₁ hP ⟨emBlock, t.2, hone⟩)

/-- A block that is committed was so by an attempt with savepoints, or would have been. -/
theorem processBlock_eq_ok {first second : BlockFaults} {db db' : EtlTables σ}
    (h : processBlock ix b first second db = .ok db') :
    ∃ f, processBlockAttempt ix b f true db = .ok db' := by
  unfold processBlock at h
  split at h
  · rcases processBlockAttempt_withoutSavepoints ix b first db with hgave | hsame
    · rw [hgave] at h
      exact ⟨second, h⟩
    · split at h
      · exact ⟨second, h⟩
      · exact ⟨first, hsame.symm.trans h⟩
  · exact ⟨second, h⟩

/-- What each transaction of a block keeps, from the tables before the block to those after. -/
theorem processBlock_invariant (hpart : Apart part) (hblocks : ∀ d row, part (d.addBlock row) = part d)
    {P : List BlockTx → β → Prop} {before : List BlockTx}
    (hstep : ∀ before t d d', P before (part d) → IndexesTx ix b t d d' →
      P (before ++ [t]) (part d'))
    {first second : BlockFaults} {db db' : EtlTables σ}
    (h : processBlock ix b first second db = .ok db') (hP : P before (part db)) :
    P (before ++ b.transactions) (part db') := by
  obtain ⟨f, hattempt⟩ := processBlock_eq_ok h
  obtain ⟨txn', hrun, hcommit⟩ := processBlockAttempt_eq_ok ix b hattempt
  obtain ⟨-, hrun⟩ := rejectIf_bind_eq_ok hrun
  obtain ⟨_, t₁, hinsert, hrun⟩ := bind_eq_ok hrun
  obtain ⟨-, d, hd, rfl⟩ := Txn.exec_eq_ok (mapError_eq_ok hinsert)
  cases hd
  obtain ⟨emBlock, t₂, hnumber, hrun⟩ := bind_eq_ok hrun
  obtain ⟨-, hrun⟩ := rejectIf_bind_eq_ok hrun
  obtain ⟨_, t₃, hindexed, hrun⟩ := bind_eq_ok hrun
  have hsame : part t₃.view = part db := by
    have hkeeps₂ := keeps_blockNumber hpart b f ⟨db.addBlock b.row, false⟩
    have hkeeps₃ := keeps_insertIndexed hpart ix b emBlock t₂
    rw [show blockNumber b f ⟨db.addBlock b.row, false⟩ = _ from hnumber] at hkeeps₂
    rw [hindexed] at hkeeps₃
    exact hkeeps₃.trans (hkeeps₂.trans (hblocks db b.row))
  have hfinal := indexTxs_invariant hstep b.transactions.zipIdx hrun
    ((Txn.commit_isSome_iff txn').mp (Option.isSome_of_eq_some hcommit)) (hsame ▸ hP)
  rw [List.zipIdx_map_fst] at hfinal
  exact Txn.view_of_commit hcommit ▸ hfinal

/-- What each transaction keeps, over any number of blocks. -/
theorem IndexedBlocks.invariant (hpart : Apart part)
    (hblocks : ∀ d row, part (d.addBlock row) = part d) {P : List BlockTx → β → Prop}
    (hstep : ∀ b before t d d', P before (part d) → IndexesTx ix b t d d' →
      P (before ++ [t]) (part d'))
    {bs : List EtlBlock} {d d' : EtlTables σ} (h : IndexedBlocks ix d bs d') (hP : P [] (part d)) :
    P (bs.flatMap (·.transactions)) (part d') := by
  induction h with
  | nil => exact hP
  | snoc _ hok ih =>
    rw [List.flatMap_append, List.flatMap_singleton]
    exact processBlock_invariant hpart hblocks (hstep _) hok ih

theorem IndexedBlocks.after {bs : List EtlBlock} {d d' : EtlTables σ} (h : IndexedBlocks ix d bs d')
    (hok : (processBlock ix b {} {} d').isOk = true) :
    IndexedBlocks ix d (bs ++ [b]) (afterBlock ix b {} {} d') := by
  unfold afterBlock
  cases hr : processBlock ix b {} {} d' with
  | error e =>
    rw [hr] at hok
    cases hok
  | ok d'' => exact h.snoc hr

end Runs

/-! ### Recorded blocks -/

/-- A block with the given transactions, as a node reports it; nothing checks its hash. -/
def recordedBlock (height : Int) (transactions : List BlockTx) : EtlBlock where
  hash := ⟨"6A0A56397AB11170E143F6E99A4384588EE8E171DB91B4E2F5B844775C3F8F09", by decide⟩
  proposer := Server.firstNode.cometAddress
  height
  timestamp := 1767225600
  transactions

end OpenAudio.Etl
