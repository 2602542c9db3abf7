import OpenAudio.Etl.Runs
import OpenAudio.Core.Pos.Resolution
import Mathlib.Data.List.Dedup

/-!
# The storage proofs of a height

Every prover of a challenge sends a verification, and each verification that is indexed counts the
proofs of the height again: who proved passes, and whoever more than half of the rows name and did
not prove gets a failed row. The failed rows are themselves rows of the height when the next
verification counts, and they name nobody.
-/

namespace OpenAudio.Etl

open OpenAudio.Core Prog

/-! ### The rows of a height -/

section Rows

variable {σ : Type}

/-- `GetStorageProofsForHeight` -/
def proofsAt (height : Int) (d : EtlTables σ) : List EtlStorageProofRow :=
  d.storageProofs.filter fun sp => sp.height == height

/-- How many times the rows name an address. -/
def namedBy (rows : List EtlStorageProofRow) (address : PgText) : Nat :=
  (rows.flatMap (·.proverAddresses)).count address

def failedAddresses (rows : List EtlStorageProofRow) : Set PgText :=
  { address | ∃ row ∈ rows, row.address = address ∧ row.status = .fail }

/-- The addresses that more than half of the rows name and that have no row. -/
def absentProvers (rows : List EtlStorageProofRow) : List PgText :=
  (rows.flatMap (·.proverAddresses)).dedup.filter fun address =>
    decide (rows.length / 2 < namedBy rows address) && rows.all fun row => row.address != address

/-- No address with a row that does not prove is named by more than half of the rows, and none
without a row by more than half of them and a row for each such address. -/
def FailsOnce (rows : List EtlStorageProofRow) : Prop :=
  (∀ row ∈ rows, row.address.val = "" ∨ row.proofSignature = none →
    namedBy rows row.address ≤ rows.length / 2) ∧
  ∀ address ∈ absentProvers rows,
    namedBy rows address ≤ (rows.length + (absentProvers rows).length) / 2

instance : DecidablePred FailsOnce := fun _ => inferInstanceAs (Decidable (_ ∧ _))

/-- `GetChallengeStatisticsForBlockRange` for one address: the challenges it received and those it
failed. -/
def challengeStatistics (rows : List EtlStorageProofRow) (first last : Int) (address : PgText) :
    Nat × Nat :=
  let challenges := rows.filter fun sp =>
    sp.address == address && decide (first ≤ sp.height ∧ sp.height ≤ last)
  (challenges.length, (challenges.filter fun sp => sp.status == .fail).length)

/-- The provers that a verification finds to have failed. -/
def missingProvers (rows : List EtlStorageProofRow) : List PgText :=
  (expectedProvers rows).filter fun address => !(passedProvers rows).contains address

/-- The rows of a height after a verification. -/
def verifiedRows (b : EtlBlock) (hash : PgText) (spv : StorageProofVerification)
    (rows : List EtlStorageProofRow) : List EtlStorageProofRow :=
  (rows.map fun row => (passedProvers rows).foldl (fun r a => r.pass spv.height spv.proof a) row) ++
    (missingProvers rows).map (failedStorageProof b hash spv.height)

variable {b : EtlBlock} {hash : PgText} {spv : StorageProofVerification}
  {rows : List EtlStorageProofRow}

/-- A row after the passes: its status may become a pass, and what is counted stays. -/
structure SameProof (row row' : EtlStorageProofRow) : Prop where
  height : row'.height = row.height
  address : row'.address = row.address
  provers : row'.proverAddresses = row.proverAddresses
  signature : row'.proofSignature = row.proofSignature

theorem foldl_pass (height : Int) (proof : Bytes) (passed : List PgText) (row : EtlStorageProofRow) :
    SameProof row (passed.foldl (fun r a => r.pass height proof a) row) ∧
      ((passed.foldl (fun r a => r.pass height proof a) row).status = .fail ↔
        row.status = .fail ∧ (row.height = height → row.address ∉ passed)) := by
  induction passed generalizing row with
  | nil => exact ⟨⟨rfl, rfl, rfl, rfl⟩, by simp⟩
  | cons a passed ih =>
    obtain ⟨hsame, hstatus⟩ := ih (row.pass height proof a)
    have hpass : SameProof row (row.pass height proof a) ∧
        ((row.pass height proof a).status = .fail ↔
          row.status = .fail ∧ ¬ (row.height = height ∧ row.address = a)) := by
      unfold EtlStorageProofRow.pass
      by_cases h : row.height = height ∧ row.address = a
      · rw [if_pos h]
        exact ⟨⟨rfl, rfl, rfl, rfl⟩, by simp [h]⟩
      · rw [if_neg h]
        exact ⟨⟨rfl, rfl, rfl, rfl⟩, by simp [h]⟩
    obtain ⟨hone, honeStatus⟩ := hpass
    refine ⟨⟨hsame.height.trans hone.height, hsame.address.trans hone.address,
      hsame.provers.trans hone.provers, hsame.signature.trans hone.signature⟩, ?_⟩
    rw [List.foldl_cons, hstatus, honeStatus, hone.height, hone.address, List.mem_cons]
    tauto

theorem foldl_pass_of_ne {height : Int} {proof : Bytes} {row : EtlStorageProofRow}
    (h : row.height ≠ height) (passed : List PgText) :
    passed.foldl (fun r a => r.pass height proof a) row = row := by
  induction passed with
  | nil => rfl
  | cons a passed ih =>
    rw [List.foldl_cons, EtlStorageProofRow.pass, if_neg fun heq => h heq.1, ih]

theorem mem_passedProvers {address : PgText} : address ∈ passedProvers rows ↔
    ∃ row ∈ rows, row.address = address ∧ row.address.val ≠ "" ∧ row.proofSignature ≠ none := by
  simp only [passedProvers, List.mem_map, List.mem_filter, Bool.and_eq_true, bne_iff_ne, ne_eq,
    Option.isSome_iff_ne_none]
  constructor
  · rintro ⟨row, ⟨hrow, hname, hsigned⟩, rfl⟩
    exact ⟨row, hrow, rfl, hname, hsigned⟩
  · rintro ⟨row, hrow, rfl, hname, hsigned⟩
    exact ⟨row, ⟨hrow, hname, hsigned⟩, rfl⟩

theorem mem_of_namedBy {address : PgText} {n : Nat} (h : n < namedBy rows address) :
    address ∈ rows.flatMap (·.proverAddresses) := List.count_pos_iff.mp (Nat.zero_lt_of_lt h)

theorem mem_missingProvers {address : PgText} : address ∈ missingProvers rows ↔
    rows.length / 2 < namedBy rows address ∧ address ∉ passedProvers rows := by
  simp only [missingProvers, expectedProvers, List.mem_filter, List.mem_dedup, decide_eq_true_eq,
    Bool.not_eq_true', List.contains_eq_mem, decide_eq_false_iff_not]
  exact ⟨fun h => ⟨h.1.2, h.2⟩, fun h => ⟨⟨mem_of_namedBy h.1, h.1⟩, h.2⟩⟩

theorem mem_absentProvers {address : PgText} : address ∈ absentProvers rows ↔
    rows.length / 2 < namedBy rows address ∧ ∀ row ∈ rows, row.address ≠ address := by
  simp only [absentProvers, List.mem_filter, List.mem_dedup, Bool.and_eq_true, decide_eq_true_eq,
    List.all_eq_true, bne_iff_ne]
  exact ⟨And.right, fun h => ⟨mem_of_namedBy h.1, h⟩⟩

theorem nodup_missingProvers : (missingProvers rows).Nodup :=
  ((List.nodup_dedup _).filter _).filter _

/-! ### One verification -/

theorem length_verifiedRows :
    (verifiedRows b hash spv rows).length = rows.length + (missingProvers rows).length := by
  simp [verifiedRows]

theorem map_address_verifiedRows :
    (verifiedRows b hash spv rows).map (·.address) =
      rows.map (·.address) ++ missingProvers rows := by
  rw [verifiedRows, List.map_append, List.map_map, List.map_map]
  congr 1
  · exact List.map_congr_left fun row _ => (foldl_pass _ _ _ row).1.address
  · exact List.map_id _

theorem namedBy_verifiedRows (address : PgText) :
    namedBy (verifiedRows b hash spv rows) address = namedBy rows address := by
  have hold : (rows.map fun row => (passedProvers rows).foldl
      (fun r a => r.pass spv.height spv.proof a) row).flatMap (·.proverAddresses) =
        rows.flatMap (·.proverAddresses) := by
    rw [List.flatMap_map]
    exact List.flatMap_congr fun row _ => (foldl_pass _ _ _ row).1.provers
  have hnew : ((missingProvers rows).map (failedStorageProof b hash spv.height)).flatMap
      (·.proverAddresses) = [] := by
    simp [failedStorageProof]
  rw [namedBy, verifiedRows, List.flatMap_append, hold, hnew, List.append_nil, namedBy]

/-- A row after a verification is one from before, or a failed one. -/
theorem mem_verifiedRows {row' : EtlStorageProofRow} : row' ∈ verifiedRows b hash spv rows ↔
    (∃ row ∈ rows, row' =
      (passedProvers rows).foldl (fun r a => r.pass spv.height spv.proof a) row) ∨
    ∃ address ∈ missingProvers rows, row' = failedStorageProof b hash spv.height address := by
  simp only [verifiedRows, List.mem_append, List.mem_map, eq_comm]

theorem mem_passedProvers_verifiedRows {address : PgText} :
    address ∈ passedProvers (verifiedRows b hash spv rows) ↔ address ∈ passedProvers rows := by
  rw [mem_passedProvers, mem_passedProvers]
  constructor
  · rintro ⟨row', hrow', haddress, hname, hsigned⟩
    rcases mem_verifiedRows.mp hrow' with ⟨row, hrow, rfl⟩ | ⟨a, -, rfl⟩
    · have hsame := (foldl_pass spv.height spv.proof (passedProvers rows) row).1
      rw [hsame.address] at haddress hname
      rw [hsame.signature] at hsigned
      exact ⟨row, hrow, haddress, hname, hsigned⟩
    · exact absurd rfl hsigned
  · rintro ⟨row, hrow, haddress, hname, hsigned⟩
    have hsame := (foldl_pass spv.height spv.proof (passedProvers rows) row).1
    refine ⟨_, mem_verifiedRows.mpr (.inl ⟨row, hrow, rfl⟩), ?_, ?_, ?_⟩
    · rw [hsame.address, haddress]
    · rwa [hsame.address]
    · rwa [hsame.signature]

theorem mem_failedAddresses_verifiedRows (hheight : ∀ row ∈ rows, row.height = spv.height)
    {address : PgText} : address ∈ failedAddresses (verifiedRows b hash spv rows) ↔
      address ∈ failedAddresses rows ∧ address ∉ passedProvers rows ∨
        address ∈ missingProvers rows := by
  constructor
  · rintro ⟨row', hrow', haddress, hfail⟩
    rcases mem_verifiedRows.mp hrow' with ⟨row, hrow, rfl⟩ | ⟨a, ha, rfl⟩
    · obtain ⟨hsame, hstatus⟩ := foldl_pass spv.height spv.proof (passedProvers rows) row
      rw [hsame.address] at haddress
      obtain ⟨hfail, hnot⟩ := hstatus.mp hfail
      exact .inl ⟨⟨row, hrow, haddress, hfail⟩, haddress ▸ hnot (hheight row hrow)⟩
    · exact .inr (haddress ▸ ha)
  · rintro (⟨⟨row, hrow, haddress, hfail⟩, hnot⟩ | hmissing)
    · obtain ⟨hsame, hstatus⟩ := foldl_pass spv.height spv.proof (passedProvers rows) row
      refine ⟨_, mem_verifiedRows.mpr (.inl ⟨row, hrow, rfl⟩), hsame.address.trans haddress, ?_⟩
      exact hstatus.mpr ⟨hfail, fun _ => haddress ▸ hnot⟩
    · exact ⟨_, mem_verifiedRows.mpr (.inr ⟨address, hmissing, rfl⟩), rfl, rfl⟩

/-- The rows have been counted: whoever is missing has failed, and nobody who failed passes. -/
structure Counted (rows : List EtlStorageProofRow) : Prop where
  missing : ∀ address ∈ missingProvers rows, address ∈ failedAddresses rows
  failed : ∀ address ∈ failedAddresses rows, address ∉ passedProvers rows

/-- The failed rows only raise the threshold, so a count after another finds nobody new. -/
theorem missing_of_missing_verifiedRows {address : PgText}
    (h : address ∈ missingProvers (verifiedRows b hash spv rows)) :
    address ∈ missingProvers rows := by
  rw [mem_missingProvers, mem_passedProvers_verifiedRows, namedBy_verifiedRows,
    length_verifiedRows] at h
  exact mem_missingProvers.mpr ⟨by omega, h.2⟩

theorem counted_verifiedRows (hheight : ∀ row ∈ rows, row.height = spv.height) :
    Counted (verifiedRows b hash spv rows) where
  missing address h :=
    (mem_failedAddresses_verifiedRows hheight).mpr (.inr (missing_of_missing_verifiedRows h))
  failed address h := by
    rw [mem_passedProvers_verifiedRows]
    rcases (mem_failedAddresses_verifiedRows hheight).mp h with ⟨-, hnot⟩ | hmissing
    · exact hnot
    · exact (mem_missingProvers.mp hmissing).2

theorem Counted.failedAddresses_verifiedRows (h : Counted rows)
    (hheight : ∀ row ∈ rows, row.height = spv.height) :
    failedAddresses (verifiedRows b hash spv rows) = failedAddresses rows := by
  ext address
  rw [mem_failedAddresses_verifiedRows hheight]
  constructor
  · rintro (⟨hfailed, -⟩ | hmissing)
    · exact hfailed
    · exact h.missing address hmissing
  · exact fun hfailed => .inl ⟨hfailed, h.failed address hfailed⟩

/-- Whoever is found missing has no row yet. -/
theorem FailsOnce.missingProvers_eq (h : FailsOnce rows) :
    missingProvers rows = absentProvers rows := by
  unfold missingProvers expectedProvers absentProvers
  rw [List.filter_filter]
  refine List.filter_congr fun address _ => Bool.eq_iff_iff.mpr ?_
  simp only [Bool.and_eq_true, Bool.not_eq_true', List.contains_eq_mem, decide_eq_false_iff_not,
    decide_eq_true_eq, List.all_eq_true, bne_iff_ne]
  constructor
  · rintro ⟨hpassed, hnamed⟩
    refine ⟨hnamed, fun row hrow haddress => ?_⟩
    by_cases hproves : row.address.val = "" ∨ row.proofSignature = none
    · have hhalf := h.1 row hrow hproves
      rw [haddress] at hhalf
      exact absurd hnamed (Nat.not_lt.mpr hhalf)
    · rw [not_or] at hproves
      exact hpassed (mem_passedProvers.mpr ⟨row, hrow, haddress, hproves⟩)
  · rintro ⟨hnamed, hnone⟩
    refine ⟨fun hpassed => ?_, hnamed⟩
    obtain ⟨row, hrow, haddress, -⟩ := mem_passedProvers.mp hpassed
    exact hnone row hrow haddress

theorem FailsOnce.verified (h : FailsOnce rows) (hnodup : (rows.map (·.address)).Nodup) :
    FailsOnce (verifiedRows b hash spv rows) ∧
      ((verifiedRows b hash spv rows).map (·.address)).Nodup := by
  have hmissing := h.missingProvers_eq
  refine ⟨⟨fun row' hrow' hproves => ?_, fun address haddress => ?_⟩, ?_⟩
  · rw [namedBy_verifiedRows, length_verifiedRows, hmissing]
    rcases mem_verifiedRows.mp hrow' with ⟨row, hrow, rfl⟩ | ⟨address, haddress, rfl⟩
    · have hsame := (foldl_pass spv.height spv.proof (passedProvers rows) row).1
      rw [hsame.address, hsame.signature] at hproves
      rw [hsame.address]
      have hhalf := h.1 row hrow hproves
      omega
    · exact h.2 address (hmissing ▸ haddress)
  · -- the addresses without a row had none before, and were given one
    rw [mem_absentProvers, namedBy_verifiedRows, length_verifiedRows] at haddress
    have hbefore : address ∈ missingProvers rows := by
      rw [hmissing, mem_absentProvers]
      refine ⟨by omega, fun row hrow heq => ?_⟩
      have hsame := (foldl_pass spv.height spv.proof (passedProvers rows) row).1
      exact haddress.2 _ (mem_verifiedRows.mpr (.inl ⟨row, hrow, rfl⟩)) (hsame.address.trans heq)
    exact absurd rfl (haddress.2 _ (mem_verifiedRows.mpr (.inr ⟨address, hbefore, rfl⟩)))
  · rw [map_address_verifiedRows, hmissing]
    refine List.nodup_append'.mpr ⟨hnodup, hmissing ▸ nodup_missingProvers, ?_⟩
    intro address hknown habsent
    obtain ⟨row, hrow, heq⟩ := List.mem_map.mp hknown
    exact (mem_absentProvers.mp habsent).2 row hrow heq

end Rows

/-! ### Blocks -/

section Blocks

variable {σ : Type} {ix : Indexing σ} {b : EtlBlock} {t : BlockTx} {height : Int}

/-- The transaction is no proof for the height. -/
def BlockTx.NoProofFor (height : Int) (t : BlockTx) : Prop :=
  ∀ sp, t.transaction.transaction = some (.storageProof sp) → sp.height ≠ height

/-- The transaction is a verification of the height, whose proof is not NULL. -/
def BlockTx.Verifies (height : Int) (t : BlockTx) : Prop :=
  ∃ spv, t.transaction.transaction = some (.storageProofVerification spv) ∧
    spv.height = height ∧ spv.proof ≠ []

theorem height_of_mem_proofsAt {d : EtlTables σ} {row : EtlStorageProofRow}
    (h : row ∈ proofsAt height d) : row.height = height := by
  simpa using (List.mem_filter.mp h).2

theorem apart_proofsAt : Apart (proofsAt height : EtlTables σ → _) := by
  intro d d' _ _ hproofs
  simp only [proofsAt, hproofs]

/-- A verification counts the rows of its height, and leaves those of the others. -/
theorem proofsAt_consensus {spv : StorageProofVerification} {d d' : EtlTables σ}
    (h : processStorageProofConsensus b t.hash spv d = .ok ((), d')) :
    proofsAt height d' =
      if spv.height = height then verifiedRows b t.hash spv (proofsAt height d)
      else proofsAt height d := by
  have hpassed (passed : List PgText) : ((fun sp => sp.height == height) ∘ fun row =>
      passed.foldl (fun r a => r.pass spv.height spv.proof a) row) =
        fun sp : EtlStorageProofRow => sp.height == height := by
    funext row
    rw [Function.comp_apply, (foldl_pass _ _ _ row).1.height]
  cases h
  simp only [proofsAt, List.filter_append, List.filter_map, hpassed]
  by_cases heq : spv.height = height
  · subst heq
    rw [if_pos rfl]
    congr 1
    refine (congrArg _ (List.filter_eq_self.mpr fun a _ => ?_))
    exact beq_self_eq_true _
  · have hother : (fun sp : EtlStorageProofRow => sp.height == height) ∘
        failedStorageProof b t.hash spv.height = fun _ => false := by
      funext address
      exact beq_eq_false_iff_ne.mpr heq
    rw [if_neg heq, hother, List.filter_false, List.map_nil, List.append_nil]
    refine (List.map_congr_left fun row hrow => ?_).trans (List.map_id _)
    have hrow : row.height = height := by simpa using (List.mem_filter.mp hrow).2
    exact foldl_pass_of_ne (fun h => heq (h.symm.trans hrow)) _

theorem leavesProofsAt (hproof : t.NoProofFor height) (hverifies : ∀ spv,
    t.transaction.transaction = some (.storageProofVerification spv) → spv.height ≠ height) :
    t.LeavesPart (proofsAt height : EtlTables σ → _) b where
  registers _ _ _ _ := by
    iterate 5 refine keepsPart_bind fun _ => ?_
    exact keepsPart_ok fun _ => rfl
  deregisters _ _ _ _ := keepsPart_bind fun _ => keepsPart_ok fun _ => rfl
  proves sp hsp := by
    refine keepsPart_bind fun _ => keepsPart_bind fun provers => ?_
    split
    · exact keepsPart_error _
    · refine keepsPart_bind fun _ => keepsPart_ok fun d => ?_
      simp [proofsAt, hproof sp hsp]
  verifies spv hspv := by
    intro d _ d' h
    rw [proofsAt_consensus h, if_neg (hverifies spv hspv)]

/-- What a transaction that is no proof for the height does to its rows. -/
theorem IndexesTx.proofsAt_cases (hproof : t.NoProofFor height) {d d' : EtlTables σ}
    (h : IndexesTx ix b t d d') :
    (¬ t.Verifies height ∧ proofsAt height d' = proofsAt height d) ∨
      ∃ spv, spv.height = height ∧
        proofsAt height d' = verifiedRows b t.hash spv (proofsAt height d) := by
  by_cases hverifies : t.Verifies height
  · obtain ⟨spv, hbody, hheight, hne⟩ := hverifies
    refine .inr ⟨spv, hheight, ?_⟩
    obtain ⟨d₁, hfirst, hsame⟩ : ∃ d₁, insertStorageProofVerification b t.hash spv d =
        .ok ((), d₁) ∧ proofsAt height d₁ = proofsAt height d := by
      rw [insertStorageProofVerification, bindBytes, if_neg hne]
      exact ⟨_, rfl, rfl⟩
    obtain ⟨d₂, hsecond⟩ : ∃ d₂, processStorageProofConsensus b t.hash spv d₁ = .ok ((), d₂) :=
      ⟨_, rfl⟩
    have hafter : proofsAt height d' = proofsAt height d₂ := by
      refine h.part_of_two apart_proofsAt (fun emBlock row hrow => ⟨{ row with
        txType := "storage_proof_verification" }, ?_, fun a ha => ?_⟩) hfirst hsecond
      · rw [processOneTx, hbody]
      · cases hrow.symm.trans ha
    rw [hafter, proofsAt_consensus hsecond, if_pos hheight, hsame]
  · refine .inl ⟨hverifies, ?_⟩
    by_cases hbody : ∃ spv, t.transaction.transaction = some (.storageProofVerification spv) ∧
        spv.height = height
    · obtain ⟨spv, hbody, hheight⟩ := hbody
      have hempty : spv.proof = [] := by
        by_contra hne
        exact hverifies ⟨spv, hbody, hheight, hne⟩
      refine h.part_of_rolledBack apart_proofsAt fun emBlock row => ?_
      have hq : insertStorageProofVerification b t.hash spv d =
          .error (.notNullViolation "proof") := by
        rw [insertStorageProofVerification, bindBytes, if_pos hempty]
        rfl
      rw [processOneTx, hbody]
      exact ⟨_, orRollback_bind_of_error hq⟩
    · exact h.keeps apart_proofsAt (leavesProofsAt hproof fun spv hspv heq =>
        hbody ⟨spv, hspv, heq⟩)

/-- What each verification of the height keeps, over any number of blocks without a proof for it. -/
theorem IndexedBlocks.proofs_invariant {P : List BlockTx → List EtlStorageProofRow → Prop}
    (hkept : ∀ before t rows, ¬ t.Verifies height → P before rows → P (before ++ [t]) rows)
    (hverified : ∀ before t b spv rows, (∀ row ∈ rows, row.height = spv.height) → P before rows →
      P (before ++ [t]) (verifiedRows b t.hash spv rows))
    {bs : List EtlBlock} {d d' : EtlTables σ} (h : IndexedBlocks ix d bs d')
    (hproofs : ∀ t ∈ bs.flatMap (·.transactions), t.NoProofFor height)
    (hP : P [] (proofsAt height d)) : P (bs.flatMap (·.transactions)) (proofsAt height d') := by
  have hrun : (∀ t ∈ bs.flatMap (·.transactions), t.NoProofFor height) →
      P (bs.flatMap (·.transactions)) (proofsAt height d') := by
    refine IndexedBlocks.invariant (P := fun before rows =>
      (∀ t ∈ before, t.NoProofFor height) → P before rows) apart_proofsAt (fun _ _ => rfl)
      (fun b before t d d' ih htx hbefore => ?_) h fun _ => hP
    have hrows := ih fun t ht => hbefore t (List.mem_append_left _ ht)
    rcases htx.proofsAt_cases (hbefore t (by simp)) with ⟨hnot, hsame⟩ | ⟨spv, hheight, hafter⟩
    · rw [hsame]
      exact hkept before t _ hnot hrows
    · rw [hafter]
      refine hverified before t b spv _ (fun row hrow => ?_) hrows
      rw [height_of_mem_proofsAt hrow, hheight]
  exact hrun hproofs

/-- The rows of a height that have been counted stay so, and nobody else fails. -/
theorem IndexedBlocks.failedAddresses_eq {bs : List EtlBlock} {d d' : EtlTables σ}
    (h : IndexedBlocks ix d bs d') (hproofs : ∀ t ∈ bs.flatMap (·.transactions), t.NoProofFor height)
    (hcounted : Counted (proofsAt height d)) :
    failedAddresses (proofsAt height d') = failedAddresses (proofsAt height d) := by
  have hrun : Counted (proofsAt height d') ∧
      failedAddresses (proofsAt height d') = failedAddresses (proofsAt height d) := by
    refine h.proofs_invariant (P := fun _ rows => Counted rows ∧
      failedAddresses rows = failedAddresses (proofsAt height d)) (fun _ _ _ _ hrows => hrows)
      (fun _ t b spv rows hheight hrows => ?_) hproofs ⟨hcounted, rfl⟩
    exact ⟨counted_verifiedRows hheight,
      (hrows.1.failedAddresses_verifiedRows hheight).trans hrows.2⟩
  exact hrun.2

/-- Once a verification of the height was indexed, its rows have been counted. -/
theorem IndexedBlocks.counted {bs : List EtlBlock} {d d' : EtlTables σ}
    (h : IndexedBlocks ix d bs d') (hproofs : ∀ t ∈ bs.flatMap (·.transactions), t.NoProofFor height)
    (hverifies : ∃ t ∈ bs.flatMap (·.transactions), t.Verifies height) :
    Counted (proofsAt height d') := by
  have hrun : (∃ t ∈ bs.flatMap (·.transactions), t.Verifies height) →
      Counted (proofsAt height d') := by
    refine h.proofs_invariant (P := fun before rows =>
      (∃ t ∈ before, t.Verifies height) → Counted rows) (fun before t rows hnot hrows hex => ?_)
      (fun _ t b spv rows hheight _ _ => counted_verifiedRows hheight) hproofs ?_
    · obtain ⟨u, hu, hverifies⟩ := hex
      rcases List.mem_append.mp hu with hbefore | hlast
      · exact hrows ⟨u, hbefore, hverifies⟩
      · exact absurd (List.mem_singleton.mp hlast ▸ hverifies) hnot
    · rintro ⟨t, ht, -⟩
      cases ht
  exact hrun hverifies

theorem challengeStatistics_le {rows : List EtlStorageProofRow}
    (h : (rows.map (·.address)).Nodup) (first last : Int) (address : PgText) :
    (challengeStatistics rows first last address).1 ≤ 1 ∧
      (challengeStatistics rows first last address).2 ≤ 1 := by
  have hone : (challengeStatistics rows first last address).1 ≤ 1 := by
    let challenges := rows.filter fun sp =>
      sp.address == address && decide (first ≤ sp.height ∧ sp.height ≤ last)
    have hsub : challenges.Sublist rows := List.filter_sublist
    have hall : ∀ a ∈ challenges.map (·.address), a = address := by
      intro a ha
      obtain ⟨row, hrow, rfl⟩ := List.mem_map.mp ha
      simp only [challenges, List.mem_filter, Bool.and_eq_true, beq_iff_eq] at hrow
      exact hrow.2.1
    have hnodup := h.sublist (hsub.map (·.address))
    rw [List.eq_replicate_of_mem hall, List.nodup_replicate, List.length_map] at hnodup
    exact hnodup
  exact ⟨hone, (List.length_filter_le _ _).trans hone⟩

/-- If the count finds nobody twice, it does so however often the height is verified: an address has
one row, who failed stays the same, and the height counts once for every validator. -/
theorem storage_proofs_fail_once {bs : List EtlBlock} {d d' : EtlTables σ}
    (h : IndexedBlocks ix d bs d') (hproofs : ∀ t ∈ bs.flatMap (·.transactions), t.NoProofFor height)
    (hdistinct : ((proofsAt height d).map (·.address)).Nodup)
    (hfails : FailsOnce (proofsAt height d)) :
    ((proofsAt height d').map (·.address)).Nodup ∧
    ((∃ t ∈ bs.flatMap (·.transactions), t.Verifies height) →
      ∀ (more : List EtlBlock) (d'' : EtlTables σ), IndexedBlocks ix d' more d'' →
        (∀ t ∈ more.flatMap (·.transactions), t.NoProofFor height) →
        failedAddresses (proofsAt height d'') = failedAddresses (proofsAt height d')) ∧
    ∀ first last address,
      (challengeStatistics (proofsAt height d') first last address).1 ≤ 1 ∧
      (challengeStatistics (proofsAt height d') first last address).2 ≤ 1 := by
  have hrun : FailsOnce (proofsAt height d') ∧ ((proofsAt height d').map (·.address)).Nodup := by
    refine h.proofs_invariant (P := fun _ rows => FailsOnce rows ∧
      (rows.map EtlStorageProofRow.address).Nodup) (fun _ _ _ _ hrows => hrows)
      (fun _ t b spv rows _ hrows => ?_) hproofs ⟨hfails, hdistinct⟩
    exact hrows.1.verified hrows.2
  refine ⟨hrun.2, fun hverifies more d'' hmore hmoreProofs => ?_, challengeStatistics_le hrun.2⟩
  exact hmore.failedAddresses_eq hmoreProofs (h.counted hproofs hverifies)

end Blocks

/-! ### A prover that did not answer -/

def proofTx (hash : PgText) (p : Server.RecordedProver) (provers : List PgText) : BlockTx :=
  ⟨hash, { transaction := some (.storageProof {
    height := 1, address := p.cometAddress.val, proverAddresses := provers.map (·.val),
    proofSignature := p.signatureBytes }) }⟩

def verificationBlock (height : Int) : EtlBlock :=
  recordedBlock height
    [⟨⟨"045FD2378A52C187864A1A84846BD6993876188A513646AE1F6BFD523780E1A4", by decide⟩,
      { transaction := some (.storageProofVerification Server.revealedProof) }⟩]

/-- Two provers say that a third was asked as well. -/
def unanimousTables : EtlTables AggregatePlays :=
  let provers := [Server.proverA.cometAddress, Server.proverB.cometAddress, Server.proverC.cometAddress]
  afterBlock playCountIndexing (recordedBlock 2
    [proofTx ⟨"C7E5DC808FDC206483B8766AB5F3808D948948B68FF1B3DD5760D07482956E3A", by decide⟩
      Server.proverA provers,
    proofTx ⟨"A653E8431F62EA684331CCA35FD6F437F785BF4A59C069CA431C4D97470555F5", by decide⟩
      Server.proverB provers]) {} {} emptyTables

def silentProver : PgText := ⟨"91384C411E5AF29648F17F922B402655B11ECAEC", by decide⟩

/-- Two provers of three say that a fourth was asked. -/
def dividedTables : EtlTables AggregatePlays :=
  afterBlock playCountIndexing (recordedBlock 2
    [proofTx ⟨"3537741BEA8814A4FB3E03B261FB56DA2381CAC6B39CB86A3C216099A2011CD3", by decide⟩
      Server.proverA [Server.proverA.cometAddress, silentProver],
    proofTx ⟨"B1E0293C2B044CAD302EE3C94B7FB61A35EBFFFB419A886A4FAD8AD25061EB88", by decide⟩
      Server.proverB [Server.proverB.cometAddress, silentProver],
    proofTx ⟨"EA287A61FBB610E4A3A4284665AB1342DCBDA90F28AA4C749A4F33F53BF6FFCF", by decide⟩
      Server.proverC [Server.proverC.cometAddress]]) {} {} emptyTables

def verifiedTwice (d : EtlTables AggregatePlays) : EtlTables AggregatePlays :=
  afterBlock playCountIndexing (verificationBlock 4) {} {}
    (afterBlock playCountIndexing (verificationBlock 3) {} {} d)

theorem storage_proofs_fail_once_divided :
    ((proofsAt 1 (verifiedTwice dividedTables)).map (·.address)).Nodup ∧
      (proofsAt 1 (verifiedTwice dividedTables)).map (·.status) = [.pass, .pass, .pass, .fail] := by
  have hindexed : IndexedBlocks playCountIndexing dividedTables
      [verificationBlock 3, verificationBlock 4] (verifiedTwice dividedTables) := by
    refine (IndexedBlocks.nil.after ?_).after ?_ <;> decide +kernel
  refine ⟨(storage_proofs_fail_once hindexed ?_ ?_ ?_).1, by decide +kernel⟩
  · intro t ht sp hsp
    simp only [verificationBlock, recordedBlock, List.flatMap_cons, List.flatMap_nil,
      List.append_nil, List.cons_append, List.nil_append, List.mem_cons, List.not_mem_nil,
      or_false] at ht
    rcases ht with rfl | rfl <;> cases hsp
  · decide +kernel
  · decide +kernel

/-- The one who did not answer fails in each verification. -/
theorem prover_fails_twice :
    IndexedBlocks playCountIndexing unanimousTables [verificationBlock 3, verificationBlock 4]
        (verifiedTwice unanimousTables) ∧
      ((proofsAt 1 unanimousTables).map (·.address)).Nodup ∧
      ¬ ((proofsAt 1 (verifiedTwice unanimousTables)).map (·.address)).Nodup ∧
      challengeStatistics (proofsAt 1 (verifiedTwice unanimousTables)) 1 1
        Server.proverC.cometAddress = (2, 2) := by
  refine ⟨?_, by decide +kernel, by decide +kernel, by decide +kernel⟩
  refine (IndexedBlocks.nil.after ?_).after ?_ <;> decide +kernel

end OpenAudio.Etl
