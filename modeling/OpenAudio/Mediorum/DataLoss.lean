import OpenAudio.Mediorum.Repair

/-!
# Declared losses

A CID that no host serves gets a row with the evidence: how many cycles failed, and since when. With
enough of it the CID is declared lost, and the repair skips it until a recheck is due. A cycle reads
the counts and the CIDs to skip when it begins, and comes to a CID at most once.
-/

namespace OpenAudio.Mediorum

/-- `repair_data_loss`, under its CID. Times are in nanoseconds. -/
structure LossRow where
  firstFailedAt : Int
  lastFailedAt : Int
  failedCycles : Nat
  lastAttemptExhaustive : Bool
  declaredAt : Option Int := none
  recheckAfter : Option Int := none
  recoveredAt : Option Int := none
deriving DecidableEq

def dataLossMinCycles : Nat := 5

/-- `7 * 24 * time.Hour` -/
def dataLossMinElapsed : Int := 7 * 24 * 3600 * 1000000000

def dataLossMinHealthyPeers : Int := 5

/-- `30 * 24 * time.Hour` -/
def dataLossRecheckAfter : Int := 30 * 24 * 3600 * 1000000000

/-- The upsert of `recordRepairFailure`. -/
def upsertFailure (exhaustive : Bool) (now : Int) : Option LossRow → LossRow
  | none => ⟨now, now, 1, exhaustive, none, none, none⟩
  | some r => { r with
      failedCycles := r.failedCycles + 1, lastFailedAt := now, lastAttemptExhaustive := exhaustive,
      recoveredAt := none }

def recordRepairFailure (healthyPeerCount : Int) (exhaustive : Bool) (now : Int)
    (row : Option LossRow) : Option LossRow :=
  if healthyPeerCount < dataLossMinHealthyPeers then row
  else
    let r := upsertFailure exhaustive now row
    if r.declaredAt.isSome then some { r with recheckAfter := some (now + dataLossRecheckAfter) }
    else if r.failedCycles < dataLossMinCycles ∨ now - r.firstFailedAt < dataLossMinElapsed then some r
    else if exhaustive = false then some r
    else some { r with
      declaredAt := some now, recheckAfter := some (now + dataLossRecheckAfter) }

def clearRepairFailure (now : Int) (row : Option LossRow) : Option LossRow :=
  row.map fun r =>
    if r.recoveredAt.isSome then r else { r with recoveredAt := some now, recheckAfter := none }

/-- The CID is among those of `loadRepairSkips`. -/
def skipsLoss (now : Int) (row : Option LossRow) : Bool :=
  row.any fun r => r.declaredAt.isSome && r.recoveredAt.isNone &&
    r.recheckAfter.all fun recheck => decide (now < recheck)

/-- The count in `loadFailingCIDs`, 0 for a CID that is not there. -/
def loadedFailures (row : Option LossRow) : Nat :=
  row.elim 0 fun r =>
    if r.recoveredAt.isNone && r.declaredAt.isNone then r.failedCycles else 0

inductive PullOutcome where
  | failed
  | pulled
  | notTried
deriving DecidableEq

/-- A repair cycle as far as it concerns the CID. Either of its queries may fail. -/
structure LossCycle where
  startedAt : Int
  visitedAt : Int
  healthyPeerCount : Int
  outcome : PullOutcome
  loadsFailing : Bool := true
  loadsSkips : Bool := true

/-- The row, and the failures that were recorded since the last pull that succeeded, the latest one
first, with whether all hosts had been asked. The latter are kept by the model only. -/
structure LossHistory where
  row : Option LossRow := none
  evidence : List (Int × Bool) := []

namespace LossHistory

/-- `tracker.failedCycles(cid) >= dataLossEscalateAfter` -/
def exhaustive (h : LossHistory) (c : LossCycle) : Bool :=
  c.loadsFailing && decide (dataLossEscalateAfter ≤ loadedFailures h.row)

def skips (h : LossHistory) (c : LossCycle) : Bool := c.loadsSkips && skipsLoss c.startedAt h.row

def step (h : LossHistory) (c : LossCycle) : LossHistory :=
  if h.skips c then h
  else match c.outcome with
    | .notTried => h
    | .pulled => ⟨clearRepairFailure c.visitedAt h.row, []⟩
    | .failed =>
      ⟨recordRepairFailure c.healthyPeerCount (h.exhaustive c) c.visitedAt h.row,
        if c.healthyPeerCount < dataLossMinHealthyPeers then h.evidence
        else (c.visitedAt, h.exhaustive c) :: h.evidence⟩

def run (cycles : List LossCycle) : LossHistory := cycles.foldl step {}

/-- The cycle declares the CID lost, or starts a period in which it is skipped. -/
def Declares (h : LossHistory) (c : LossCycle) : Prop :=
  ∃ r, (h.step c).row = some r ∧ (r.declaredAt ≠ h.row.bind LossRow.declaredAt ∨
    (r.recheckAfter.isSome = true ∧ r.recheckAfter ≠ h.row.bind LossRow.recheckAfter))

/-- Enough cycles have failed over enough time, and the last one asked all hosts. -/
def Enough (evidence : List (Int × Bool)) : Prop :=
  dataLossMinCycles ≤ evidence.length ∧ ∃ latest oldest, evidence.head? = some latest ∧
    evidence.getLast? = some oldest ∧ dataLossMinElapsed ≤ latest.1 - oldest.1 ∧ latest.2 = true

instance (evidence : List (Int × Bool)) : Decidable (Enough evidence) :=
  decidable_of_iff (dataLossMinCycles ≤ evidence.length ∧ ∃ latest ∈ evidence.head?,
      ∃ oldest ∈ evidence.getLast?, dataLossMinElapsed ≤ latest.1 - oldest.1 ∧ latest.2 = true)
    (by simp [Enough])

/-- A failure that is recorded finds no row, or one of a CID that has neither been declared lost nor
been pulled since its first failure. -/
def Undecided (h : LossHistory) (c : LossCycle) : Prop :=
  h.skips c = false → c.outcome = .failed → dataLossMinHealthyPeers ≤ c.healthyPeerCount →
    ∀ r ∈ h.row, r.declaredAt = none ∧ r.recoveredAt = none

/-- The row counts the failures since the last pull. -/
structure Counts (h : LossHistory) : Prop where
  empty : h.row = none → h.evidence = []
  cycles : ∀ r ∈ h.row, r.recoveredAt = none → r.failedCycles = h.evidence.length
  first : ∀ r ∈ h.row, r.recoveredAt = none →
    ∃ oldest, h.evidence.getLast? = some oldest ∧ oldest.1 = r.firstFailedAt

variable {h : LossHistory} {c : LossCycle}

theorem clearRepairFailure_recovered {now : Int} {row : Option LossRow} {r : LossRow}
    (hr : clearRepairFailure now row = some r) : r.recoveredAt.isSome = true := by
  obtain ⟨r₀, -, rfl⟩ := Option.map_eq_some_iff.mp hr
  split
  · assumption
  · rfl

/-- A failure on a row that is not decided yet, and what comes of it. -/
theorem record_of_undecided {healthy : Int} {row : Option LossRow} (exhaustive : Bool) (now : Int)
    (hhealthy : dataLossMinHealthyPeers ≤ healthy)
    (hundecided : ∀ r ∈ row, r.declaredAt = none ∧ r.recoveredAt = none) :
    ∃ r, recordRepairFailure healthy exhaustive now row = some r ∧
      r.failedCycles = (upsertFailure exhaustive now row).failedCycles ∧
      r.firstFailedAt = (upsertFailure exhaustive now row).firstFailedAt ∧ r.recoveredAt = none ∧
      ((r.declaredAt = none ∧ r.recheckAfter = row.bind LossRow.recheckAfter) ∨
        (dataLossMinCycles ≤ r.failedCycles ∧ dataLossMinElapsed ≤ now - r.firstFailedAt ∧
          exhaustive = true)) := by
  have hdeclared : (upsertFailure exhaustive now row).declaredAt = none ∧
      (upsertFailure exhaustive now row).recoveredAt = none ∧
      (upsertFailure exhaustive now row).recheckAfter = row.bind LossRow.recheckAfter := by
    cases row with
    | none => exact ⟨rfl, rfl, rfl⟩
    | some r => exact ⟨(hundecided r rfl).1, rfl, rfl⟩
  obtain ⟨hdeclared, hrecovered, hrecheck⟩ := hdeclared
  simp only [recordRepairFailure, not_lt.mpr hhealthy, if_false, hdeclared, Option.isSome_none,
    Bool.false_eq_true]
  split
  · exact ⟨_, rfl, rfl, rfl, hrecovered, .inl ⟨hdeclared, hrecheck⟩⟩
  · rename_i hstrong
    rw [not_or, not_lt, not_lt] at hstrong
    split
    · exact ⟨_, rfl, rfl, rfl, hrecovered, .inl ⟨hdeclared, hrecheck⟩⟩
    · rename_i hswept
      exact ⟨_, rfl, rfl, rfl, hrecovered, .inr ⟨hstrong.1, hstrong.2, by simpa using hswept⟩⟩

/-- The upserted row counts one failure more. -/
theorem Counts.upsert (hcounts : h.Counts) (hundecided : ∀ r ∈ h.row, r.declaredAt = none ∧
    r.recoveredAt = none) (exhaustive : Bool) (now : Int) :
    (upsertFailure exhaustive now h.row).failedCycles = h.evidence.length + 1 ∧
      ∃ oldest, ((now, exhaustive) :: h.evidence).getLast? = some oldest ∧
        oldest.1 = (upsertFailure exhaustive now h.row).firstFailedAt := by
  cases hrow : h.row with
  | none =>
    rw [hcounts.empty hrow]
    exact ⟨rfl, _, rfl, rfl⟩
  | some r =>
    have hrecovered := (hundecided r hrow).2
    obtain ⟨oldest, hlast, hfirst⟩ := hcounts.first r hrow hrecovered
    refine ⟨congrArg (· + 1) (hcounts.cycles r hrow hrecovered), oldest, ?_, hfirst⟩
    rw [List.getLast?_cons, hlast]
    rfl

/-- What one cycle preserves, and what it takes to declare a loss. -/
theorem Counts.step (hcounts : h.Counts) (hc : h.Undecided c) :
    (h.step c).Counts ∧ (h.Declares c → Enough (h.step c).evidence) := by
  have hidle : h.step c = h → (h.step c).Counts ∧ (h.Declares c → Enough (h.step c).evidence) := by
    intro heq
    rw [Declares, heq]
    refine ⟨hcounts, ?_⟩
    rintro ⟨r, hr, hnew⟩
    simp [hr] at hnew
  cases hskips : h.skips c with
  | true => exact hidle (by simp [LossHistory.step, hskips])
  | false =>
    cases houtcome : c.outcome with
    | notTried => exact hidle (by simp [LossHistory.step, hskips, houtcome])
    | pulled =>
      have hstep : h.step c = ⟨clearRepairFailure c.visitedAt h.row, []⟩ := by
        simp [LossHistory.step, hskips, houtcome]
      rw [Declares, hstep]
      refine ⟨⟨fun _ => rfl, fun r hr hnone => ?_, fun r hr hnone => ?_⟩, ?_⟩
      · have hrecovered := clearRepairFailure_recovered hr
        simp [hnone] at hrecovered
      · have hrecovered := clearRepairFailure_recovered hr
        simp [hnone] at hrecovered
      · rintro ⟨r, hr, hnew⟩
        obtain ⟨r₀, hrow, rfl⟩ := Option.map_eq_some_iff.mp hr
        rw [hrow] at hnew
        split at hnew <;> simp at hnew
    | failed =>
      by_cases hhealthy : c.healthyPeerCount < dataLossMinHealthyPeers
      · exact hidle (by
          simp [LossHistory.step, hskips, houtcome, recordRepairFailure, hhealthy])
      · have hundecided := hc hskips houtcome (not_lt.mp hhealthy)
        obtain ⟨hcycles, oldest, hlast, hfirst⟩ :=
          hcounts.upsert hundecided (h.exhaustive c) c.visitedAt
        obtain ⟨r, hrecord, hcount, hsince, hrecovered, hdecides⟩ :=
          record_of_undecided (h.exhaustive c) c.visitedAt (not_lt.mp hhealthy) hundecided
        have hstep : h.step c = ⟨some r, (c.visitedAt, h.exhaustive c) :: h.evidence⟩ := by
          simp [LossHistory.step, hskips, houtcome, hrecord, hhealthy]
        rw [Declares, hstep]
        refine ⟨⟨nofun, ?_, ?_⟩, ?_⟩
        · rintro r' ⟨⟩ -
          exact hcount.trans hcycles
        · rintro r' ⟨⟩ -
          exact ⟨oldest, hlast, hfirst.trans hsince.symm⟩
        · rintro ⟨r', ⟨⟩, hnew⟩
          rcases hdecides with ⟨hdeclared, hrecheck⟩ | ⟨hmin, helapsed, hswept⟩
          · have hbefore : h.row.bind LossRow.declaredAt = none := by
              cases hrow : h.row with
              | none => rfl
              | some r₀ => exact (hundecided r₀ hrow).1
            simp [hdeclared, hbefore, hrecheck] at hnew
          · refine ⟨?_, _, oldest, rfl, hlast, ?_, hswept⟩
            · rwa [hcount, hcycles] at hmin
            · rwa [hfirst, ← hsince]

theorem counts_run {cycles : List LossCycle}
    (h : ∀ before c after, cycles = before ++ c :: after → (run before).Undecided c) :
    (run cycles).Counts := by
  induction cycles using List.reverseRecOn with
  | nil => exact ⟨fun _ => rfl, nofun, nofun⟩
  | append_singleton cycles c ih =>
    rw [run, List.foldl_append]
    refine (Counts.step (ih fun before c' after hcycles => ?_) (h cycles c [] rfl)).1
    exact h before c' (after ++ [c]) (by simp [hcycles])

/-- In every history in which no failure is recorded for a CID that was declared lost, or pulled,
after its first failure: a cycle declares it lost, or starts to skip it, only on enough evidence
since the last pull that succeeded. -/
theorem declares_only_enough {cycles : List LossCycle}
    (h : ∀ before c after, cycles = before ++ c :: after → (run before).Undecided c)
    {before after : List LossCycle} {c : LossCycle} (hcycles : cycles = before ++ c :: after)
    (hdeclares : (run before).Declares c) : Enough ((run before).step c).evidence := by
  refine (Counts.step (counts_run fun before' c' after' hbefore => ?_) (h before c after hcycles)).2
    hdeclares
  exact h before' c' (after' ++ c :: after) (by simp [hcycles, hbefore])

/-- A cycle on this day, at which the pull ends like this. -/
def onDay (day : Int) (outcome : PullOutcome) : LossCycle :=
  { startedAt := day * 86400000000000, visitedAt := day * 86400000000000, healthyPeerCount := 9, outcome }

def fiveFailures : List LossCycle := [0, 2, 4, 6, 8].map (onDay · .failed)

/-- The fifth failure declares the loss. -/
theorem fifthFailure_enough :
    (run (fiveFailures.take 4)).Declares (onDay 8 .failed) ∧ Enough (run fiveFailures).evidence := by
  have hdeclares : (run (fiveFailures.take 4)).Declares (onDay 8 .failed) :=
    ⟨_, rfl, .inl (by decide)⟩
  have hsplit : fiveFailures = fiveFailures.take 4 ++ onDay 8 .failed :: [] := rfl
  refine ⟨hdeclares, declares_only_enough (fun before c after hcycles => ?_) hsplit hdeclares⟩
  have hbefore : before = fiveFailures.take before.length := by simp [hcycles]
  have hc : fiveFailures[before.length]? = some c := by simp [hcycles]
  have hlength : before.length < 5 := by
    have hall : 5 = (before ++ c :: after).length := congrArg List.length hcycles
    rw [List.length_append, List.length_cons] at hall
    omega
  rw [hbefore]
  generalize before.length = n at hc hlength
  obtain _ | _ | _ | _ | _ | n := n
  · cases hc
    rintro - - - r ⟨⟩
  iterate 4
    · cases hc
      rintro - - - r ⟨⟩
      exact ⟨rfl, rfl⟩
  · omega

/-- The loss is declared, the recheck after a month succeeds, and one failure on the next day, after
a few hosts, starts to skip the CID for another month. -/
theorem recovered_loss_skipped :
    let h := run (fiveFailures ++ [onDay 39 .pulled])
    h.Declares (onDay 40 .failed) ∧ (h.step (onDay 40 .failed)).evidence.length = 1 ∧
      h.exhaustive (onDay 40 .failed) = false ∧
      (h.step (onDay 40 .failed)).skips (onDay 41 .failed) = true ∧
      ¬ Enough (h.step (onDay 40 .failed)).evidence := by
  refine ⟨⟨_, rfl, .inr ⟨rfl, by decide⟩⟩, ?_⟩
  decide

end LossHistory

end OpenAudio.Mediorum
