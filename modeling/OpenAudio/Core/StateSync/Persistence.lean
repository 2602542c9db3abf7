import OpenAudio.Lib.Retry

/-!
# Tables without a write-ahead log

A restore loads its data into `UNLOGGED` tables and makes them `LOGGED` afterwards. Postgres refuses
to make a table `LOGGED` while it references an `UNLOGGED` one, and `UNLOGGED` while a `LOGGED` one
references it, so the tables that fail are tried again after the rest.
-/

namespace OpenAudio.Core

variable {ε : Type}

inductive TablePersistence
  | logged
  | unlogged
  deriving DecidableEq

/-- What decides whether a table can be converted: the foreign keys, each from a table to the one it
references, and the tables for which `ALTER` fails whatever the others are. -/
structure PgTables (ε : Type) where
  foreignKeys : List (String × String)
  broken : String → Option ε
  unmet : String → ε

/-- The other tables that must be converted before the table. -/
def PgTables.requires (pg : PgTables ε) (persistence : TablePersistence) (table : String) :
    List String :=
  match persistence with
  | .logged => (pg.foreignKeys.filter fun key => key.1 = table ∧ key.2 ≠ table).map (·.2)
  | .unlogged => (pg.foreignKeys.filter fun key => key.2 = table ∧ key.1 ≠ table).map (·.1)

/-- `ALTER TABLE … SET LOGGED` or `UNLOGGED`: why it fails, when these tables are converted. -/
def PgTables.alterTable (pg : PgTables ε) (persistence : TablePersistence)
    (converted : List String) (table : String) : Option ε :=
  match pg.broken table with
  | some e => some e
  | none =>
    if ∀ required ∈ pg.requires persistence table, required ∈ converted then none
    else some (pg.unmet table)

variable (pg : PgTables ε) (persistence : TablePersistence)

theorem alterTable_mono {converted converted' : List String} {table : String}
    (hsub : converted ⊆ converted') (h : pg.alterTable persistence converted table = none) :
    pg.alterTable persistence converted' table = none := by
  unfold PgTables.alterTable at h ⊢
  cases hbroken : pg.broken table with
  | some e =>
    rw [hbroken] at h
    cases h
  | none =>
    simp only [hbroken] at h ⊢
    by_cases hall : ∀ required ∈ pg.requires persistence table, required ∈ converted
    · exact if_pos fun required hr => hsub (hall required hr)
    · rw [if_neg hall] at h
      cases h

def PgTables.alters : Attempts String ε where
  refusal := pg.alterTable persistence
  mono := alterTable_mono pg persistence

/-- `setTablesPersistence`: the tables that have the persistence afterwards, and the failures. -/
def setTablesPersistence (tables converted : List String) : List String × Table String ε :=
  let s := (pg.alters persistence).retry tables { done := converted }
  (s.done, s.failures)

/-- Every `ALTER` succeeds when the tables are altered in this order. -/
def ConvertsInOrder (converted order : List String) : Prop :=
  (pg.alters persistence).Succeeds converted order

theorem alterTable_congr {converted converted' : List String}
    (h : ∀ table, table ∈ converted ↔ table ∈ converted') (table : String) :
    pg.alterTable persistence converted table = pg.alterTable persistence converted' table := by
  simp only [PgTables.alterTable, h]

/-- The order in which the tables are listed does not matter: what is converted is convertible in
some order, all that is convertible in any order is, and the rest has failed. -/
theorem setTablesPersistence_largest (tables converted : List String) :
    let (after, failures) := setTablesPersistence pg persistence tables converted
    (∃ order, ConvertsInOrder pg persistence converted order ∧
      (∀ table, table ∈ order ↔ table ∈ tables ∧ failures.lookup table = none) ∧
      ∀ table, table ∈ after ↔ table ∈ order ∨ table ∈ converted) ∧
    (∀ order ⊆ tables, ConvertsInOrder pg persistence converted order →
      ∀ table ∈ order, table ∈ after ∧ failures.lookup table = none) ∧
    (∀ table e, failures.lookup table = some e ↔
      table ∈ tables ∧ pg.alterTable persistence after table = some e) ∧
    ∀ tables' : List String, (∀ table, table ∈ tables' ↔ table ∈ tables) →
      (∀ table, table ∈ (setTablesPersistence pg persistence tables' converted).1 ↔
        table ∈ after) ∧
      ∀ table, (setTablesPersistence pg persistence tables' converted).2.lookup table =
        failures.lookup table := by
  obtain ⟨order, h⟩ := Attempts.settled_retry (p := pg.alters persistence) tables converted
  refine ⟨⟨order, h.succeeds, fun table => ?_, fun table => h.mem_done⟩,
    fun order' hsub horder table hmem => ?_, fun table e => ?_, fun tables' hsame => ?_⟩
  · exact ⟨fun hmem => ⟨h.order_subset hmem, (h.lookup_eq_none_iff (h.order_subset hmem)).mpr hmem⟩,
      fun hmem => (h.lookup_eq_none_iff hmem.1).mp hmem.2⟩
  · refine ⟨h.largest hsub horder hmem, ?_⟩
    -- an order in which the table was converted goes on being one in which it can be
    have hnone := horder.refusal_eq_none hmem
    refine (h.failures table).trans ((if_pos (hsub hmem)).trans ((pg.alters persistence).mono ?_ hnone))
    exact List.append_subset.mpr ⟨fun t ht => h.largest hsub horder (List.mem_reverse.mp ht),
      fun t ht => h.mem_done.mpr (.inr ht)⟩
  · refine Iff.trans (Eq.to_iff (congrArg (· = some e) (h.failures table))) ?_
    by_cases hmem : table ∈ tables
    · rw [if_pos hmem]
      exact (and_iff_right hmem).symm
    · rw [if_neg hmem]
      exact ⟨fun hnone => (by cases hnone), fun hmem' => absurd hmem'.1 hmem⟩
  · obtain ⟨order', h'⟩ := Attempts.settled_retry (p := pg.alters persistence) tables' converted
    have hdone (table : String) := Iff.intro
      (fun hmem => h'.done_subset h (fun t => (hsame t).mp) (a := table) hmem)
      (fun hmem => h.done_subset h' (fun t => (hsame t).mpr) hmem)
    refine ⟨hdone, fun table => (h'.failures table).trans (Eq.trans ?_ (h.failures table).symm)⟩
    simp only [hsame]
    exact if_congr Iff.rfl (alterTable_congr pg persistence hdone table) rfl

end OpenAudio.Core
