import OpenAudio.Lib.Program
import OpenAudio.Lib.GoText

/-!
# Postgres transactions

A transaction works on its own view of the database. A statement runs on the view as a whole or
fails and leaves it alone; after one failure the transaction is aborted, every later statement on
it fails, and so does its commit. A savepoint confines a failure: rolling back to it restores both
the view and the transaction. Text parameters are the one place where a value a program holds may
not be a value the database accepts, so stored text has its own type.
-/

namespace OpenAudio

/-- The failures of a statement, by SQLSTATE. -/
inductive PgError where
  | invalidText
  | unsupportedEscape
  | uniqueViolation (name : String)
  | notNullViolation (column : String)
  | foreignKeyViolation (name : String)
  | integerOutOfRange
  | inFailedTransaction
deriving DecidableEq, Repr

def PgError.message : PgError → String
  | .invalidText => "ERROR: invalid byte sequence for encoding \"UTF8\": 0x00 (SQLSTATE 22021)"
  | .unsupportedEscape => "ERROR: unsupported Unicode escape sequence (SQLSTATE 22P05)"
  | .uniqueViolation c =>
    "ERROR: duplicate key value violates unique constraint \"" ++ c ++ "\" (SQLSTATE 23505)"
  | .notNullViolation c =>
    "ERROR: null value in column \"" ++ c ++ "\" violates not-null constraint (SQLSTATE 23502)"
  | .foreignKeyViolation c =>
    "ERROR: insert or update violates foreign key constraint \"" ++ c ++ "\" (SQLSTATE 23503)"
  | .integerOutOfRange => "ERROR: integer out of range (SQLSTATE 22003)"
  | .inFailedTransaction =>
    "ERROR: current transaction is aborted, commands ignored until end of transaction block " ++
      "(SQLSTATE 25P02)"

/-- Text as a column holds it: never with U+0000. -/
structure PgText where
  val : String
  nulFree : NulFree val
deriving DecidableEq

namespace PgText

def ofString (s : String) : Except PgError PgText :=
  if h : NulFree s then .ok ⟨s, h⟩ else .error .invalidText

theorem ofString_val (t : PgText) : ofString t.val = .ok t := dif_pos t.nulFree

theorem ofString_of_nulFree {s : String} (h : NulFree s) : ofString s = .ok ⟨s, h⟩ := dif_pos h

theorem ofString_of_not_nulFree {s : String} (h : ¬ NulFree s) :
    ofString s = .error .invalidText := dif_neg h

theorem val_of_ofString {s : String} {t : PgText} (h : ofString s = .ok t) : t.val = s := by
  by_cases hs : NulFree s
  · rw [ofString_of_nulFree hs] at h
    cases h
    rfl
  · rw [ofString_of_not_nulFree hs] at h
    cases h

theorem val_injective : Function.Injective val := by
  rintro ⟨a, ha⟩ ⟨b, hb⟩ h
  cases h
  rfl

@[ext]
theorem ext {a b : PgText} (h : a.val = b.val) : a = b := val_injective h

end PgText

/-- The row a `:one` query returns out of the rows that match: any one of them. -/
structure RowChoice where
  pick : ∀ {ρ : Type}, List ρ → Option ρ
  mem_of_pick : ∀ {ρ : Type} {rows : List ρ} {r : ρ}, pick rows = some r → r ∈ rows
  pick_isSome : ∀ {ρ : Type} {rows : List ρ}, rows ≠ [] → (pick rows).isSome = true

namespace RowChoice

def first : RowChoice where
  pick := List.head?
  mem_of_pick := List.mem_of_mem_head?
  pick_isSome := by
    intro ρ rows h
    cases rows with
    | nil => exact absurd rfl h
    | cons r rows => rfl

end RowChoice

/-- A statement: it returns rows or a count and the database after it, or fails as a whole. -/
abbrev Stmt (δ α : Type) := δ → Except PgError (α × δ)

abbrev Query (δ α : Type) := δ → Except PgError α

def Query.stmt {δ α : Type} (q : Query δ α) : Stmt δ α := fun d => (q d).map fun a => (a, d)

/-- A transaction in progress over databases of type `δ`. -/
structure Txn (δ : Type) where
  view : δ
  aborted : Bool

namespace Txn

variable {δ ε α β : Type}

def begin (d : δ) : Txn δ := ⟨d, false⟩

def exec (q : Stmt δ α) : Prog (Txn δ) PgError α := fun t =>
  if t.aborted then (.error .inFailedTransaction, t)
  else match q t.view with
    | .ok (a, d) => (.ok a, { t with view := d })
    | .error e => (.error e, { t with aborted := true })

/-- `COMMIT`: the database after it, or nothing when the transaction was aborted. -/
def commit (t : Txn δ) : Option δ := if t.aborted then none else some t.view

/-- Run `body` between `SAVEPOINT` and, when it returns, `RELEASE SAVEPOINT`; when it fails, roll
back to the savepoint. Setting a savepoint and releasing it are statements themselves. -/
def savepoint (setError releaseError : PgError → ε) (body : Prog (Txn δ) ε α) :
    Prog (Txn δ) ε α := fun t =>
  if t.aborted then (.error (setError .inFailedTransaction), t)
  else match body t with
    | (.ok a, t') =>
      if t'.aborted then (.error (releaseError .inFailedTransaction), t') else (.ok a, t')
    | (.error e, _) => (.error e, t)

/-- From `t` on, the transaction only ever stays aborted once it is. -/
def Later (t t' : Txn δ) : Prop := t.aborted = true → t' = t

instance : IsPreorder (Txn δ) Later where
  refl _ _ := rfl
  trans _ _ _ h₁ h₂ ha := by
    have hb := h₁ ha
    rw [← hb] at ha
    exact (h₂ ha).trans hb

theorem Later.live {t t' : Txn δ} (h : Later t t') (hlive : t'.aborted = false) :
    t.aborted = false := by
  by_contra hdead
  rw [Bool.not_eq_false] at hdead
  rw [h hdead, hdead] at hlive
  cases hlive

theorem exec_of_aborted (q : Stmt δ α) {t : Txn δ} (h : t.aborted = true) :
    exec q t = (.error .inFailedTransaction, t) := if_pos h

theorem exec_of_ok {q : Stmt δ α} {t : Txn δ} {a : α} {d : δ} (h : t.aborted = false)
    (hq : q t.view = .ok (a, d)) : exec q t = (.ok a, ⟨d, false⟩) := by
  obtain ⟨v, b⟩ := t
  subst h
  simp only [exec, Bool.false_eq_true, if_false, hq]

theorem exec_of_error {q : Stmt δ α} {t : Txn δ} {e : PgError} (h : t.aborted = false)
    (hq : q t.view = .error e) : exec q t = (.error e, ⟨t.view, true⟩) := by
  obtain ⟨v, b⟩ := t
  subst h
  simp only [exec, Bool.false_eq_true, if_false, hq]

theorem exec_eq_ok {q : Stmt δ α} {t t' : Txn δ} {a : α} (h : exec q t = (.ok a, t')) :
    t.aborted = false ∧ ∃ d, q t.view = .ok (a, d) ∧ t' = ⟨d, false⟩ := by
  by_cases ha : t.aborted = true
  · rw [exec_of_aborted q ha] at h
    cases h
  · rw [Bool.not_eq_true] at ha
    cases hq : q t.view with
    | error e =>
      rw [exec_of_error ha hq] at h
      cases h
    | ok r =>
      rw [exec_of_ok ha hq] at h
      cases h
      exact ⟨ha, r.2, rfl, rfl⟩

theorem exec_later (q : Stmt δ α) : Prog.Keeps Later (exec q) := by
  intro t ha
  rw [exec_of_aborted q ha]

theorem exec_query_view (q : Query δ α) (t : Txn δ) : (exec q.stmt t).2.view = t.view := by
  unfold exec
  split
  · rfl
  · unfold Query.stmt
    cases q t.view with
    | ok a => rfl
    | error e => rfl

/-- `Q` holds between the views. -/
def OnView (Q : δ → δ → Prop) (t t' : Txn δ) : Prop := Q t.view t'.view

instance (Q : δ → δ → Prop) [IsPreorder δ Q] : IsPreorder (Txn δ) (OnView Q) where
  refl t := refl t.view
  trans _ _ _ h₁ h₂ := IsTrans.trans (r := Q) _ _ _ h₁ h₂

theorem exec_onView {Q : δ → δ → Prop} [IsPreorder δ Q] {q : Stmt δ α}
    (h : ∀ d a d', q d = .ok (a, d') → Q d d') : Prog.Keeps (OnView Q) (exec q) := by
  intro t
  unfold exec
  by_cases ha : t.aborted = true
  · rw [if_pos ha]
    exact refl t
  · rw [if_neg ha]
    cases hq : q t.view with
    | error e => exact refl t.view
    | ok r => exact h t.view r.1 r.2 hq

/-! ### Failures that abort -/

/-- Every failure of the program leaves the transaction aborted. -/
def Strict (m : Prog (Txn δ) ε α) : Prop := ∀ t e, (m t).1 = .error e → (m t).2.aborted = true

theorem Strict.eq_ok {m : Prog (Txn δ) ε α} (hm : Strict m) {t : Txn δ}
    (hlive : (m t).2.aborted = false) : ∃ a, m t = (.ok a, (m t).2) := by
  cases hr : (m t).1 with
  | ok a => exact ⟨a, Prod.ext hr rfl⟩
  | error e => rw [hm t e hr] at hlive; cases hlive

theorem strict_pure (a : α) : Strict (pure a : Prog (Txn δ) ε α) := fun _ _ h => by cases h

theorem strict_exec (q : Stmt δ α) : Strict (exec q) := by
  intro t e h
  unfold exec at h ⊢
  by_cases ha : t.aborted = true
  · rw [if_pos ha]
    exact ha
  · rw [if_neg ha] at h ⊢
    cases hq : q t.view with
    | ok r => simp [hq] at h
    | error e' => rfl

theorem Strict.mapError {ε' : Type} {m : Prog (Txn δ) ε α} (hm : Strict m) (f : ε → ε') :
    Strict (Prog.mapError f m) := by
  intro t e h
  cases hr : (m t).1 with
  | ok a => simp [Prog.mapError, hr, Except.mapError] at h
  | error e' => exact hm t e' hr

theorem Strict.bind {m : Prog (Txn δ) ε α} {f : α → Prog (Txn δ) ε β} (hm : Strict m)
    (hf : ∀ a, Strict (f a)) : Strict (m >>= f) := by
  intro t e h
  match hr : m t with
  | (.ok a, t') =>
    rw [Prog.bind_of_ok hr] at h ⊢
    exact hf a t' e h
  | (.error e', t') =>
    rw [Prog.bind_of_error hr]
    have habort := hm t e' (congrArg Prod.fst hr)
    rwa [hr] at habort

theorem Strict.ite {c : Prop} [Decidable c] {m n : Prog (Txn δ) ε α} (hm : Strict m)
    (hn : Strict n) : Strict (if c then m else n) := by
  split
  · exact hm
  · exact hn

theorem Strict.forEach {as : List β} {f : β → Prog (Txn δ) ε Unit} (hf : ∀ a, Strict (f a)) :
    Strict (Prog.forEach as f) := by
  induction as with
  | nil => exact strict_pure ()
  | cons a as ih => exact (hf a).bind fun _ => ih

/-! ### Failures that leave nothing behind -/

theorem view_of_commit {t : Txn δ} {d : δ} (h : t.commit = some d) : t.view = d := by
  unfold commit at h
  split at h
  · cases h
  · exact Option.some.inj h

theorem commit_isSome_iff (t : Txn δ) : t.commit.isSome = true ↔ t.aborted = false := by
  unfold commit
  cases t.aborted <;> simp

end Txn

end OpenAudio
