import Mathlib.Data.List.Forall2
import Mathlib.Order.RelClasses

/-!
# Programs over a store

A program reads and changes a store and either returns a value or fails. The store it leaves is
kept in both cases: what a failed program wrote before it failed stays written. The rules below
are the ones proofs about such programs use: invariants along a preorder, and pre- and
postconditions.
-/

namespace OpenAudio

/-! ### Results without a store -/

/-- Fail with `e` when `c` holds. -/
def refuseIf {ε : Type} (c : Prop) [Decidable c] (e : ε) : Except ε Unit :=
  if c then .error e else .ok ()

theorem except_bind_eq_ok {ε α β : Type} {x : Except ε α} {f : α → Except ε β} {b : β} :
    (x >>= f) = .ok b ↔ ∃ a, x = .ok a ∧ f a = .ok b := by
  cases x with
  | ok a =>
    constructor
    · intro h
      exact ⟨a, rfl, h⟩
    · rintro ⟨_, ⟨⟩, h⟩
      exact h
  | error e =>
    constructor
    · intro h
      cases h
    · rintro ⟨_, ⟨⟩, _⟩

theorem refuseIf_eq_ok {ε : Type} {c : Prop} [Decidable c] {e : ε} {u : Unit} :
    refuseIf c e = .ok u ↔ ¬ c := by
  unfold refuseIf
  by_cases hc : c
  · simp [hc]
  · simp [hc]

theorem refuseIf_bind_eq_ok {ε β : Type} {c : Prop} [Decidable c] {e : ε}
    {f : Unit → Except ε β} {b : β} :
    (refuseIf c e >>= f) = .ok b ↔ ¬ c ∧ f () = .ok b := by
  rw [except_bind_eq_ok]
  constructor
  · rintro ⟨u, hu, h⟩
    exact ⟨refuseIf_eq_ok.mp hu, h⟩
  · rintro ⟨hc, h⟩
    exact ⟨(), refuseIf_eq_ok.mpr hc, h⟩

theorem except_mapError_eq_ok {ε ε' α : Type} {f : ε → ε'} {r : Except ε α} {a : α} :
    r.mapError f = .ok a ↔ r = .ok a := by
  cases r with
  | ok b => simp [Except.mapError]
  | error e => simp [Except.mapError]

theorem except_toOption_eq_some {ε α : Type} {x : Except ε α} {a : α} :
    x.toOption = some a ↔ x = .ok a := by
  cases x <;> simp [Except.toOption]

theorem except_mapM_eq_ok {ε α β : Type} {f : α → Except ε β} {as : List α} {bs : List β} :
    as.mapM f = .ok bs ↔ List.Forall₂ (fun a b => f a = .ok b) as bs := by
  induction as generalizing bs with
  | nil => simp [pure, Except.pure, eq_comm]
  | cons a as ih =>
    rw [List.mapM_cons, except_bind_eq_ok, List.forall₂_cons_left_iff]
    constructor
    · rintro ⟨b, hb, h⟩
      obtain ⟨bs', hbs', h⟩ := except_bind_eq_ok.mp h
      cases h
      exact ⟨b, bs', hb, ih.mp hbs', rfl⟩
    · rintro ⟨b, bs', hb, hbs', rfl⟩
      exact ⟨b, hb, except_bind_eq_ok.mpr ⟨bs', ih.mpr hbs', rfl⟩⟩

/-- A computation over `σ` that returns an `α` or fails with an `ε`. -/
def Prog (σ ε α : Type) := σ → Except ε α × σ

namespace Prog

variable {σ τ ε ε' α β : Type}

/-- Run `f` on the value of `m`; a failure of `m` ends the program in the store `m` left. -/
protected def bind (m : Prog σ ε α) (f : α → Prog σ ε β) : Prog σ ε β := fun s =>
  match m s with
  | (.ok a, s') => f a s'
  | (.error e, s') => (.error e, s')

instance : Monad (Prog σ ε) where
  pure a := fun s => (.ok a, s)
  bind := Prog.bind

/-- Fail with `e`. -/
def fail (e : ε) : Prog σ ε α := fun s => (.error e, s)

/-- Fail with `e` when `c` holds. -/
def rejectIf (c : Prop) [Decidable c] (e : ε) : Prog σ ε Unit := if c then fail e else pure ()

/-- Return the value of a result computed outside the store. -/
def ofExcept (r : Except ε α) : Prog σ ε α := fun s => (r, s)

/-- Compute a result from the store without changing it. -/
def reads (f : σ → Except ε α) : Prog σ ε α := fun s => (f s, s)

def modify (f : σ → σ) : Prog σ ε Unit := fun s => (.ok (), f s)

/-- Run `m` and hand its outcome, failure included, to the caller. -/
def attempt (m : Prog σ ε α) : Prog σ ε' (Except ε α) := fun s => (.ok (m s).1, (m s).2)

/-- Rename the errors of `m`. -/
def mapError (f : ε → ε') (m : Prog σ ε α) : Prog σ ε' α := fun s => ((m s).1.mapError f, (m s).2)

/-- Run `f` on the elements in order, stopping at the first failure. -/
def forEach : List α → (α → Prog σ ε Unit) → Prog σ ε Unit
  | [], _ => pure ()
  | a :: as, f => do
    f a
    forEach as f

theorem eq_mk_of_fst {p : Except ε α × σ} {r : Except ε α} (h : p.1 = r) : p = (r, p.2) := by
  rw [← h]

theorem pure_apply (a : α) (s : σ) : (pure a : Prog σ ε α) s = (.ok a, s) := rfl

theorem bind_apply (m : Prog σ ε α) (f : α → Prog σ ε β) (s : σ) :
    (m >>= f) s = match m s with
      | (.ok a, s') => f a s'
      | (.error e, s') => (.error e, s') := rfl

theorem bind_of_ok {m : Prog σ ε α} {f : α → Prog σ ε β} {s s' : σ} {a : α}
    (h : m s = (.ok a, s')) : (m >>= f) s = f a s' := by
  rw [bind_apply, h]

theorem bind_of_error {m : Prog σ ε α} {f : α → Prog σ ε β} {s s' : σ} {e : ε}
    (h : m s = (.error e, s')) : (m >>= f) s = (.error e, s') := by
  rw [bind_apply, h]

theorem ofExcept_ok_bind (a : α) (f : α → Prog σ ε β) :
    ((ofExcept (.ok a) : Prog σ ε α) >>= f) = f a := rfl

theorem modify_bind_apply (f : σ → σ) (g : Unit → Prog σ ε β) (s : σ) :
    (modify f >>= g) s = g () (f s) := rfl

theorem bind_eq_ok {m : Prog σ ε α} {f : α → Prog σ ε β} {s s' : σ} {b : β}
    (h : (m >>= f) s = (.ok b, s')) : ∃ a s₁, m s = (.ok a, s₁) ∧ f a s₁ = (.ok b, s') := by
  rw [bind_apply] at h
  match hm : m s with
  | (.ok a, s₁) => exact ⟨a, s₁, rfl, by simpa [hm] using h⟩
  | (.error e, s₁) => simp [hm] at h

theorem mapError_eq_ok {f : ε → ε'} {m : Prog σ ε α} {s s' : σ} {a : α}
    (h : m.mapError f s = (.ok a, s')) : m s = (.ok a, s') := by
  rw [mapError, Prod.mk.injEq, except_mapError_eq_ok] at h
  exact Prod.ext h.1 h.2

theorem rejectIf_apply (c : Prop) [Decidable c] (e : ε) (s : σ) :
    (rejectIf c e : Prog σ ε Unit) s = (if c then .error e else .ok (), s) := by
  unfold rejectIf
  split <;> rfl

theorem rejectIf_eq_ok {c : Prop} [Decidable c] {e : ε} {s s' : σ} {u : Unit}
    (h : (rejectIf c e : Prog σ ε Unit) s = (.ok u, s')) : ¬ c ∧ s' = s := by
  rw [rejectIf_apply] at h
  by_cases hc : c
  · simp [hc] at h
  · simp only [hc, if_false, Prod.mk.injEq] at h
    exact ⟨hc, h.2.symm⟩

theorem rejectIf_bind_eq_ok {c : Prop} [Decidable c] {e : ε} {f : Unit → Prog σ ε β} {s s' : σ}
    {b : β} (h : (rejectIf c e >>= f) s = (.ok b, s')) : ¬ c ∧ f () s = (.ok b, s') := by
  obtain ⟨u, s₁, hr, hf⟩ := bind_eq_ok h
  obtain ⟨hc, rfl⟩ := rejectIf_eq_ok hr
  exact ⟨hc, hf⟩

theorem reads_bind_eq_ok {q : σ → Except ε α} {f : α → Prog σ ε β} {s s' : σ} {b : β}
    (h : (reads q >>= f) s = (.ok b, s')) : ∃ a, q s = .ok a ∧ f a s = (.ok b, s') := by
  obtain ⟨a, s₁, hq, hf⟩ := bind_eq_ok h
  rw [reads, Prod.mk.injEq] at hq
  obtain ⟨ha, rfl⟩ := hq
  exact ⟨a, ha, hf⟩

theorem ofExcept_bind_eq_ok {r : Except ε α} {f : α → Prog σ ε β} {s s' : σ} {b : β}
    (h : (ofExcept r >>= f) s = (.ok b, s')) : ∃ a, r = .ok a ∧ f a s = (.ok b, s') :=
  reads_bind_eq_ok (q := fun _ => r) h

/-! ### Invariants along a preorder -/

/-- `m` moves the store only along `R`, whether it returns or fails. -/
def Keeps (R : σ → σ → Prop) (m : Prog σ ε α) : Prop := ∀ s, R s (m s).2

/-- The relation "`f` reads the same". -/
def Same {τ : Type} (f : σ → τ) (s s' : σ) : Prop := f s' = f s

instance (f : σ → τ) : IsPreorder σ (Same f) where
  refl _ := rfl
  trans _ _ _ h₁ h₂ := h₂.trans h₁

section Keeps

variable {R : σ → σ → Prop} [IsPreorder σ R]

theorem keeps_pure (a : α) : Keeps R (pure a : Prog σ ε α) := fun s => refl s

theorem keeps_fail (e : ε) : Keeps R (fail e : Prog σ ε α) := fun s => refl s

theorem keeps_rejectIf (c : Prop) [Decidable c] (e : ε) :
    Keeps R (rejectIf c e : Prog σ ε Unit) := fun s => by
  rw [rejectIf_apply]
  exact refl s

theorem keeps_ofExcept (r : Except ε α) : Keeps R (ofExcept r : Prog σ ε α) := fun s => refl s

theorem keeps_reads (f : σ → Except ε α) : Keeps R (reads f) := fun s => refl s

theorem Keeps.bind_at {m : Prog σ ε α} {f : α → Prog σ ε β} {s : σ} (hm : R s (m s).2)
    (hf : ∀ a, Keeps R (f a)) : R s ((m >>= f) s).2 := by
  rw [bind_apply]
  match hr : m s with
  | (.ok a, s₁) => rw [hr] at hm; exact IsTrans.trans _ _ _ hm (hf a s₁)
  | (.error e, s₁) => rw [hr] at hm; exact hm

theorem Keeps.bind {m : Prog σ ε α} {f : α → Prog σ ε β} (hm : Keeps R m)
    (hf : ∀ a, Keeps R (f a)) : Keeps R (m >>= f) := fun s => Keeps.bind_at (hm s) hf

omit [IsPreorder σ R] in
theorem Keeps.ite {c : Prop} [Decidable c] {m n : Prog σ ε α} (hm : Keeps R m) (hn : Keeps R n) :
    Keeps R (if c then m else n) := by
  split
  · exact hm
  · exact hn

omit [IsPreorder σ R] in
theorem Keeps.attempt {m : Prog σ ε α} (hm : Keeps R m) :
    Keeps R (attempt m : Prog σ ε' (Except ε α)) := hm

omit [IsPreorder σ R] in
theorem Keeps.mapError {m : Prog σ ε α} (f : ε → ε') (hm : Keeps R m) : Keeps R (mapError f m) := hm

theorem Keeps.forEach_mem {as : List α} {f : α → Prog σ ε Unit} (hf : ∀ a ∈ as, Keeps R (f a)) :
    Keeps R (forEach as f) := by
  induction as with
  | nil => exact keeps_pure ()
  | cons a as ih =>
    refine (hf a List.mem_cons_self).bind fun _ => ?_
    exact ih fun b hb => hf b (List.mem_cons_of_mem a hb)

theorem Keeps.forEach {as : List α} {f : α → Prog σ ε Unit} (hf : ∀ a, Keeps R (f a)) :
    Keeps R (forEach as f) := Keeps.forEach_mem fun a _ => hf a

end Keeps

theorem forEach_eq_ok {as : List α} {f : α → Prog σ ε Unit} {P : α → σ → Prop}
    (hround : ∀ a s s', f a s = (.ok (), s') → P a s')
    (hkept : ∀ a b s s', f b s = (.ok (), s') → P a s → P a s') {s s' : σ}
    (h : forEach as f s = (.ok (), s')) : ∀ a ∈ as, P a s' := by
  have hrest : ∀ (bs : List α) (a : α) (s : σ), P a s → forEach bs f s = (.ok (), s') →
      P a s' := by
    intro bs
    induction bs with
    | nil =>
      intro a s ha hnil
      cases hnil
      exact ha
    | cons b bs ih =>
      intro a s ha hcons
      obtain ⟨_, s₁, hb, hbs⟩ := bind_eq_ok hcons
      exact ih a s₁ (hkept a b s s₁ hb ha) hbs
  induction as generalizing s with
  | nil => simp
  | cons b bs ih =>
    obtain ⟨_, s₁, hb, hbs⟩ := bind_eq_ok h
    intro a ha
    rcases List.mem_cons.mp ha with rfl | ha
    · exact hrest bs a s₁ (hround a s s₁ hb) hbs
    · exact ih hbs a ha

/-! ### Programs that always return -/

/-- `m` returns from every store. -/
def Total (m : Prog σ ε α) : Prop := ∀ s, ∃ a, (m s).1 = .ok a

section Total

theorem total_pure (a : α) : Total (pure a : Prog σ ε α) := fun _ => ⟨a, rfl⟩

theorem total_attempt (m : Prog σ ε α) : Total (attempt m : Prog σ ε' (Except ε α)) :=
  fun s => ⟨(m s).1, rfl⟩

theorem Total.eq_ok {m : Prog σ ε α} (hm : Total m) (s : σ) : ∃ a s', m s = (.ok a, s') := by
  obtain ⟨a, ha⟩ := hm s
  exact ⟨a, (m s).2, Prod.ext ha rfl⟩

theorem Total.bind {m : Prog σ ε α} {f : α → Prog σ ε β} (hm : Total m) (hf : ∀ a, Total (f a)) :
    Total (m >>= f) := by
  intro s
  obtain ⟨a, s₁, hstep⟩ := hm.eq_ok s
  rw [bind_of_ok hstep]
  exact hf a s₁

theorem Total.ite {c : Prop} [Decidable c] {m n : Prog σ ε α} (hm : Total m) (hn : Total n) :
    Total (if c then m else n) := by
  split
  · exact hm
  · exact hn

end Total

/-! ### Errors of a kind -/

/-- Run from `s`, an error of the kind `P` leaves the store as it was. -/
def CleanAt (P : ε → Prop) (m : Prog σ ε α) (s : σ) : Prop :=
  ∀ e, (m s).1 = .error e → P e → (m s).2 = s

/-- An error of the kind `P` leaves the store as it was. -/
def Clean (P : ε → Prop) (m : Prog σ ε α) : Prop := ∀ s, CleanAt P m s

/-- No error is of the kind `P`. -/
def Never (P : ε → Prop) (m : Prog σ ε α) : Prop := ∀ s e, (m s).1 = .error e → ¬ P e

/-- The store changes only under an error that is not of the kind `P`. -/
def Quiet (P : ε → Prop) (m : Prog σ ε α) : Prop :=
  ∀ s, (m s).2 = s ∨ ∃ e, (m s).1 = .error e ∧ ¬ P e

section Never

variable {P : ε → Prop}

@[simp] theorem never_pure (a : α) : Never P (pure a : Prog σ ε α) := by
  intro s e h
  cases h

theorem never_reads {f : σ → Except ε α} (h : ∀ s e, f s = .error e → ¬ P e) :
    Never P (reads f) := h

@[simp] theorem Never.bind {m : Prog σ ε α} {f : α → Prog σ ε β} (hm : Never P m)
    (hf : ∀ a, Never P (f a)) : Never P (m >>= f) := by
  intro s e h
  match hs : m s with
  | (.ok a, s') =>
    rw [bind_of_ok hs] at h
    exact hf a s' e h
  | (.error e', s') =>
    rw [bind_of_error hs] at h
    cases h
    exact hm s e (congrArg Prod.fst hs)

@[simp] theorem Never.ite {c : Prop} [Decidable c] {m n : Prog σ ε α} (hm : Never P m)
    (hn : Never P n) : Never P (if c then m else n) := by
  split
  · exact hm
  · exact hn

@[simp] theorem Never.forEach {as : List α} {f : α → Prog σ ε Unit} (hf : ∀ a, Never P (f a)) :
    Never P (forEach as f) := by
  induction as with
  | nil => exact never_pure ()
  | cons a as ih => exact (hf a).bind fun _ => ih

theorem Never.clean {m : Prog σ ε α} (hm : Never P m) : Clean P m :=
  fun s e h hP => absurd hP (hm s e h)

theorem Clean.ite {c : Prop} [Decidable c] {m n : Prog σ ε α} (hm : Clean P m)
    (hn : Clean P n) : Clean P (if c then m else n) := by
  split
  · exact hm
  · exact hn

theorem Clean.bind {m : Prog σ ε α} {f : α → Prog σ ε β} (hm : Clean P m)
    (hf : ∀ a, Never P (f a)) : Clean P (m >>= f) := by
  intro s e h hP
  match hs : m s with
  | (.ok a, s') =>
    rw [bind_of_ok hs] at h
    exact absurd hP (hf a s' e h)
  | (.error e', s') =>
    rw [bind_of_error hs] at h ⊢
    cases h
    have hclean := hm s e (congrArg Prod.fst hs) hP
    rwa [hs] at hclean

theorem Clean.mapError {P : ε' → Prop} {g : ε → ε'} {m : Prog σ ε α}
    (hm : Clean (fun e => P (g e)) m) : Clean P (mapError g m) := by
  intro s e h hP
  match hs : (m s).1 with
  | .ok a =>
    rw [Prog.mapError, hs] at h
    cases h
  | .error e' =>
    rw [Prog.mapError, hs] at h
    cases h
    exact hm s e' hs hP

end Never

section Quiet

variable {P : ε → Prop}

theorem quiet_pure (a : α) : Quiet P (pure a : Prog σ ε α) := fun _ => .inl rfl

theorem quiet_fail (e : ε) : Quiet P (fail e : Prog σ ε α) := fun _ => .inl rfl

theorem quiet_rejectIf (c : Prop) [Decidable c] (e : ε) :
    Quiet P (rejectIf c e : Prog σ ε Unit) := fun s => by
  rw [rejectIf_apply]
  exact .inl rfl

theorem quiet_reads (f : σ → Except ε α) : Quiet P (reads f) := fun _ => .inl rfl

theorem Quiet.eq_of_ok {m : Prog σ ε α} (hm : Quiet P m) {s s' : σ} {a : α}
    (h : m s = (.ok a, s')) : s' = s := by
  rcases hm s with hsame | ⟨e, he, _⟩
  · rwa [h] at hsame
  · rw [h] at he
    cases he

theorem Quiet.eq_mk {m : Prog σ ε α} (hm : Quiet P m) {s : σ} {a : α} (h : (m s).1 = .ok a) :
    m s = (.ok a, s) :=
  Prod.ext h (hm.eq_of_ok (eq_mk_of_fst h))

theorem Quiet.bind_eq_ok {m : Prog σ ε α} {f : α → Prog σ ε β} (hm : Quiet P m) {s s' : σ} {b : β}
    (h : (m >>= f) s = (.ok b, s')) : ∃ a, m s = (.ok a, s) ∧ f a s = (.ok b, s') := by
  obtain ⟨a, s₁, ha, hf⟩ := Prog.bind_eq_ok h
  obtain rfl := hm.eq_of_ok ha
  exact ⟨a, ha, hf⟩

theorem Quiet.clean {m : Prog σ ε α} (hm : Quiet P m) : Clean P m := by
  intro s e h hP
  rcases hm s with hsame | ⟨e', he', hnot⟩
  · exact hsame
  · rw [h] at he'
    cases he'
    exact absurd hP hnot

theorem Quiet.bind_clean {m : Prog σ ε α} {f : α → Prog σ ε β} (hm : Quiet P m)
    (hf : ∀ a, Clean P (f a)) : Clean P (m >>= f) := by
  intro s
  match hs : m s with
  | (.ok a, s') =>
    obtain rfl := hm.eq_of_ok hs
    unfold CleanAt
    rw [bind_of_ok hs]
    exact hf a s'
  | (.error e, s') =>
    unfold CleanAt
    rw [bind_of_error hs]
    have hclean := hm.clean s
    unfold CleanAt at hclean
    rw [hs] at hclean
    intro e' he'
    cases he'
    exact hclean e rfl

theorem Quiet.bind {m : Prog σ ε α} {f : α → Prog σ ε β} (hm : Quiet P m)
    (hf : ∀ a, Quiet P (f a)) : Quiet P (m >>= f) := by
  intro s
  match hs : m s with
  | (.ok a, s') =>
    obtain rfl := hm.eq_of_ok hs
    rw [bind_of_ok hs]
    exact hf a s'
  | (.error e, s') =>
    rw [bind_of_error hs]
    have hquiet := hm s
    rw [hs] at hquiet
    refine hquiet.imp_right ?_
    rintro ⟨e', he', hnot⟩
    cases he'
    exact ⟨e, rfl, hnot⟩

theorem Quiet.ite {c : Prop} [Decidable c] {m n : Prog σ ε α} (hm : Quiet P m)
    (hn : Quiet P n) : Quiet P (if c then m else n) := by
  split
  · exact hm
  · exact hn

theorem Quiet.forEach {as : List α} {f : α → Prog σ ε Unit} (hf : ∀ a, Quiet P (f a)) :
    Quiet P (forEach as f) := by
  induction as with
  | nil => exact quiet_pure ()
  | cons a as ih => exact (hf a).bind fun _ => ih

theorem Quiet.mapError {P : ε' → Prop} {g : ε → ε'} {m : Prog σ ε α}
    (hm : Quiet (fun e => P (g e)) m) : Quiet P (mapError g m) := by
  intro s
  rcases hm s with hsame | ⟨e, he, hnot⟩
  · exact .inl hsame
  · refine .inr ⟨g e, ?_, hnot⟩
    rw [Prog.mapError, he]
    rfl

theorem Quiet.attempt_bind {m : Prog σ ε α} {f : Except ε α → Prog σ ε β} (hm : Quiet P m)
    (hf : ∀ r, Quiet P (f r)) (hfail : ∀ e, ¬ P e → f (.error e) = fail e) :
    Quiet P (attempt m >>= f) := by
  intro s
  have hrun : (attempt m >>= f) s = f (m s).1 (m s).2 := bind_of_ok rfl
  rw [hrun]
  rcases hm s with hsame | ⟨e, he, hnot⟩
  · have hnext := hf (m s).1 (m s).2
    rwa [hsame] at hnext ⊢
  · rw [he, hfail e hnot]
    exact .inr ⟨e, rfl, hnot⟩

end Quiet

/-! ### Pre- and postconditions -/

/-- Run from `s`, `m` returns in `Q` or fails in `E`. -/
def Wp (m : Prog σ ε α) (Q : α → σ → Prop) (E : ε → σ → Prop) (s : σ) : Prop :=
  match m s with
  | (.ok a, s') => Q a s'
  | (.error e, s') => E e s'

section Wp

variable {Q Q' : α → σ → Prop} {R : β → σ → Prop} {E E' : ε → σ → Prop} {s : σ}

@[simp] theorem wp_pure (a : α) : Wp (pure a) Q E s ↔ Q a s := Iff.rfl

@[simp] theorem wp_fail (e : ε) : Wp (fail e : Prog σ ε α) Q E s ↔ E e s := Iff.rfl

@[simp] theorem wp_reads_ok (f : σ → α) : Wp (reads fun s => .ok (f s)) Q E s ↔ Q (f s) s :=
  Iff.rfl

@[simp] theorem wp_modify {Q : Unit → σ → Prop} (f : σ → σ) :
    Wp (modify f) Q E s ↔ Q () (f s) := Iff.rfl

theorem wp_bind {m : Prog σ ε α} {f : α → Prog σ ε β} :
    Wp (m >>= f) R E s ↔ Wp m (fun a s' => Wp (f a) R E s') E s := by
  unfold Wp
  rw [bind_apply]
  match m s with
  | (.ok a, s') => rfl
  | (.error e, s') => rfl

theorem Wp.mono {m : Prog σ ε α} (h : Wp m Q E s) (hQ : ∀ a s', Q a s' → Q' a s')
    (hE : ∀ e s', E e s' → E' e s') : Wp m Q' E' s := by
  unfold Wp at h ⊢
  match hm : m s with
  | (.ok a, s') =>
    rw [hm] at h
    exact hQ a s' h
  | (.error e, s') =>
    rw [hm] at h
    exact hE e s' h

theorem Wp.bind {m : Prog σ ε α} {f : α → Prog σ ε β} (h : Wp m Q E s)
    (hf : ∀ a s', Q a s' → Wp (f a) R E s') : Wp (m >>= f) R E s :=
  wp_bind.mpr (h.mono hf fun _ _ he => he)

theorem Wp.ite {c : Prop} [Decidable c] {m n : Prog σ ε α} (hm : c → Wp m Q E s)
    (hn : ¬ c → Wp n Q E s) : Wp (if c then m else n) Q E s := by
  split
  · rename_i hc
    exact hm hc
  · rename_i hc
    exact hn hc

theorem wp_rejectIf {c : Prop} [Decidable c] {e : ε} {Q : Unit → σ → Prop} (hc : c → E e s)
    (hn : ¬ c → Q () s) : Wp (rejectIf c e) Q E s := Wp.ite hc hn

theorem wp_forEach {as : List α} {f : α → Prog σ ε Unit} (I : Nat → σ → Prop) (h : I 0 s)
    (hround : ∀ i a s, as[i]? = some a → I i s → Wp (f a) (fun _ => I (i + 1)) E s) :
    Wp (forEach as f) (fun _ => I as.length) E s := by
  induction as generalizing I s with
  | nil => exact h
  | cons a as ih =>
    refine (hround 0 a s rfl h).bind fun _ s' hs' => ?_
    exact ih (fun i => I (i + 1)) hs' fun i b s' hb => hround (i + 1) b s' hb

end Wp

/-! ### Attempts -/

section Tries

variable {σ ε α β : Type}

/-- The outcome of an attempt next to that of the careful way: it gave up with `e`, both fail alike,
or both end in the same store, where `Q` holds. -/
inductive Tried (Q : σ → Prop) (e : ε) : Except ε α × σ → Except ε α × σ → Prop
  | gaveUp (s₁ : σ) (r : Except ε α × σ) : Tried Q e (.error e, s₁) r
  | failed (e' : ε) (s₁ s₂ : σ) : Tried Q e (.error e', s₁) (.error e', s₂)
  | done (a : α) {s' : σ} (h : Q s') : Tried Q e (.ok a, s') (.ok a, s')

/-- From where `P` holds, `m` gives up with `e` or does what `m'` does. -/
def Tries (P Q : σ → Prop) (e : ε) (m m' : Prog σ ε α) : Prop := ∀ s, P s → Tried Q e (m s) (m' s)

variable {P Q R : σ → Prop} {e : ε}

theorem tries_self {m : Prog σ ε α} (h : ∀ s a s', m s = (.ok a, s') → Q s') :
    Tries P Q e m m := by
  intro s _
  match hs : m s with
  | (.ok a, s') => exact .done a (h s a s' hs)
  | (.error e', s') => exact .failed e' s' s'

theorem Tries.bind {m m' : Prog σ ε α} {f f' : α → Prog σ ε β} (hm : Tries P Q e m m')
    (hf : ∀ a, Tries Q R e (f a) (f' a)) : Tries P R e (m >>= f) (m' >>= f') := by
  intro s hs
  have htried := hm s hs
  rw [bind_apply, bind_apply]
  generalize m s = r, m' s = r' at htried
  cases htried with
  | gaveUp s₁ r => exact .gaveUp s₁ _
  | failed e' s₁ s₂ => exact .failed e' s₁ s₂
  | done a hq => exact hf a _ hq

theorem Tries.forEach {as : List α} {f f' : α → Prog σ ε Unit}
    (hf : ∀ a, Tries P P e (f a) (f' a)) : Tries P P e (forEach as f) (forEach as f') := by
  induction as with
  | nil => exact fun s hs => .done () hs
  | cons a as ih => exact (hf a).bind fun _ => ih

end Tries

end Prog

end OpenAudio
