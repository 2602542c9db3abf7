import OpenAudio.Lib.Table

/-!
# Retrying until a pass gets nowhere

Items are tried one after another, and those that are refused once more after the rest, until a pass
over them does none. Why an item is refused may depend on what has been done; doing more never makes
an item refused. Then what is done in the end does not depend on the order of the items: it is all
that can be done in any order.
-/

namespace OpenAudio

variable {α ε : Type}

/-- Why an item is refused when these have been done. -/
structure Attempts (α ε : Type) where
  refusal : List α → α → Option ε
  mono {done done' : List α} {a : α} : done ⊆ done' → refusal done a = none → refusal done' a = none

namespace Attempts

/-- The items can be done in this order. -/
def Succeeds (p : Attempts α ε) : List α → List α → Prop
  | _, [] => True
  | done, a :: order => p.refusal done a = none ∧ p.Succeeds (a :: done) order

variable [DecidableEq α] (p : Attempts α ε)

/-- What a loop works on: what has been done, the last one first, the failures until now, and the
items to try again. -/
structure Progress (α ε : Type) where
  done : List α
  failures : Table α ε := ∅
  next : List α := []

def attempt (s : Progress α ε) (a : α) : Progress α ε :=
  match p.refusal s.done a with
  | some e => { s with failures := s.failures.insert a e, next := s.next ++ [a] }
  | none => { s with done := a :: s.done, failures := s.failures.erase a }

def pass (items : List α) (s : Progress α ε) : Progress α ε :=
  items.foldl p.attempt { s with next := [] }

variable {p} {s : Progress α ε} {items order done : List α} {a : α}

theorem attempt_of_some {e : ε} (h : p.refusal s.done a = some e) :
    p.attempt s a = { s with failures := s.failures.insert a e, next := s.next ++ [a] } := by
  rw [attempt, h]

theorem attempt_of_none (h : p.refusal s.done a = none) :
    p.attempt s a = { s with done := a :: s.done, failures := s.failures.erase a } := by
  rw [attempt, h]

theorem length_foldl_next (items : List α) (s : Progress α ε) :
    (items.foldl p.attempt s).next.length ≤ s.next.length + items.length := by
  induction items generalizing s with
  | nil => exact Nat.le_refl _
  | cons a items ih =>
    refine Nat.le_trans (ih _) ?_
    cases h : p.refusal s.done a with
    | none =>
      rw [attempt_of_none h]
      simp
    | some e =>
      rw [attempt_of_some h]
      simp
      omega

theorem length_pass_next (items : List α) (s : Progress α ε) :
    (p.pass items s).next.length ≤ items.length := by
  have h := length_foldl_next (p := p) items { s with next := [] }
  rwa [List.length_nil, Nat.zero_add] at h

variable (p) in
/-- Passes over what is left, until one does nothing. -/
def retry (items : List α) (s : Progress α ε) : Progress α ε :=
  if items = [] then s
  else
    let s' := p.pass items s
    if s'.next.length = items.length then s' else retry s'.next s'
termination_by items.length
decreasing_by
  exact Nat.lt_of_le_of_ne (length_pass_next items s) (by assumption)

omit [DecidableEq α] in
theorem Succeeds.append {order' : List α} (h : p.Succeeds done order)
    (h' : p.Succeeds (order.reverse ++ done) order') : p.Succeeds done (order ++ order') := by
  induction order generalizing done with
  | nil => exact h'
  | cons a order ih =>
    refine ⟨h.1, ih h.2 ?_⟩
    rwa [List.reverse_cons, List.append_assoc] at h'

omit [DecidableEq α] in
/-- What has been done is not refused later. -/
theorem Succeeds.refusal_eq_none (h : p.Succeeds done order) (ha : a ∈ order) :
    p.refusal (order.reverse ++ done) a = none := by
  induction order generalizing done with
  | nil => cases ha
  | cons b order ih =>
    rw [List.reverse_cons, List.append_assoc]
    rcases List.mem_cons.mp ha with rfl | ha
    · exact p.mono (fun c hc => List.mem_append_right _ (List.mem_cons_of_mem a hc)) h.1
    · exact ih h.2 ha

/-! ### What a pass leaves -/

/-- What holds between two attempts: the items that are not tried again have been done, in this
order. -/
structure Partial (p : Attempts α ε) (items done order left : List α) (s : Progress α ε) :
    Prop where
  order_subset : order ⊆ items
  succeeds : p.Succeeds done order
  done_eq : s.done = order.reverse ++ done
  rest : ∀ a ∈ items, a ∈ left ∨ a ∈ order
  left_subset : left ⊆ items

theorem Partial.attempt {left : List α} (h : p.Partial items done order (a :: left ++ s.next) s) :
    ∃ order', p.Partial items done order' (left ++ (p.attempt s a).next) (p.attempt s a) := by
  have ha : a ∈ items := h.left_subset List.mem_cons_self
  cases hr : p.refusal s.done a with
  | some e =>
    rw [attempt_of_some hr]
    refine ⟨order, h.order_subset, h.succeeds, h.done_eq, fun b hb => (h.rest b hb).imp_left fun hmem => ?_,
      fun b hb => h.left_subset ?_⟩
    · simp only [List.cons_append, List.mem_cons, List.mem_append] at hmem ⊢
      tauto
    · simp only [List.cons_append, List.mem_cons, List.mem_append, List.not_mem_nil] at hb ⊢
      tauto
  | none =>
    rw [attempt_of_none hr]
    refine ⟨order ++ [a], List.append_subset.mpr ⟨h.order_subset, by simpa using ha⟩,
      h.succeeds.append ⟨h.done_eq ▸ hr, trivial⟩, ?_, fun b hb => ?_, fun b hb => h.left_subset ?_⟩
    · rw [h.done_eq, List.reverse_append]
      rfl
    · have := h.rest b hb
      simp only [List.cons_append, List.mem_cons, List.mem_append, List.not_mem_nil] at this ⊢
      tauto
    · exact List.mem_cons_of_mem a hb

theorem Partial.foldl {left : List α} (h : p.Partial items done order (left ++ s.next) s) :
    ∃ order', p.Partial items done order' (left.foldl p.attempt s).next
      (left.foldl p.attempt s) := by
  induction left generalizing s order with
  | nil => exact ⟨order, h⟩
  | cons a left ih =>
    obtain ⟨order', h'⟩ := h.attempt
    exact ih h'

theorem Partial.pass {left : List α} (h : p.Partial items done order left s) :
    ∃ order', p.Partial items done order' (p.pass left s).next (p.pass left s) := by
  have hstart : p.Partial items done order (left ++ []) { s with next := [] } := by
    rw [List.append_nil]
    exact ⟨h.order_subset, h.succeeds, h.done_eq, h.rest, h.left_subset⟩
  exact hstart.foldl

/-- Only what is left has failed. -/
theorem isSome_foldl_failures {left : List α}
    (h : ∀ b, (s.failures.lookup b).isSome → b ∈ left ∨ b ∈ s.next) :
    ∀ b, ((left.foldl p.attempt s).failures.lookup b).isSome →
      b ∈ (left.foldl p.attempt s).next := by
  induction left generalizing s with
  | nil => exact fun b hb => (h b hb).resolve_left List.not_mem_nil
  | cons a left ih =>
    refine ih fun b hb => ?_
    cases hr : p.refusal s.done a with
    | some e =>
      rw [attempt_of_some hr] at hb ⊢
      by_cases hba : b = a
      · exact .inr (List.mem_append_right _ (hba ▸ List.mem_cons_self))
      · rw [Table.lookup_insert_eq, if_neg hba] at hb
        rcases h b hb with hmem | hmem
        · exact .inl ((List.mem_cons.mp hmem).resolve_left hba)
        · exact .inr (List.mem_append_left _ hmem)
    | none =>
      rw [attempt_of_none hr] at hb ⊢
      by_cases hba : b = a
      · rw [Table.lookup_erase_eq, if_pos hba] at hb
        cases hb
      · rw [Table.lookup_erase_eq, if_neg hba] at hb
        exact (h b hb).imp_left fun hmem => (List.mem_cons.mp hmem).resolve_left hba

/-- A pass that does nothing leaves the failure of every item. -/
theorem foldl_of_length {left : List α}
    (h : (left.foldl p.attempt s).next.length = s.next.length + left.length) :
    (left.foldl p.attempt s).done = s.done ∧
      (∀ a ∈ left, p.refusal s.done a ≠ none) ∧
      ∀ a, (left.foldl p.attempt s).failures.lookup a =
        if a ∈ left then p.refusal s.done a else s.failures.lookup a := by
  induction left generalizing s with
  | nil => exact ⟨rfl, fun a ha => (by cases ha), fun a => (if_neg List.not_mem_nil).symm⟩
  | cons a left ih =>
    have hlength := length_foldl_next (p := p) left (p.attempt s a)
    rw [List.foldl_cons] at h ⊢
    cases hr : p.refusal s.done a with
    | none =>
      rw [h, attempt_of_none hr, List.length_cons, ← Nat.add_assoc] at hlength
      exact absurd hlength (Nat.not_succ_le_self _)
    | some e =>
      rw [attempt_of_some hr] at h ⊢
      have hnext : s.next.length + (a :: left).length = (s.next ++ [a]).length + left.length := by
        rw [List.length_append, List.length_cons, List.length_singleton]
        omega
      obtain ⟨hdone, hall, hlookup⟩ := ih (h.trans hnext)
      refine ⟨hdone, List.forall_mem_cons.mpr ⟨by simp [hr], hall⟩, fun b => ?_⟩
      rw [hlookup b, Table.lookup_insert_eq]
      by_cases hba : b = a
      · subst hba
        rw [if_pos rfl, if_pos List.mem_cons_self, hr, ite_self]
      · simp only [List.mem_cons, hba, false_or, if_false]

/-! ### What the passes leave -/

/-- The items have been done in this order, and every other item has failed because it is refused
now. -/
structure Settled (p : Attempts α ε) (items done order : List α) (s : Progress α ε) : Prop where
  order_subset : order ⊆ items
  succeeds : p.Succeeds done order
  done_eq : s.done = order.reverse ++ done
  mem_order : ∀ a ∈ items, p.refusal s.done a = none → a ∈ order
  failures : ∀ a, s.failures.lookup a = if a ∈ items then p.refusal s.done a else none

theorem Partial.settled {left : List α} (h : p.Partial items done order left s)
    (hrefused : ∀ a ∈ left, p.refusal s.done a ≠ none)
    (hfailures : ∀ a, s.failures.lookup a = if a ∈ left then p.refusal s.done a else none) :
    p.Settled items done order s := by
  refine ⟨h.order_subset, h.succeeds, h.done_eq, fun a ha hr => ?_, fun a => ?_⟩
  · exact (h.rest a ha).resolve_left fun hleft => hrefused a hleft hr
  · rw [hfailures a]
    by_cases hleft : a ∈ left
    · rw [if_pos hleft, if_pos (h.left_subset hleft)]
    · rw [if_neg hleft]
      by_cases ha : a ∈ items
      · have hmem := (h.rest a ha).resolve_left hleft
        rw [if_pos ha, h.done_eq, h.succeeds.refusal_eq_none hmem]
      · rw [if_neg ha]

theorem Partial.retry {left : List α} (h : p.Partial items done order left s)
    (hfailed : ∀ a, (s.failures.lookup a).isSome → a ∈ left) :
    ∃ order', p.Settled items done order' (p.retry left s) := by
  have hnone (a : α) (ha : a ∉ left) : s.failures.lookup a = none :=
    Option.not_isSome_iff_eq_none.mp fun hsome => ha (hfailed a hsome)
  fun_induction Attempts.retry p left s generalizing order with
  | case1 s =>
    refine ⟨order, h.settled (fun a ha => (by cases ha)) fun a => ?_⟩
    rw [if_neg List.not_mem_nil, hnone a List.not_mem_nil]
  | case2 left s hne s' =>
    rename_i hlength
    obtain ⟨hdone, hall, hlookup⟩ := foldl_of_length (p := p) (s := { s with next := [] })
      (hlength.trans (Nat.zero_add _).symm)
    -- the last pass has changed the failures only
    change s'.done = s.done at hdone
    have hlast : p.Partial items done order left s' :=
      ⟨h.order_subset, h.succeeds, hdone.trans h.done_eq, h.rest, h.left_subset⟩
    refine ⟨order, hlast.settled (hdone ▸ hall) fun a => ?_⟩
    rw [hdone]
    refine (hlookup a).trans ?_
    by_cases hleft : a ∈ left
    · rw [if_pos hleft, if_pos hleft]
    · rw [if_neg hleft, if_neg hleft]
      exact hnone a hleft
  | case3 left s hne s' hlength =>
    rename_i ih
    obtain ⟨order', h'⟩ := h.pass
    have hfailed' := isSome_foldl_failures (p := p) (s := { s with next := [] })
      fun a ha => .inl (hfailed a ha)
    exact ih h' hfailed' fun a ha =>
      Option.not_isSome_iff_eq_none.mp fun hsome => ha (hfailed' a hsome)

theorem settled_retry (items done : List α) :
    ∃ order, p.Settled items done order (p.retry items { done := done }) := by
  have hstart : p.Partial items done [] items { done := done } :=
    ⟨List.nil_subset _, trivial, rfl, fun _ ha => .inl ha, List.Subset.refl _⟩
  exact hstart.retry fun _ ha => (by cases ha)

/-! ### What can be done in any order -/

omit [DecidableEq α] in
theorem Succeeds.subset {final : List α} (h : p.Succeeds done order) (hsub : order ⊆ items)
    (hclosed : ∀ a ∈ items, p.refusal final a = none → a ∈ final) (hdone : done ⊆ final) :
    order ⊆ final := by
  induction order generalizing done with
  | nil => exact List.nil_subset _
  | cons a order ih =>
    have ha := hclosed a (hsub List.mem_cons_self) (p.mono hdone h.1)
    exact List.cons_subset.mpr ⟨ha, ih h.2 (List.subset_of_cons_subset hsub)
      (List.cons_subset.mpr ⟨ha, hdone⟩)⟩

theorem Settled.mem_done (h : p.Settled items done order s) : a ∈ s.done ↔ a ∈ order ∨ a ∈ done := by
  rw [h.done_eq, List.mem_append, List.mem_reverse]

theorem Settled.lookup_eq_none_iff (h : p.Settled items done order s) (ha : a ∈ items) :
    s.failures.lookup a = none ↔ a ∈ order := by
  rw [h.failures, if_pos ha]
  exact ⟨h.mem_order a ha, fun hmem => h.done_eq ▸ h.succeeds.refusal_eq_none hmem⟩

/-- Nothing more can be done in any order. -/
theorem Settled.largest {order' : List α} (h : p.Settled items done order s)
    (hsub : order' ⊆ items) (horder : p.Succeeds done order') : order' ⊆ s.done :=
  horder.subset hsub (fun a ha hr => h.mem_done.mpr (.inl (h.mem_order a ha hr)))
    fun _ ha => h.mem_done.mpr (.inr ha)

/-- What is done does not depend on the order of the items. -/
theorem Settled.done_subset {items' order' : List α} {s' : Progress α ε}
    (h : p.Settled items done order s) (h' : p.Settled items' done order' s')
    (hitems : items ⊆ items') : s.done ⊆ s'.done := by
  intro a ha
  rcases h.mem_done.mp ha with hmem | hmem
  · exact h'.largest (List.Subset.trans h.order_subset hitems) h.succeeds hmem
  · exact h'.mem_done.mpr (.inr hmem)

end Attempts

end OpenAudio
