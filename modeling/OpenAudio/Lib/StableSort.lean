import Mathlib.Data.List.Basic
import Mathlib.Data.List.Perm.Basic

/-!
# Go's stable sort

What `sort.SliceStable` guarantees depends on its comparison: the result is in order if the
comparison is a strict weak order on the elements. Without that only the elements are known, except
for short slices, which Go sorts by insertion, and for slices without a pair in the wrong order, in
which neither the insertions nor the merges move anything.
-/

namespace OpenAudio

variable {α : Type}

/-- The comparison is a strict weak order on the elements of the list. -/
structure StrictWeakOn (less : α → α → Bool) (l : List α) : Prop where
  asymm : ∀ a ∈ l, ∀ b ∈ l, less a b = true → less b a = false
  negTrans : ∀ a ∈ l, ∀ b ∈ l, ∀ c ∈ l, less a b = false → less b c = false → less a c = false

/-- In no pair is the later element less than the earlier one. -/
def InOrder (less : α → α → Bool) (l : List α) : Prop :=
  l.Pairwise fun a b => less b a = false

section Insertion

variable (less : α → α → Bool)

/-- An element moves left, past those it is less than. The list is reversed. -/
def insertLeft (x : α) : List α → List α
  | [] => [x]
  | y :: ys => if less x y then y :: insertLeft x ys else x :: y :: ys

/-- `insertionSort` of the package `sort` -/
def insertionSortGo (l : List α) : List α :=
  (l.foldl (fun sorted x => insertLeft less x sorted) []).reverse

variable {less}

theorem perm_insertLeft (x : α) (l : List α) : (insertLeft less x l).Perm (x :: l) := by
  induction l with
  | nil => exact List.Perm.refl _
  | cons y ys ih =>
    rw [insertLeft]
    split
    · exact (ih.cons y).trans (List.Perm.swap x y ys)
    · exact List.Perm.refl _

theorem perm_foldl_insertLeft (l sorted : List α) :
    (l.foldl (fun sorted x => insertLeft less x sorted) sorted).Perm (l ++ sorted) := by
  induction l generalizing sorted with
  | nil => exact List.Perm.refl _
  | cons x l ih =>
    refine (ih _).trans ?_
    exact ((perm_insertLeft x sorted).append_left l).trans List.perm_middle

theorem perm_insertionSortGo (l : List α) : (insertionSortGo less l).Perm l := by
  refine (List.reverse_perm _).trans ?_
  have h : (l.foldl (fun sorted x => insertLeft less x sorted) []).Perm (l ++ []) :=
    perm_foldl_insertLeft l []
  rwa [List.append_nil] at h

theorem pairwise_insertLeft {l : List α} {x : α} {sorted : List α} (h : StrictWeakOn less l)
    (hx : x ∈ l) (hsub : sorted ⊆ l) (hsorted : sorted.Pairwise fun b a => less b a = false) :
    (insertLeft less x sorted).Pairwise fun b a => less b a = false := by
  induction sorted with
  | nil => exact List.pairwise_singleton _ _
  | cons y ys ih =>
    obtain ⟨hy, hys⟩ := List.cons_subset.mp hsub
    obtain ⟨hhead, htail⟩ := List.pairwise_cons.mp hsorted
    rw [insertLeft]
    split
    · rename_i hless
      refine List.pairwise_cons.mpr ⟨fun z hz => ?_, ih hys htail⟩
      rcases List.mem_cons.mp ((perm_insertLeft x ys).mem_iff.mp hz) with rfl | hz
      · exact h.asymm z hx y hy hless
      · exact hhead z hz
    · rename_i hless
      rw [Bool.not_eq_true] at hless
      refine List.pairwise_cons.mpr ⟨List.forall_mem_cons.mpr ⟨hless, fun z hz => ?_⟩, hsorted⟩
      exact h.negTrans x hx y hy z (hys hz) hless (hhead z hz)

theorem pairwise_foldl_insertLeft {l rest sorted : List α} (h : StrictWeakOn less l)
    (hrest : rest ⊆ l) (hsub : sorted ⊆ l)
    (hsorted : sorted.Pairwise fun b a => less b a = false) :
    (rest.foldl (fun sorted x => insertLeft less x sorted) sorted).Pairwise
      fun b a => less b a = false := by
  induction rest generalizing sorted with
  | nil => exact hsorted
  | cons x rest ih =>
    obtain ⟨hx, hrest⟩ := List.cons_subset.mp hrest
    refine ih hrest (fun y hy => ?_) (pairwise_insertLeft h hx hsub hsorted)
    rcases List.mem_cons.mp ((perm_insertLeft x sorted).mem_iff.mp hy) with rfl | hy
    · exact hx
    · exact hsub hy

theorem inOrder_insertionSortGo {l : List α} (h : StrictWeakOn less l) :
    InOrder less (insertionSortGo less l) := by
  rw [InOrder, insertionSortGo, List.pairwise_reverse]
  exact pairwise_foldl_insertLeft h (List.Subset.refl l) (List.nil_subset l) List.Pairwise.nil

theorem insertLeft_of_forall {x : α} {sorted : List α} (h : ∀ y ∈ sorted, less x y = false) :
    insertLeft less x sorted = x :: sorted := by
  cases sorted with
  | nil => rfl
  | cons y ys => rw [insertLeft, h y List.mem_cons_self, if_neg Bool.false_ne_true]

theorem foldl_insertLeft_of_inOrder {rest sorted : List α}
    (h : InOrder less (sorted.reverse ++ rest)) :
    rest.foldl (fun sorted x => insertLeft less x sorted) sorted = rest.reverse ++ sorted := by
  induction rest generalizing sorted with
  | nil => rfl
  | cons x rest ih =>
    have hx : ∀ y ∈ sorted, less x y = false := fun y hy =>
      (List.pairwise_append.mp h).2.2 y (List.mem_reverse.mpr hy) x List.mem_cons_self
    rw [List.foldl_cons, insertLeft_of_forall hx, ih (by simpa using h)]
    simp

theorem insertionSortGo_of_inOrder {l : List α} (h : InOrder less l) :
    insertionSortGo less l = l := by
  rw [insertionSortGo, foldl_insertLeft_of_inOrder (by simpa using h)]
  simp

end Insertion

/-- The length up to which `sort.SliceStable` sorts by insertion alone. -/
def sliceStableBlockSize : Nat := 20

/-- What is used of `sort.SliceStable`. -/
structure SliceStable where
  sort : {α : Type} → (α → α → Bool) → List α → List α
  perm : ∀ {α : Type} (less : α → α → Bool) (l : List α), (sort less l).Perm l
  inOrder : ∀ {α : Type} {less : α → α → Bool} {l : List α}, StrictWeakOn less l →
    InOrder less (sort less l)
  unmoved : ∀ {α : Type} {less : α → α → Bool} {l : List α}, InOrder less l → sort less l = l
  short : ∀ {α : Type} (less : α → α → Bool) {l : List α}, l.length ≤ sliceStableBlockSize →
    sort less l = insertionSortGo less l

/-- Sorting by insertion throughout has the properties. -/
def SliceStable.insertion : SliceStable where
  sort := insertionSortGo
  perm _ l := perm_insertionSortGo l
  inOrder := inOrder_insertionSortGo
  unmoved := insertionSortGo_of_inOrder
  short _ _ _ := rfl

/-! ### Comparing by rank -/

theorem strictWeakOn_of_rank {less : α → α → Bool} {rank : α → Nat} {l : List α}
    (h : ∀ a ∈ l, ∀ b ∈ l, less a b = decide (rank a < rank b)) : StrictWeakOn less l where
  asymm a ha b hb hless := by
    rw [h a ha b hb, decide_eq_true_eq] at hless
    rw [h b hb a ha, decide_eq_false_iff_not]
    omega
  negTrans a ha b hb c hc hab hbc := by
    rw [h a ha b hb, decide_eq_false_iff_not] at hab
    rw [h b hb c hc, decide_eq_false_iff_not] at hbc
    rw [h a ha c hc, decide_eq_false_iff_not]
    omega

namespace SliceStable

variable (S : SliceStable) {less : α → α → Bool} {rank : α → Nat} {l : List α}

theorem pairwise_rank (h : ∀ a ∈ l, ∀ b ∈ l, less a b = decide (rank a < rank b)) :
    (S.sort less l).Pairwise fun a b => rank a ≤ rank b := by
  refine (S.inOrder (strictWeakOn_of_rank h)).imp_of_mem fun {a b} ha hb hless => ?_
  rw [h b ((S.perm less l).mem_iff.mp hb) a ((S.perm less l).mem_iff.mp ha),
    decide_eq_false_iff_not] at hless
  omega

/-- Where no two elements have the same rank, the result does not depend on the order. -/
theorem sort_eq_of_perm {l' : List α} (hperm : l'.Perm l)
    (h : ∀ a ∈ l, ∀ b ∈ l, less a b = decide (rank a < rank b))
    (hrank : ∀ a ∈ l, ∀ b ∈ l, rank a = rank b → a = b) : S.sort less l' = S.sort less l := by
  have h' : ∀ a ∈ l', ∀ b ∈ l', less a b = decide (rank a < rank b) :=
    fun a ha b hb => h a (hperm.mem_iff.mp ha) b (hperm.mem_iff.mp hb)
  refine List.Perm.eq_of_pairwise (fun a b ha hb hab hba => ?_) (S.pairwise_rank h')
    (S.pairwise_rank h) ((S.perm less l').trans (hperm.trans (S.perm less l).symm))
  exact hrank a (hperm.mem_iff.mp ((S.perm less l').mem_iff.mp ha)) b
    ((S.perm less l).mem_iff.mp hb) (Nat.le_antisymm hab hba)

end SliceStable

end OpenAudio
