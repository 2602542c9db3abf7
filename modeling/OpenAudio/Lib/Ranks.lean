import Mathlib.Data.List.Sort

/-!
# The first elements of a sorted list

A list without duplicates that is sorted by a linear order begins with the elements that have the
fewest others before them, whatever list it was sorted from.
-/

namespace OpenAudio

variable {α : Type} (r : α → α → Prop) [DecidableRel r] [DecidableEq α]

/-- How many elements of the list come before `a`. -/
def rank (l : List α) (a : α) : Nat := l.countP fun b => decide (r b a ∧ b ≠ a)

theorem rank_perm {l l' : List α} (h : l.Perm l') (a : α) : rank r l a = rank r l' a :=
  h.countP_eq _

theorem rank_lt_length {l : List α} {a : α} (ha : a ∈ l) : rank r l a < l.length := by
  unfold rank
  refine lt_of_le_of_ne List.countP_le_length fun hall => ?_
  have hself := List.countP_eq_length.mp hall a ha
  simp at hself

variable [IsTrans α r] [Std.Total r] [Std.Antisymm r]

omit [DecidableEq α] in
theorem insertionSort_eq_of_perm {l l' : List α} (h : l.Perm l') :
    l.insertionSort r = l'.insertionSort r := by
  have hperm : (l.insertionSort r).Perm (l'.insertionSort r) :=
    (List.perm_insertionSort r l).trans (h.trans (List.perm_insertionSort r l').symm)
  exact hperm.eq_of_pairwise' (List.pairwise_insertionSort r l) (List.pairwise_insertionSort r l')

omit [IsTrans α r] [Std.Total r] in
theorem mem_take_iff_rank_lt {l : List α} (hsorted : l.Pairwise r) (hnodup : l.Nodup) (m : Nat)
    (a : α) : a ∈ l.take m ↔ a ∈ l ∧ rank r l a < m := by
  induction l generalizing m with
  | nil => simp
  | cons b l ih =>
    obtain ⟨hfirst, hsorted⟩ := List.pairwise_cons.mp hsorted
    obtain ⟨hnew, hnodup⟩ := List.nodup_cons.mp hnodup
    cases m with
    | zero => simp
    | succ m =>
      rw [List.take_succ_cons, List.mem_cons, ih hsorted hnodup, List.mem_cons]
      by_cases hab : a = b
      · -- nothing comes before the head
        subst hab
        have hnone : rank r (a :: l) a = 0 := by
          rw [rank, List.countP_eq_zero]
          intro c hc
          rw [List.mem_cons] at hc
          simp only [decide_eq_true_eq]
          rintro ⟨hca, hne⟩
          rcases hc with rfl | hc
          · exact hne rfl
          · exact hne (antisymm hca (hfirst c hc))
        simp [hnone]
      · have hcount (ha : a ∈ l) : rank r (b :: l) a = rank r l a + 1 := by
          rw [rank, List.countP_cons_of_pos]
          · rfl
          · simp [hfirst a ha, Ne.symm hab]
        constructor
        · rintro (h | ⟨ha, hlt⟩)
          · exact absurd h hab
          · exact ⟨.inr ha, by rw [hcount ha]; omega⟩
        · rintro ⟨h | ha, hlt⟩
          · exact absurd h hab
          · rw [hcount ha] at hlt
            exact .inr ⟨ha, by omega⟩

theorem mem_take_insertionSort_iff {l : List α} (hnodup : l.Nodup) (m : Nat) (a : α) :
    a ∈ (l.insertionSort r).take m ↔ a ∈ l ∧ rank r l a < m := by
  have hperm := List.perm_insertionSort r l
  rw [mem_take_iff_rank_lt r (List.pairwise_insertionSort r l) (hperm.nodup_iff.mpr hnodup),
    hperm.mem_iff, rank_perm r hperm]

omit [DecidableEq α] in
/-- What a sorted list keeps of its elements is what sorting those gives, whatever order they were
in. -/
theorem insertionSort_eq_filter {l l' : List α} {p : α → Bool} (h : l'.Perm (l.filter p)) :
    l'.insertionSort r = (l.insertionSort r).filter p := by
  have hperm : (l'.insertionSort r).Perm ((l.insertionSort r).filter p) :=
    (List.perm_insertionSort r l').trans (h.trans ((List.perm_insertionSort r l).filter p).symm)
  exact hperm.eq_of_pairwise' (List.pairwise_insertionSort r l')
    ((List.pairwise_insertionSort r l).filter p)

theorem insertionSort_erase (l : List α) (a : α) :
    (l.erase a).insertionSort r = (l.insertionSort r).erase a := by
  have hperm : ((l.erase a).insertionSort r).Perm ((l.insertionSort r).erase a) :=
    (List.perm_insertionSort r _).trans ((List.perm_insertionSort r l).erase a).symm
  exact hperm.eq_of_pairwise' (List.pairwise_insertionSort r _)
    ((List.pairwise_insertionSort r l).sublist List.erase_sublist)

/-! ### The first elements of a list without one of its elements -/

theorem take_erase_of_not_mem {l : List α} {a : α} {k : Nat} (h : a ∉ l.take k) :
    (l.erase a).take k = l.take k := by
  conv_lhs => rw [← List.take_append_drop k l, List.erase_append_right _ h, List.take_append]
  rw [List.take_take, min_self]
  -- nothing of the rest is taken, unless the list ends before
  by_cases hk : k ≤ l.length
  · rw [List.length_take, min_eq_left hk, Nat.sub_self, List.take_zero, List.append_nil]
  · rw [List.drop_of_length_le (by omega), List.erase_nil, List.take_nil, List.append_nil]

theorem take_erase_of_mem {l : List α} {a : α} {k : Nat} (h : a ∈ l.take k) :
    (l.erase a).take k = (l.take k).erase a ++ l[k]?.toList := by
  have hlength := List.length_erase_of_mem h
  rw [List.length_take] at hlength
  have hpos := List.length_pos_of_mem h
  rw [List.length_take] at hpos
  conv_lhs => rw [← List.take_append_drop k l, List.erase_append_left _ h, List.take_append]
  rw [List.take_of_length_le (by omega), hlength]
  congr 1
  by_cases hk : k < l.length
  · rw [show k - (min k l.length - 1) = 1 by omega, List.drop_eq_getElem_cons hk,
      List.getElem?_eq_getElem hk]
    rfl
  · rw [List.drop_of_length_le (by omega), List.getElem?_eq_none (by omega)]
    simp

end OpenAudio
