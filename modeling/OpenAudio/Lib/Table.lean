import Mathlib.Data.List.AList
import Mathlib.Order.MinMax
import Mathlib.Data.List.MinMax

/-!
# Keyed tables

A finite map with unique keys: the rows of an SQL table under its primary key, or a Go map. The
operations are the ones SQL statements and map assignments perform, and every lemma says what a
later `lookup` sees.
-/

namespace OpenAudio

/-- Rows of type `ρ` under a key of type `κ`. -/
abbrev Table (κ ρ : Type) := AList (fun _ : κ => ρ)

namespace Table

variable {κ ρ : Type} [DecidableEq κ]

/-- Some row satisfies `p`. -/
def any (t : Table κ ρ) (p : κ → ρ → Bool) : Bool := t.entries.any fun e => p e.1 e.2

/-- `INSERT … ON CONFLICT DO NOTHING`. -/
def insertNew (t : Table κ ρ) (k : κ) (row : ρ) : Table κ ρ :=
  if (t.lookup k).isSome then t else t.insert k row

/-- `UPDATE … WHERE key = k`. -/
def update (t : Table κ ρ) (k : κ) (f : ρ → ρ) : Table κ ρ :=
  match t.lookup k with
  | some row => t.insert k (f row)
  | none => t

/-- The least key whose row satisfies `p`. -/
def leastKey [Min κ] (t : Table κ ρ) (p : κ → ρ → Bool) : Option κ :=
  ((t.entries.filter fun e => p e.1 e.2).map (·.1)).min?

theorem lookup_insert_eq (t : Table κ ρ) (k j : κ) (row : ρ) :
    (t.insert k row).lookup j = if j = k then some row else t.lookup j := by
  by_cases h : j = k
  · subst h
    rw [AList.lookup_insert, if_pos rfl]
  · rw [AList.lookup_insert_ne h, if_neg h]

theorem lookup_erase_eq (t : Table κ ρ) (k j : κ) :
    (AList.erase k t).lookup j = if j = k then none else t.lookup j := by
  by_cases h : j = k
  · rw [if_pos h, h, AList.lookup_erase]
  · rw [if_neg h, AList.lookup_erase_ne h]

theorem insertNew_of_none {t : Table κ ρ} {k : κ} (h : t.lookup k = none) (row : ρ) :
    t.insertNew k row = t.insert k row := by
  rw [insertNew, h, Option.isSome_none, if_neg Bool.false_ne_true]

theorem update_of_some {t : Table κ ρ} {k : κ} {row : ρ} (h : t.lookup k = some row) (f : ρ → ρ) :
    t.update k f = t.insert k (f row) := by
  rw [update, h]

theorem update_of_none {t : Table κ ρ} {k : κ} (h : t.lookup k = none) (f : ρ → ρ) :
    t.update k f = t := by
  rw [update, h]

theorem lookup_insertNew (t : Table κ ρ) (k j : κ) (row : ρ) :
    (t.insertNew k row).lookup j =
      if j = k then some ((t.lookup k).getD row) else t.lookup j := by
  unfold insertNew
  cases hk : t.lookup k with
  | none =>
    rw [Option.isSome_none, if_neg Bool.false_ne_true, lookup_insert_eq, Option.getD_none]
  | some old =>
    rw [Option.isSome_some, if_pos rfl, Option.getD_some]
    by_cases h : j = k
    · rw [if_pos h, h, hk]
    · rw [if_neg h]

theorem lookup_foldl_insert {α : Type} (key : α → κ) (row : α → ρ) (as : List α) (t : Table κ ρ)
    (k : κ) : (as.foldl (fun t a => t.insert (key a) (row a)) t).lookup k =
      ((as.reverse.find? fun a => decide (key a = k)).map row).or (t.lookup k) := by
  induction as generalizing t with
  | nil => rfl
  | cons a as ih =>
    rw [List.foldl_cons, ih, lookup_insert_eq, List.reverse_cons, List.find?_append]
    cases as.reverse.find? fun a => decide (key a = k) with
    | some b => rfl
    | none =>
      by_cases hk : k = key a
      · simp [hk]
      · simp [hk, Ne.symm hk]

theorem lookup_update (t : Table κ ρ) (k j : κ) (f : ρ → ρ) :
    (t.update k f).lookup j = if j = k then (t.lookup k).map f else t.lookup j := by
  unfold update
  cases hk : t.lookup k with
  | none =>
    by_cases h : j = k
    · subst h
      rw [if_pos rfl, hk, Option.map_none]
    · rw [if_neg h]
  | some row => simp only [lookup_insert_eq, Option.map_some]

/-- Updates of some rows, of which a second one changes nothing. -/
theorem lookup_foldl_update {α : Type} (key : α → κ) {f : ρ → ρ} (hf : ∀ row, f (f row) = f row)
    (as : List α) (t : Table κ ρ) (k : κ) :
    (as.foldl (fun t a => t.update (key a) f) t).lookup k =
      if k ∈ as.map key then (t.lookup k).map f else t.lookup k := by
  induction as generalizing t with
  | nil => simp
  | cons a as ih =>
    rw [List.foldl_cons, ih, lookup_update, List.map_cons]
    by_cases hk : k = key a
    · subst hk
      cases t.lookup (key a) <;> simp [hf]
    · simp [hk]

/-- `UPDATE` of all rows, of which a second one changes nothing. -/
theorem lookup_foldl_keys {f : ρ → ρ} (hf : ∀ row, f (f row) = f row) (t : Table κ ρ) (k : κ) :
    (t.keys.foldl (fun t k => t.update k f) t).lookup k = (t.lookup k).map f := by
  refine (lookup_foldl_update (fun k : κ => k) hf t.keys t k).trans ?_
  rw [List.map_id']
  by_cases hk : k ∈ t.keys
  · rw [if_pos hk]
  · rw [if_neg hk, AList.lookup_eq_none.mpr fun hmem => hk (AList.mem_keys.mp hmem)]
    rfl

/-- `t'` is `t` with `row` under `k`. -/
def Sets (t t' : Table κ ρ) (k : κ) (row : ρ) : Prop :=
  ∀ j, t'.lookup j = if j = k then some row else t.lookup j

section Sets

variable {t t' : Table κ ρ} {k : κ} {row : ρ}

theorem sets_self (h : t.lookup k = some row) : t.Sets t k row := by
  intro j
  by_cases hj : j = k
  · subst hj
    simpa using h
  · simp [hj]

theorem sets_insert (t : Table κ ρ) (k : κ) (row : ρ) : t.Sets (t.insert k row) k row :=
  fun j => lookup_insert_eq t k j row

theorem sets_insertNew (h : t.lookup k = none) (row : ρ) : t.Sets (t.insertNew k row) k row := by
  rw [insertNew_of_none h]
  exact sets_insert t k row

theorem sets_update {old : ρ} (h : t.lookup k = some old) (f : ρ → ρ) :
    t.Sets (t.update k f) k (f old) := by
  rw [update_of_some h]
  exact sets_insert t k (f old)

theorem Sets.trans {t'' : Table κ ρ} {row' : ρ} (h : t.Sets t' k row) (h' : t'.Sets t'' k row') :
    t.Sets t'' k row' := by
  intro j
  rw [h' j, h j]
  by_cases hj : j = k
  · rw [if_pos hj, if_pos hj]
  · rw [if_neg hj, if_neg hj, if_neg hj]

theorem Sets.lookup_self (h : t.Sets t' k row) : t'.lookup k = some row := by
  rw [h k, if_pos rfl]

theorem Sets.lookup_of_ne (h : t.Sets t' k row) {j : κ} (hj : j ≠ k) :
    t'.lookup j = t.lookup j := by
  rw [h j, if_neg hj]

theorem Sets.lookup_eq (h : t.Sets t' k row) (hrow : t.lookup k = some row) (j : κ) :
    t'.lookup j = t.lookup j := by
  by_cases hj : j = k
  · rw [hj, h.lookup_self, hrow]
  · exact h.lookup_of_ne hj

theorem Sets.cases (h : t.Sets t' k row) {j : κ} {r : ρ} (hr : t'.lookup j = some r) :
    (j = k ∧ r = row) ∨ (j ≠ k ∧ t.lookup j = some r) := by
  by_cases hj : j = k
  · subst hj
    rw [h.lookup_self, Option.some.injEq] at hr
    exact .inl ⟨rfl, hr.symm⟩
  · rw [h.lookup_of_ne hj] at hr
    exact .inr ⟨hj, hr⟩

theorem Sets.isSome (h : t.Sets t' k row) {j : κ} (hj : (t.lookup j).isSome = true) :
    (t'.lookup j).isSome = true := by
  rw [h j]
  by_cases he : j = k
  · simp [he]
  · simpa [he] using hj

end Sets

theorem mem_entries_iff (t : Table κ ρ) (k : κ) (row : ρ) :
    (⟨k, row⟩ : Sigma fun _ : κ => ρ) ∈ t.entries ↔ t.lookup k = some row :=
  AList.mem_lookup_iff.symm

/-- The rows that satisfy `p`. -/
def filter (t : Table κ ρ) (p : κ → ρ → Bool) : Table κ ρ :=
  ⟨t.entries.filter fun e => p e.1 e.2, t.nodupKeys.sublist List.filter_sublist⟩

theorem lookup_filter_eq_some (t : Table κ ρ) (p : κ → ρ → Bool) (k : κ) (row : ρ) :
    (t.filter p).lookup k = some row ↔ t.lookup k = some row ∧ p k row = true := by
  rw [← mem_entries_iff, ← mem_entries_iff, filter, List.mem_filter]

theorem any_iff (t : Table κ ρ) (p : κ → ρ → Bool) :
    t.any p = true ↔ ∃ k row, t.lookup k = some row ∧ p k row = true := by
  rw [any, List.any_eq_true]
  constructor
  · rintro ⟨⟨k, row⟩, hmem, hp⟩
    exact ⟨k, row, (t.mem_entries_iff k row).mp hmem, hp⟩
  · rintro ⟨k, row, hk, hp⟩
    exact ⟨⟨k, row⟩, (t.mem_entries_iff k row).mpr hk, hp⟩

theorem length_filter_key_le_one (t : Table κ ρ) (k : κ) (p : ρ → Bool) :
    (t.entries.filter fun e => decide (e.1 = k) && p e.2).length ≤ 1 := by
  have hnodup : ((t.entries.filter fun e => decide (e.1 = k) && p e.2).map (·.1)).Nodup := by
    have hkeys : (t.entries.map (·.1)).Nodup := t.nodupKeys
    exact hkeys.sublist (List.filter_sublist.map _)
  have hall : ∀ j ∈ (t.entries.filter fun e => decide (e.1 = k) && p e.2).map (·.1), j = k := by
    intro j hj
    obtain ⟨e, he, rfl⟩ := List.mem_map.mp hj
    have hmatch := (List.mem_filter.mp he).2
    simp only [Bool.and_eq_true, decide_eq_true_eq] at hmatch
    exact hmatch.1
  rw [List.eq_replicate_of_mem hall, List.nodup_replicate] at hnodup
  simpa using hnodup

section LeastKey

variable {κ : Type} [LinearOrder κ] (t : Table κ ρ) (p : κ → ρ → Bool)

private theorem mem_candidates (k : κ) :
    k ∈ (t.entries.filter fun e => p e.1 e.2).map (·.1) ↔
      ∃ row, t.lookup k = some row ∧ p k row = true := by
  rw [List.mem_map]
  constructor
  · rintro ⟨⟨j, row⟩, hmem, rfl⟩
    obtain ⟨hin, hp⟩ := List.mem_filter.mp hmem
    exact ⟨row, (t.mem_entries_iff j row).mp hin, hp⟩
  · rintro ⟨row, hk, hp⟩
    exact ⟨⟨k, row⟩, List.mem_filter.mpr ⟨(t.mem_entries_iff k row).mpr hk, hp⟩, rfl⟩

theorem leastKey_eq_some_iff (k : κ) :
    t.leastKey p = some k ↔ (∃ row, t.lookup k = some row ∧ p k row = true) ∧
      ∀ j row, t.lookup j = some row → p j row = true → k ≤ j := by
  rw [leastKey, List.min?_eq_some_iff, mem_candidates]
  refine and_congr Iff.rfl ⟨fun h j row hj hp => ?_, fun h j hmem => ?_⟩
  · exact h j ((t.mem_candidates p j).mpr ⟨row, hj, hp⟩)
  · obtain ⟨row, hj, hp⟩ := (t.mem_candidates p j).mp hmem
    exact h j row hj hp

theorem unmatched_of_leastKey_eq_none (h : t.leastKey p = none) {k : κ} {row : ρ}
    (hk : t.lookup k = some row) : p k row = false := by
  rw [leastKey, List.min?_eq_none_iff] at h
  by_contra hp
  have hmem := (t.mem_candidates p k).mpr ⟨row, hk, by simpa using hp⟩
  rw [h] at hmem
  cases hmem

end LeastKey

end Table

end OpenAudio
