import Mathlib.Data.List.Sort

/-!
# Walks by key

A table is read in pages: the rows past a cursor in the order of their keys, up to a limit. The
cursor then moves to the last row of the page, or of the part of it that was dealt with. Other
programs insert and delete rows meanwhile. A row that is in the table at every page is not passed
over, however often the walk stops and starts again at a cursor it had reached.
-/

namespace OpenAudio

namespace Keyset

variable {α : Type} (le : α → α → Prop) [DecidableRel le]

/-- `WHERE … ORDER BY … LIMIT limit`. -/
def page (above : α → Bool) (limit : Nat) (rows : List α) : List α :=
  ((rows.filter above).insertionSort le).take limit

/-- The rows past a row. -/
def after (last r : α) : Bool := !decide (le r last)

/-- No two rows have the same key. -/
def Keyed (rows : List α) : Prop := ∀ a ∈ rows, ∀ b ∈ rows, le a b → le b a → a = b

/-- If the walk that began with the rows of `start` has come past a row, the row is dealt with. -/
def Covered (start above : α → Bool) (r : α) (dealt : Prop) : Prop :=
  start r = true → above r = false → dealt

variable {le} {start above : α → Bool} {limit : Nat} {rows part : List α} {r last : α}
  {dealt dealt' : Prop}

theorem page_eq_nil_iff (hlimit : 0 < limit) :
    page le above limit rows = [] ↔ ∀ r ∈ rows, above r = false := by
  rw [page, List.take_eq_nil_iff, or_iff_right hlimit.ne', ← List.length_eq_zero_iff,
    List.length_insertionSort, List.length_eq_zero_iff, List.filter_eq_nil_iff]
  simp

/-- A part of a page that ends with `last` has every row up to `last`. -/
theorem mem_part_of_le [Std.Total le] [IsTrans α le] (hkeyed : Keyed le rows)
    (hpart : part <+: page le above limit rows) (hlast : part.getLast? = some last)
    (hr : r ∈ rows) (habove : above r = true) (hle : le r last) : r ∈ part := by
  obtain ⟨rest, hsplit⟩ := hpart.trans ( List.take_prefix _ _)
  have hsorted : ((rows.filter above).insertionSort le).Pairwise le :=
    List.pairwise_insertionSort le _
  have hmem (x : α) : x ∈ part ++ rest ↔ x ∈ rows ∧ above x = true := by
    rw [hsplit, List.mem_insertionSort, List.mem_filter]
  have hlast' := List.mem_of_getLast? hlast
  rcases List.mem_append.mp ((hmem r).mpr ⟨hr, habove⟩) with h | h
  · exact h
  -- a later row is not before the last one, so it has its key
  · rw [← hsplit, List.pairwise_append] at hsorted
    have heq : r = last := hkeyed r hr last ((hmem last).mp (List.mem_append_left _ hlast')).1 hle
      (hsorted.2.2 last hlast' r h)
    rw [heq]
    exact hlast'

namespace Covered

omit [DecidableRel le]

theorem refl : Covered start start r dealt := fun h h' => by rw [h] at h'; cases h'

theorem mono (h : Covered start above r dealt) (hd : dealt → dealt') :
    Covered start above r dealt' := fun hs ha => hd (h hs ha)

variable [DecidableRel le]

/-- The cursor moves to the last row of a part of a page. -/
theorem advance [Std.Total le] [IsTrans α le] (h : Covered start above r dealt)
    (hd : dealt → dealt') (hkeyed : Keyed le rows) (hpart : part <+: page le above limit rows)
    (hlast : part.getLast? = some last) (hr : r ∈ rows ∨ dealt') (hdone : r ∈ part → dealt') :
    Covered start (after le last) r dealt' := by
  intro hstart hpassed
  rcases hr with hr | hr
  · cases habove : above r with
    | false => exact hd (h hstart habove)
    | true =>
      have hle : le r last := by simpa [after] using hpassed
      exact hdone (mem_part_of_le hkeyed hpart hlast hr habove hle)
  · exact hr

/-- The walk ends where there is no page left. -/
theorem finish (h : Covered start above r dealt) (hlimit : 0 < limit)
    (hnil : page le above limit rows = []) (hr : r ∈ rows ∨ dealt) (hstart : start r = true) :
    dealt :=
  hr.elim (fun hr => h hstart ((page_eq_nil_iff hlimit).mp hnil r hr)) id

end Covered

end Keyset

end OpenAudio
