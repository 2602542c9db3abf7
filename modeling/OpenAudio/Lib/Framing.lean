import OpenAudio.Lib.GoText

/-!
# Joined fields

Fields are joined with a separator, or cut out of a byte string by a length or a terminator in front
of what follows. The joined bytes determine the pieces between separators, and the fields themselves
once it is known how many separators each of them holds.
-/

namespace OpenAudio

/-! ### Separators -/

section Separators

variable {α : Type} [BEq α] [LawfulBEq α] (x : α)

def pieces (fields : List (List α)) : List (List α) := fields.flatMap (List.splitOn x)

theorem splitOn_injective {l m : List α} (h : l.splitOn x = m.splitOn x) : l = m := by
  calc l = [x].intercalate (l.splitOn x) := (List.intercalate_splitOn x).symm
    _ = [x].intercalate (m.splitOn x) := by rw [h]
    _ = m := List.intercalate_splitOn x

theorem splitOn_join : ∀ {fields : List (List α)}, fields ≠ [] →
    ([x].intercalate fields).splitOn x = pieces x fields
  | [], h => absurd rfl h
  | [field], _ => by simp [pieces]
  | field :: next :: rest, _ => by
    have ih : ([x].intercalate (next :: rest)).splitOn x = pieces x (next :: rest) :=
      splitOn_join (by simp)
    rw [List.intercalate_cons_cons, List.append_assoc, List.singleton_append,
      List.splitOn_append_cons_self, ih]
    rfl

theorem join_eq_join_iff {fields fields' : List (List α)} (h : fields ≠ []) (h' : fields' ≠ []) :
    [x].intercalate fields = [x].intercalate fields' ↔ pieces x fields = pieces x fields' := by
  rw [← splitOn_join x h, ← splitOn_join x h']
  exact ⟨congrArg _, splitOn_injective x⟩

omit [LawfulBEq α] in
theorem length_splitOn (l : List α) : (l.splitOn x).length = l.count x + 1 := by
  induction l with
  | nil => simp
  | cons a l ih =>
    rw [List.splitOn_cons_eq_if_modifyHead, List.count_cons]
    split <;> simp [ih]

theorem eq_of_pieces_eq : ∀ {fields fields' : List (List α)}, fields ≠ [] → fields' ≠ [] →
    fields.dropLast.map (List.count x) = fields'.dropLast.map (List.count x) →
    pieces x fields = pieces x fields' → fields = fields'
  | [], _, hne, _, _, _ => absurd rfl hne
  | _, [], _, hne, _, _ => absurd rfl hne
  | [field], [field'], _, _, _, h => by
    have hsplit : field.splitOn x = field'.splitOn x := by simpa [pieces] using h
    rw [splitOn_injective x hsplit]
  | [_], _ :: _ :: _, _, _, hcount, _ => by simp at hcount
  | _ :: _ :: _, [_], _, _, hcount, _ => by simp at hcount
  | field :: next :: rest, field' :: next' :: rest', _, _, hcount, h => by
    rw [List.dropLast_cons_cons, List.dropLast_cons_cons, List.map_cons, List.map_cons,
      List.cons.injEq] at hcount
    obtain ⟨hfield, hrest⟩ := hcount
    have hlength : (field.splitOn x).length = (field'.splitOn x).length := by
      rw [length_splitOn, length_splitOn, hfield]
    obtain ⟨hhead, htail⟩ := List.append_inj h hlength
    rw [splitOn_injective x hhead, eq_of_pieces_eq (by simp) (by simp) hrest htail]

end Separators

theorem terminated_inj {α : Type} {x : α} : ∀ {field field' rest rest' : List α}, x ∉ field →
    x ∉ field' → field ++ x :: rest = field' ++ x :: rest' → field = field' ∧ rest = rest'
  | [], [], _, _, _, _, h => ⟨rfl, (List.cons.inj h).2⟩
  | [], a :: _, _, _, _, hfield', h => absurd ((List.cons.inj h).1 ▸ List.mem_cons_self) hfield'
  | a :: _, [], _, _, hfield, _, h => absurd ((List.cons.inj h).1 ▸ List.mem_cons_self) hfield
  | a :: field, b :: field', _, _, hfield, hfield', h => by
    obtain ⟨hhead, htail⟩ := List.cons.inj h
    obtain ⟨hrest, hend⟩ := terminated_inj (mt (List.mem_cons_of_mem a) hfield)
      (mt (List.mem_cons_of_mem b) hfield') htail
    exact ⟨congrArg₂ List.cons hhead hrest, hend⟩

/-! ### Numbers -/

/-- The `size` low bytes of a number, the least significant first. -/
def littleEndian : Nat → Nat → List UInt8
  | 0, _ => []
  | size + 1, n => UInt8.ofNat (n % 256) :: littleEndian size (n / 256)

@[simp] theorem length_littleEndian (size n : Nat) : (littleEndian size n).length = size := by
  induction size generalizing n with
  | zero => rfl
  | succ size ih => rw [littleEndian, List.length_cons, ih]

theorem littleEndian_eq_map (size n : Nat) :
    littleEndian size n = (List.range size).map fun i => UInt8.ofNat (n / 256 ^ i % 256) := by
  induction size generalizing n with
  | zero => rfl
  | succ size ih =>
    rw [littleEndian, ih, List.range_succ_eq_map, List.map_cons, List.map_map, pow_zero,
      Nat.div_one]
    congr 1
    apply List.map_congr_left
    intro i _
    rw [Function.comp_apply, Nat.div_div_eq_div_mul, ← Nat.pow_succ']

theorem littleEndian_injective {size m n : Nat} (hm : m < 256 ^ size) (hn : n < 256 ^ size)
    (h : littleEndian size m = littleEndian size n) : m = n := by
  induction size generalizing m n with
  | zero =>
    simp only [pow_zero, Nat.lt_one_iff] at hm hn
    rw [hm, hn]
  | succ size ih =>
    rw [littleEndian, littleEndian, List.cons.injEq] at h
    obtain ⟨hlow, hhigh⟩ := h
    have hbyte : m % 256 = n % 256 := by
      have := congrArg UInt8.toNat hlow
      rwa [UInt8.toNat_ofNat', UInt8.toNat_ofNat', Nat.mod_mod, Nat.mod_mod] at this
    have hrest : m / 256 = n / 256 := by
      refine ih ?_ ?_ hhigh
      · rw [Nat.div_lt_iff_lt_mul (by decide)]
        rwa [pow_succ] at hm
      · rw [Nat.div_lt_iff_lt_mul (by decide)]
        rwa [pow_succ] at hn
    omega

/-! ### Texts -/

theorem textBytes_append (s t : String) : textBytes (s ++ t) = textBytes s ++ textBytes t := by
  simp [textBytes_eq]

theorem textBytes_injective {s t : String} (h : textBytes s = textBytes t) : s = t := by
  have hdata : s.toByteArray.data = t.toByteArray.data := Array.toList_inj.mp h
  exact String.toByteArray_inj.mp (ByteArray.ext hdata)

end OpenAudio
