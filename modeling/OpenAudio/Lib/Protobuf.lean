import OpenAudio.Lib.GoText

/-!
# The protobuf wire format

Bytes as a generated decoder reads them: a message is a sequence of fields, each a tag and a value
whose extent the wire type of the tag determines. What a decoder makes of a field is its schema's
business; a field the schema does not know is kept as it stands. Encoders emit the shortest
varints, and what they emit is parsed back field by field.
-/

namespace OpenAudio.Protobuf

/-! ### Varints -/

/-- The value in groups of seven bits, the low ones first, in at most `more + 1` bytes. -/
def appendVarintUpTo : Nat → Nat → List UInt8
  | 0, n => [UInt8.ofNat n]
  | more + 1, n =>
    if n < 128 then [UInt8.ofNat n]
    else UInt8.ofNat (n % 128 + 128) :: appendVarintUpTo more (n / 128)

/-- `protowire.AppendVarint` of a value of 64 bits. -/
def appendVarint (n : Nat) : List UInt8 := appendVarintUpTo 9 n

/-- Read a varint of at most `more` bytes; the tenth byte holds one bit. -/
def consumeVarintUpTo : Nat → List UInt8 → Option (Nat × List UInt8)
  | 0, _ => none
  | _ + 1, [] => none
  | more + 1, b :: rest =>
    if b.toNat < 128 then
      if more = 0 ∧ 1 < b.toNat then none else some (b.toNat, rest)
    else (consumeVarintUpTo more rest).map fun r => (b.toNat - 128 + 128 * r.1, r.2)

/-- `protowire.ConsumeVarint` -/
def consumeVarint (bytes : List UInt8) : Option (Nat × List UInt8) := consumeVarintUpTo 10 bytes

private theorem toNat_ofNat {n : Nat} (h : n < 256) : (UInt8.ofNat n).toNat = n := by
  rw [UInt8.toNat_ofNat']
  omega

theorem consumeVarintUpTo_append (more n : Nat) (hn : n < 2 ^ (7 * more + 1))
    (rest : List UInt8) :
    consumeVarintUpTo (more + 1) (appendVarintUpTo more n ++ rest) = some (n, rest) := by
  induction more generalizing n with
  | zero =>
    have hn : n < 2 := by simpa using hn
    have hb : (UInt8.ofNat n).toNat = n := toNat_ofNat (by omega)
    simp only [appendVarintUpTo, List.singleton_append, consumeVarintUpTo, hb]
    rw [if_pos (by omega), if_neg (by omega)]
  | succ more ih =>
    by_cases hsmall : n < 128
    · have hb : (UInt8.ofNat n).toNat = n := toNat_ofNat (by omega)
      simp only [appendVarintUpTo, hsmall, if_true, List.singleton_append]
      rw [consumeVarintUpTo, hb, if_pos hsmall, if_neg (by omega)]
    · have hb : (UInt8.ofNat (n % 128 + 128)).toNat = n % 128 + 128 := toNat_ofNat (by omega)
      have hrest : n / 128 < 2 ^ (7 * more + 1) := by
        apply Nat.div_lt_of_lt_mul
        calc n < 2 ^ (7 * (more + 1) + 1) := hn
          _ = 128 * 2 ^ (7 * more + 1) := by
            rw [show 7 * (more + 1) + 1 = 7 + (7 * more + 1) by omega, Nat.pow_add]
      simp only [appendVarintUpTo, hsmall, if_false, List.cons_append]
      rw [consumeVarintUpTo, hb, if_neg (by omega), ih (n / 128) hrest, Option.map_some]
      simp only [Option.some.injEq, Prod.mk.injEq, and_true]
      omega

theorem consumeVarint_append {n : Nat} (hn : n < 2 ^ 64) (rest : List UInt8) :
    consumeVarint (appendVarint n ++ rest) = some (n, rest) :=
  consumeVarintUpTo_append 9 n hn rest

theorem appendVarint_ne_nil (n : Nat) : appendVarint n ≠ [] := by
  unfold appendVarint appendVarintUpTo
  split <;> simp

theorem length_appendVarintUpTo {more bits n : Nat} (hn : n < 2 ^ bits)
    (hfirst : bits ≠ 0 → 2 ^ (bits - 1) ≤ n) (hmore : bits ≤ 7 * more + 7) :
    (appendVarintUpTo more n).length = max 1 ((bits + 6) / 7) := by
  induction more generalizing bits n with
  | zero =>
    rw [appendVarintUpTo, List.length_singleton]
    omega
  | succ more ih =>
    rw [appendVarintUpTo]
    split
    · rename_i hsmall
      have hbits : bits ≤ 7 := by
        by_contra hlarge
        have hge := hfirst (by omega)
        have hpow : 2 ^ 7 ≤ 2 ^ (bits - 1) := Nat.pow_le_pow_right (by decide) (by omega)
        omega
      rw [List.length_singleton]
      omega
    · rename_i hlarge
      have hbits : 8 ≤ bits := by
        by_contra hsmall
        have hpow : 2 ^ bits ≤ 2 ^ 7 := Nat.pow_le_pow_right (by decide) (by omega)
        omega
      obtain ⟨rest, rfl⟩ : ∃ rest, bits = rest + 7 := ⟨bits - 7, by omega⟩
      have hpow : 2 ^ (rest + 7) = 2 ^ rest * 128 := by rw [Nat.pow_add]
      have hrest : n / 128 < 2 ^ rest := by
        rw [Nat.div_lt_iff_lt_mul (by decide)]
        omega
      have hrestFirst : 2 ^ (rest - 1) ≤ n / 128 := by
        have hsplit : 2 ^ (rest + 7 - 1) = 2 ^ (rest - 1) * 128 := by
          rw [show rest + 7 - 1 = rest - 1 + 7 by omega, Nat.pow_add]
        rw [Nat.le_div_iff_mul_le (by decide), ← hsplit]
        exact hfirst (by omega)
      rw [List.length_cons, ih hrest (fun _ => hrestFirst) (by omega)]
      omega

theorem length_of_consumeVarintUpTo {more n : Nat} {bytes rest : List UInt8}
    (h : consumeVarintUpTo more bytes = some (n, rest)) : rest.length < bytes.length := by
  induction more generalizing n bytes with
  | zero => cases h
  | succ more ih =>
    cases bytes with
    | nil => cases h
    | cons b tail =>
      rw [consumeVarintUpTo] at h
      split at h
      · split at h
        · cases h
        · simp only [Option.some.injEq, Prod.mk.injEq] at h
          simp [← h.2]
      · obtain ⟨⟨m, r⟩, hr, he⟩ := Option.map_eq_some_iff.mp h
        simp only [Prod.mk.injEq] at he
        obtain ⟨_, rfl⟩ := he
        have hlt := ih hr
        simp only [List.length_cons]
        omega

/-! ### Values -/

/-- The value of a field, by its wire type. The content of a group is not looked into. -/
inductive Value where
  | varint (n : Nat)
  | fixed64 (bytes : List UInt8)
  | bytes (bytes : List UInt8)
  | group
  | fixed32 (bytes : List UInt8)
deriving DecidableEq, Repr

/-- The first bytes and the others, if there are enough. -/
def splitBytes (n : Nat) (bytes : List UInt8) : Option (List UInt8 × List UInt8) :=
  if n ≤ bytes.length then some (bytes.take n, bytes.drop n) else none

/-- `protowire.ConsumeBytes` -/
def consumeBytes (bytes : List UInt8) : Option (List UInt8 × List UInt8) := do
  let (n, rest) ← consumeVarint bytes
  splitBytes n rest

/-- A value of another wire type than a group. -/
def consumeScalar (wireType : Nat) (bytes : List UInt8) : Option (Value × List UInt8) :=
  match wireType with
  | 0 => (consumeVarint bytes).map fun r => (.varint r.1, r.2)
  | 1 => (splitBytes 8 bytes).map fun r => (.fixed64 r.1, r.2)
  | 2 => (consumeBytes bytes).map fun r => (.bytes r.1, r.2)
  | 5 => (splitBytes 4 bytes).map fun r => (.fixed32 r.1, r.2)
  | _ => none

/-- What follows the end of a group that was just begun; `depth` more groups may be begun inside.
The fuel is at least the number of bytes. -/
def skipGroup : Nat → Nat → Nat → List UInt8 → Option (List UInt8)
  | 0, _, _, _ => none
  | fuel + 1, depth, num, bytes => do
    let (tag, rest) ← consumeVarint bytes
    if tag / 8 = 0 ∨ 2 ^ 31 - 1 < tag / 8 then none
    else if tag % 8 = 4 then if tag / 8 = num then some rest else none
    else if tag % 8 = 3 then
      match depth with
      | 0 => none
      | depth' + 1 => do
        let rest ← skipGroup fuel depth' (tag / 8) rest
        skipGroup fuel depth num rest
    else do
      let (_, rest) ← consumeScalar (tag % 8) rest
      skipGroup fuel depth num rest

/-- `protowire.DefaultRecursionLimit` -/
def recursionLimit : Nat := 10000

/-- `protowire.ConsumeFieldValue` -/
def consumeValue (num wireType : Nat) (bytes : List UInt8) : Option (Value × List UInt8) :=
  if wireType = 3 then
    (skipGroup bytes.length recursionLimit num bytes).map fun rest => (.group, rest)
  else consumeScalar wireType bytes

theorem length_of_splitBytes {n : Nat} {bytes first rest : List UInt8}
    (h : splitBytes n bytes = some (first, rest)) : rest.length ≤ bytes.length := by
  unfold splitBytes at h
  split at h
  · simp only [Option.some.injEq, Prod.mk.injEq] at h
    rw [← h.2, List.length_drop]
    omega
  · cases h

theorem length_of_consumeScalar {wireType : Nat} {bytes rest : List UInt8} {v : Value}
    (h : consumeScalar wireType bytes = some (v, rest)) : rest.length ≤ bytes.length := by
  unfold consumeScalar at h
  split at h
  · obtain ⟨⟨n, r⟩, hr, he⟩ := Option.map_eq_some_iff.mp h
    simp only [Prod.mk.injEq] at he
    have hlt := length_of_consumeVarintUpTo hr
    rw [he.2] at hlt
    omega
  · obtain ⟨⟨n, r⟩, hr, he⟩ := Option.map_eq_some_iff.mp h
    simp only [Prod.mk.injEq] at he
    exact he.2 ▸ length_of_splitBytes hr
  · obtain ⟨⟨first, r⟩, hr, he⟩ := Option.map_eq_some_iff.mp h
    simp only [Prod.mk.injEq] at he
    obtain ⟨⟨n, r'⟩, hn, hsplit⟩ := Option.bind_eq_some_iff.mp hr
    have hlt := length_of_consumeVarintUpTo hn
    have hle := length_of_splitBytes hsplit
    rw [he.2] at hle
    omega
  · obtain ⟨⟨n, r⟩, hr, he⟩ := Option.map_eq_some_iff.mp h
    simp only [Prod.mk.injEq] at he
    exact he.2 ▸ length_of_splitBytes hr
  · cases h

theorem length_of_skipGroup {fuel depth num : Nat} {bytes rest : List UInt8}
    (h : skipGroup fuel depth num bytes = some rest) : rest.length ≤ bytes.length := by
  induction fuel generalizing depth num bytes rest with
  | zero => cases h
  | succ fuel ih =>
    rw [skipGroup] at h
    obtain ⟨⟨tag, after⟩, htag, h⟩ := Option.bind_eq_some_iff.mp h
    have hlt := length_of_consumeVarintUpTo htag
    dsimp only at h
    split at h
    · cases h
    split at h
    · split at h
      · cases h
        omega
      · cases h
    split at h
    · cases depth with
      | zero => cases h
      | succ depth =>
        obtain ⟨inner, hinner, h⟩ := Option.bind_eq_some_iff.mp h
        have hle := ih hinner
        have hle' := ih h
        omega
    · obtain ⟨⟨v, inner⟩, hinner, h⟩ := Option.bind_eq_some_iff.mp h
      have hle := length_of_consumeScalar hinner
      have hle' : rest.length ≤ inner.length := ih h
      omega

/-! ### Messages -/

/-- A field of a message, with the bytes it was read from. -/
structure Field where
  num : Nat
  value : Value
  raw : List UInt8
deriving DecidableEq, Repr

/-- The first field of a message and what follows it. -/
def parseField (bytes : List UInt8) : Option (Field × List UInt8) := do
  let (tag, rest) ← consumeVarint bytes
  if tag / 8 = 0 ∨ 2 ^ 29 - 1 < tag / 8 then none
  else do
    let (value, rest) ← consumeValue (tag / 8) (tag % 8) rest
    return (⟨tag / 8, value, bytes.take (bytes.length - rest.length)⟩, rest)

/-- The fields of a message; the fuel is at least the number of bytes. -/
def parseFieldsUpTo : Nat → List UInt8 → Option (List Field)
  | _, [] => some []
  | 0, _ :: _ => none
  | fuel + 1, b :: bytes => do
    let (field, rest) ← parseField (b :: bytes)
    let fields ← parseFieldsUpTo fuel rest
    return field :: fields

def parseFields (bytes : List UInt8) : Option (List Field) := parseFieldsUpTo bytes.length bytes

/-- Decode a message into a value, field by field. -/
def unmarshalInto {α : Type} (step : α → Field → Option α) (init : α) (bytes : List UInt8) :
    Option α := do
  let fields ← parseFields bytes
  fields.foldlM step init

theorem length_of_parseField {bytes rest : List UInt8} {f : Field}
    (h : parseField bytes = some (f, rest)) : rest.length < bytes.length := by
  obtain ⟨⟨tag, after⟩, htag, h⟩ := Option.bind_eq_some_iff.mp h
  have hlt := length_of_consumeVarintUpTo htag
  dsimp only at h
  split at h
  · cases h
  · obtain ⟨⟨v, rest'⟩, hv, h⟩ := Option.bind_eq_some_iff.mp h
    have hle : rest'.length ≤ after.length := by
      unfold consumeValue at hv
      split at hv
      · obtain ⟨r, hr, he⟩ := Option.map_eq_some_iff.mp hv
        simp only [Prod.mk.injEq] at he
        exact he.2 ▸ length_of_skipGroup hr
      · exact length_of_consumeScalar hv
    simp only [pure, Option.some.injEq, Prod.mk.injEq] at h
    rw [← h.2]
    omega

theorem parseFieldsUpTo_eq {fuel : Nat} {bytes : List UInt8} (h : bytes.length ≤ fuel) :
    parseFieldsUpTo fuel bytes = parseFields bytes := by
  have hany : ∀ (m k : Nat) (bytes : List UInt8), bytes.length ≤ m → bytes.length ≤ k →
      parseFieldsUpTo m bytes = parseFieldsUpTo k bytes := by
    intro m
    induction m with
    | zero =>
      intro k bytes hm _
      have hnil : bytes = [] := List.eq_nil_of_length_eq_zero (by omega)
      subst hnil
      cases k <;> rfl
    | succ m ih =>
      intro k bytes hm hk
      cases bytes with
      | nil => cases k <;> rfl
      | cons b bytes =>
        cases k with
        | zero => simp at hk
        | succ k =>
          simp only [parseFieldsUpTo]
          cases hf : parseField (b :: bytes) with
          | none => rfl
          | some r =>
            obtain ⟨f, rest⟩ := r
            have hlt := length_of_parseField hf
            simp only [Option.bind_eq_bind, Option.bind_some]
            rw [ih k rest (by omega) (by omega)]
  exact hany fuel bytes.length bytes h le_rfl

theorem parseFields_of_parseField {bytes rest : List UInt8} {f : Field}
    (h : parseField bytes = some (f, rest)) :
    parseFields bytes = (parseFields rest).map (f :: ·) := by
  have hlt := length_of_parseField h
  cases bytes with
  | nil => simp at hlt
  | cons b bytes =>
    have hle : rest.length ≤ bytes.length := by simpa [Nat.lt_succ_iff] using hlt
    unfold parseFields
    rw [List.length_cons, parseFieldsUpTo, h]
    simp only [Option.bind_eq_bind, Option.bind_some]
    rw [parseFieldsUpTo_eq hle]
    change _ = (parseFields rest).map (f :: ·)
    cases parseFields rest <;> rfl

theorem parseFields_zero_cons (bytes : List UInt8) : parseFields (0 :: bytes) = none := by
  have htag : consumeVarint (0 :: bytes) = some (0, bytes) := rfl
  have hfield : parseField (0 :: bytes) = none := by
    unfold parseField
    rw [htag]
    rfl
  unfold parseFields
  rw [List.length_cons, parseFieldsUpTo, hfield]
  rfl

@[simp] theorem unmarshalInto_nil {α : Type} (step : α → Field → Option α) (a : α) :
    unmarshalInto step a [] = some a := rfl

theorem unmarshalInto_of_parseField {α : Type} (step : α → Field → Option α) (a : α)
    {bytes rest : List UInt8} {f : Field} (h : parseField bytes = some (f, rest)) :
    unmarshalInto step a bytes = (step a f).bind (unmarshalInto step · rest) := by
  unfold unmarshalInto
  rw [parseFields_of_parseField h]
  cases parseFields rest with
  | none => cases step a f <;> rfl
  | some fields => cases h : step a f <;> simp [List.foldlM_cons, h]

/-! ### Encoding -/

def varintField (num n : Nat) : List UInt8 := appendVarint (8 * num) ++ appendVarint n

def bytesField (num : Nat) (bytes : List UInt8) : List UInt8 :=
  appendVarint (8 * num + 2) ++ (appendVarint bytes.length ++ bytes)

section Encoding

variable {num : Nat} (hnum : 0 < num) (hmax : num < 2 ^ 29)

include hnum hmax

theorem parseField_varintField {n : Nat} (hn : n < 2 ^ 64) (rest : List UInt8) :
    parseField (varintField num n ++ rest) =
      some (⟨num, .varint n, varintField num n⟩, rest) := by
  have htag : consumeVarint (varintField num n ++ rest) =
      some (8 * num, appendVarint n ++ rest) := by
    rw [varintField, List.append_assoc]
    exact consumeVarint_append (by omega) _
  unfold parseField
  rw [htag]
  simp only [Option.bind_eq_bind, Option.bind_some]
  rw [if_neg (by omega), show 8 * num / 8 = num by omega, show 8 * num % 8 = 0 by omega]
  simp [consumeValue, consumeScalar, consumeVarint_append hn]

theorem parseField_bytesField {bytes : List UInt8} (hsize : bytes.length < 2 ^ 64)
    (rest : List UInt8) :
    parseField (bytesField num bytes ++ rest) =
      some (⟨num, .bytes bytes, bytesField num bytes⟩, rest) := by
  have htag : consumeVarint (bytesField num bytes ++ rest) =
      some (8 * num + 2, appendVarint bytes.length ++ (bytes ++ rest)) := by
    rw [bytesField, List.append_assoc, List.append_assoc]
    exact consumeVarint_append (by omega) _
  have hvalue : consumeBytes (appendVarint bytes.length ++ (bytes ++ rest)) =
      some (bytes, rest) := by
    unfold consumeBytes
    rw [consumeVarint_append hsize]
    simp [splitBytes]
  unfold parseField
  rw [htag]
  simp only [Option.bind_eq_bind, Option.bind_some]
  rw [if_neg (by omega), show (8 * num + 2) / 8 = num by omega,
    show (8 * num + 2) % 8 = 2 by omega]
  simp [consumeValue, consumeScalar, hvalue]

theorem unmarshalInto_varintField {α : Type} (step : α → Field → Option α) (a : α) {n : Nat}
    (hn : n < 2 ^ 64) (rest : List UInt8) :
    unmarshalInto step a (varintField num n ++ rest) =
      (step a ⟨num, .varint n, varintField num n⟩).bind (unmarshalInto step · rest) :=
  unmarshalInto_of_parseField step a (parseField_varintField hnum hmax hn rest)

theorem unmarshalInto_bytesField {α : Type} (step : α → Field → Option α) (a : α)
    {bytes : List UInt8} (hsize : bytes.length < 2 ^ 64) (rest : List UInt8) :
    unmarshalInto step a (bytesField num bytes ++ rest) =
      (step a ⟨num, .bytes bytes, bytesField num bytes⟩).bind (unmarshalInto step · rest) :=
  unmarshalInto_of_parseField step a (parseField_bytesField hnum hmax hsize rest)

end Encoding

/-! ### Text -/

def ValidUtf8 (bytes : List UInt8) : Prop := (ByteArray.mk bytes.toArray).IsValidUTF8

instance (bytes : List UInt8) : Decidable (ValidUtf8 bytes) :=
  inferInstanceAs (Decidable (ByteArray.IsValidUTF8 _))

/-- The text of a string field, which must be valid UTF-8. -/
def text (bytes : List UInt8) : Option String := String.fromUTF8? (ByteArray.mk bytes.toArray)

theorem text_isSome_iff {bytes : List UInt8} : (text bytes).isSome = true ↔ ValidUtf8 bytes := by
  unfold text String.fromUTF8? ValidUtf8
  split
  · rename_i h
    simpa using h
  · rename_i h
    simpa using h

theorem text_textBytes (s : String) : text (textBytes s) = some s := by
  have harray : ByteArray.mk (textBytes s).toArray = s.toByteArray := by
    unfold textBytes
    rw [Array.toArray_toList]
  unfold text String.fromUTF8?
  rw [harray, dif_pos s.isValidUTF8]
  rfl

theorem eq_empty_of_textBytes_eq_nil {s : String} (h : textBytes s = []) : s = "" := by
  have hs := text_textBytes s
  have hempty : text (textBytes "") = some "" := text_textBytes ""
  rw [h] at hs
  exact Option.some.inj (hs.symm.trans hempty)

/-! ### Scalar fields

A scalar that has its default value is left out. -/

/-- The two's complement of an `int64`. -/
def uint64 (i : Int) : Nat := (i % 2 ^ 64).toNat

/-- The `int64` of a varint. -/
def int64 (n : Nat) : Int := if n < 2 ^ 63 then n else n - 2 ^ 64

/-- The `int32` of a varint, which is cut to it. -/
def int32 (n : Nat) : Int := if n % 2 ^ 32 < 2 ^ 31 then n % 2 ^ 32 else n % 2 ^ 32 - 2 ^ 32

theorem uint64_lt (i : Int) : uint64 i < 2 ^ 64 := by
  unfold uint64
  omega

theorem int64_uint64 {i : Int} (hlow : -2 ^ 63 ≤ i) (hhigh : i < 2 ^ 63) :
    int64 (uint64 i) = i := by
  unfold int64 uint64
  split <;> omega

theorem int32_uint64 {i : Int} (hlow : -2 ^ 31 ≤ i) (hhigh : i < 2 ^ 31) :
    int32 (uint64 i) = i := by
  unfold int32 uint64
  split <;> omega

/-- A field of an `int64`, an `int32` or an enum. -/
def int64Field (num : Nat) (i : Int) : List UInt8 :=
  if i = 0 then [] else varintField num (uint64 i)

def opaqueField (num : Nat) (bytes : List UInt8) : List UInt8 :=
  if bytes = [] then [] else bytesField num bytes

def stringField (num : Nat) (s : String) : List UInt8 := opaqueField num (textBytes s)

section Scalars

variable {num : Nat} (hnum : 0 < num) (hmax : num < 2 ^ 29)

variable {α : Type} {step : α → Field → Option α} {a a' : α}

include hnum hmax

theorem unmarshalInto_int64Field {i : Int} (hdefault : i = 0 → a = a')
    (hstep : step a ⟨num, .varint (uint64 i), varintField num (uint64 i)⟩ = some a')
    (rest : List UInt8) :
    unmarshalInto step a (int64Field num i ++ rest) = unmarshalInto step a' rest := by
  unfold int64Field
  split
  · rename_i h
    rw [List.nil_append, hdefault h]
  · rw [unmarshalInto_varintField hnum hmax step a (uint64_lt i), hstep, Option.bind_some]

theorem unmarshalInto_opaqueField {bytes : List UInt8} (hsize : bytes.length < 2 ^ 64)
    (hdefault : bytes = [] → a = a')
    (hstep : step a ⟨num, .bytes bytes, bytesField num bytes⟩ = some a') (rest : List UInt8) :
    unmarshalInto step a (opaqueField num bytes ++ rest) = unmarshalInto step a' rest := by
  unfold opaqueField
  split
  · rename_i h
    rw [List.nil_append, hdefault h]
  · rw [unmarshalInto_bytesField hnum hmax step a hsize, hstep, Option.bind_some]

theorem unmarshalInto_stringField {s : String} (hsize : (textBytes s).length < 2 ^ 64)
    (set : String → α) (hdefault : a = set "")
    (hstep : step a ⟨num, .bytes (textBytes s), bytesField num (textBytes s)⟩ =
      (text (textBytes s)).map set) (rest : List UInt8) :
    unmarshalInto step a (stringField num s ++ rest) = unmarshalInto step (set s) rest := by
  have hset : textBytes s = [] → a = set s := by
    intro h
    rw [hdefault, eq_empty_of_textBytes_eq_nil h]
  rw [text_textBytes, Option.map_some] at hstep
  exact unmarshalInto_opaqueField hnum hmax hsize hset hstep rest

end Scalars

theorem length_le_bytesField (num : Nat) (bytes : List UInt8) :
    bytes.length ≤ (bytesField num bytes).length := by
  unfold bytesField
  simp only [List.length_append]
  omega

theorem length_le_opaqueField (num : Nat) (bytes : List UInt8) :
    bytes.length ≤ (opaqueField num bytes).length := by
  unfold opaqueField
  split
  · rename_i h
    simp [h]
  · exact length_le_bytesField num bytes

end OpenAudio.Protobuf
