import Mathlib.Data.List.Basic
import Mathlib.Data.Char
import Mathlib.Algebra.Group.Nat.Defs
import Mathlib.Algebra.Group.Int.Defs

/-!
# Text as Go programs handle it

The parts of Go's `strings`, `strconv` and `encoding/hex` a verified program calls, over Lean's
`String` (a sequence of code points, as every Go string decoded from a protobuf or JSON text is).
Unicode case mappings come from Go's tables; they enter as a structure that carries the facts about
them the proofs rest on.
-/

namespace OpenAudio

def nul : Char := Char.ofNat 0

def NulFree (s : String) : Prop := nul ∉ s.toList

theorem toList_eq_of_ofList {s : String} {cs : List Char} (h : s = String.ofList cs) :
    s.toList = cs := by rw [h, String.toList_ofList]

def textBytes (s : String) : List UInt8 := s.toByteArray.data.toList

theorem textBytes_eq (s : String) : textBytes s = s.toList.flatMap String.utf8EncodeChar := by
  have h : (String.ofList s.toList).toByteArray = s.toByteArray := by rw [String.ofList_toList]
  unfold textBytes
  rw [← h, String.toByteArray_ofList, List.utf8Encode]
  simp

private theorem zero_ne_ofNat {n : Nat} (hpos : 0 < n) (hlt : n < 256) :
    (0 : UInt8) ≠ UInt8.ofNat n := by
  intro he
  have hn := congrArg UInt8.toNat he
  rw [UInt8.toNat_ofNat'] at hn
  simp at hn
  omega

theorem eq_nul_of_zero_mem {c : Char} (h : (0 : UInt8) ∈ String.utf8EncodeChar c) : c = nul := by
  by_contra hc
  have hpos : 0 < c.val.toNat := by
    apply Nat.pos_of_ne_zero
    intro hv
    exact hc (Char.ext (UInt32.toNat_inj.mp hv))
  unfold String.utf8EncodeChar at h
  simp only at h
  split at h
  · exact zero_ne_ofNat hpos (by omega) (List.mem_singleton.mp h)
  split at h
  · simp only [List.mem_cons, List.not_mem_nil, or_false] at h
    rcases h with h | h <;> exact zero_ne_ofNat (by omega) (by omega) h
  split at h
  · simp only [List.mem_cons, List.not_mem_nil, or_false] at h
    rcases h with h | h | h <;> exact zero_ne_ofNat (by omega) (by omega) h
  · simp only [List.mem_cons, List.not_mem_nil, or_false] at h
    rcases h with h | h | h | h <;> exact zero_ne_ofNat (by omega) (by omega) h

theorem zero_mem_textBytes_iff (s : String) : 0 ∈ textBytes s ↔ nul ∈ s.toList := by
  rw [textBytes_eq, List.mem_flatMap]
  constructor
  · rintro ⟨c, hc, h⟩
    rwa [eq_nul_of_zero_mem h] at hc
  · intro h
    exact ⟨nul, h, by decide⟩

theorem utf8EncodeChar_ascii {c : Char} (h : c.toNat < 128) :
    String.utf8EncodeChar c = [UInt8.ofNat c.toNat] := by
  have hle : c.val.toNat ≤ 127 := by
    have hv : c.toNat = c.val.toNat := rfl
    omega
  unfold String.utf8EncodeChar
  simp only [hle, if_true]
  rfl

theorem textBytes_ascii {s : String} (h : ∀ c ∈ s.toList, c.toNat < 128) :
    (textBytes s).map (fun b => Char.ofNat b.toNat) = s.toList := by
  rw [textBytes_eq]
  generalize s.toList = cs at h
  induction cs with
  | nil => rfl
  | cons c cs ih =>
    rw [List.forall_mem_cons] at h
    have hlt : c.toNat % 256 = c.toNat := Nat.mod_eq_of_lt (by omega)
    simp [utf8EncodeChar_ascii h.1, ih h.2, hlt]

theorem textBytes_ofList_ascii {bytes : List UInt8} (h : ∀ b ∈ bytes, b.toNat < 128) :
    textBytes (String.ofList (bytes.map fun b => Char.ofNat b.toNat)) = bytes := by
  have hcode : ∀ n < 128, (Char.ofNat n).toNat = n := by decide
  rw [textBytes_eq, String.toList_ofList]
  induction bytes with
  | nil => rfl
  | cons b bytes ih =>
    rw [List.forall_mem_cons] at h
    have hb := hcode _ h.1
    rw [List.map_cons, List.flatMap_cons, utf8EncodeChar_ascii (by omega), ih h.2, hb,
      UInt8.ofNat_toNat]
    rfl

theorem toNat_lt_of_utf8EncodeChar {c : Char}
    (h : ∀ b ∈ String.utf8EncodeChar c, b.toNat < 128) : c.toNat < 128 := by
  have hv : c.toNat = c.val.toNat := rfl
  have hlarge : ∀ n, 128 ≤ n → n < 256 → 128 ≤ (UInt8.ofNat n).toNat := by
    intro n hn hlt
    rwa [UInt8.toNat_ofNat', Nat.mod_eq_of_lt (by omega)]
  unfold String.utf8EncodeChar at h
  simp only at h
  split at h
  · omega
  -- the first byte of a longer encoding is above 127
  split at h
  · exact absurd (h _ List.mem_cons_self) (Nat.not_lt.mpr (hlarge _ (by omega) (by omega)))
  split at h
  · exact absurd (h _ List.mem_cons_self) (Nat.not_lt.mpr (hlarge _ (by omega) (by omega)))
  · exact absurd (h _ List.mem_cons_self) (Nat.not_lt.mpr (hlarge _ (by omega) (by omega)))

-- decided on the bytes, which a closed text evaluates to sooner than to its characters
instance (s : String) : Decidable (NulFree s) :=
  decidable_of_iff (0 ∉ textBytes s) (not_congr (zero_mem_textBytes_iff s))

theorem nulFree_empty : NulFree "" := by decide

/-- KELVIN SIGN, which lowercases to `k`. -/
def kelvin : Char := Char.ofNat 0x212A

/-- LATIN SMALL LETTER LONG S, which folds with `s`. -/
def longS : Char := Char.ofNat 0x17F

/-- LATIN CAPITAL LETTER I WITH DOT ABOVE, which lowercases to `i`. -/
def dottedI : Char := Char.ofNat 0x130

theorem ascii_forall {P : Char → Prop} (h : ∀ n, n < 128 → P (Char.ofNat n)) (c : Char)
    (hc : c.toNat < 128) : P c := by
  have hn := h c.toNat hc
  rwa [Char.ofNat_toNat] at hn

theorem toNat_lt_of_toLower {c : Char} (h : c.toLower.toNat < 128) : c.toNat < 128 := by
  unfold Char.toLower at h
  split at h
  · rename_i hc
    have hle := UInt32.le_iff_toNat_le.mp hc.2
    have hz : ('Z' : Char).val.toNat = 90 := rfl
    have hv : c.toNat = c.val.toNat := rfl
    omega
  · exact h

theorem toNat_lt_of_toUpper {c : Char} (h : c.toUpper.toNat < 128) : c.toNat < 128 := by
  unfold Char.toUpper at h
  split at h
  · rename_i hc
    have hle := UInt32.le_iff_toNat_le.mp hc.2
    have hz : ('z' : Char).val.toNat = 122 := rfl
    have hv : c.toNat = c.val.toNat := rfl
    omega
  · exact h

theorem toUpper_of_not_ascii {c : Char} (h : ¬ c.toNat < 128) : c.toUpper = c := by
  unfold Char.toUpper
  split
  · rename_i hc
    have hle := UInt32.le_iff_toNat_le.mp hc.2
    have hz : ('z' : Char).val.toNat = 122 := rfl
    have hv : c.toNat = c.val.toNat := rfl
    omega
  · rfl

/-- Go's `unicode.ToLower`, the representative `unicode.SimpleFold` orbits are compared by, and
`unicode.IsPrint`. Outside ASCII only the code points that meet ASCII are pinned down. -/
structure CaseTables where
  lower : Char → Char
  fold : Char → Char
  isPrint : Char → Bool
  lower_ascii : ∀ c : Char, c.toNat < 128 → lower c = c.toLower
  lower_kelvin : lower kelvin = 'k'
  lower_dottedI : lower dottedI = 'i'
  ascii_of_lower : ∀ c : Char, (lower c).toNat < 128 → c.toNat < 128 ∨ c = kelvin ∨ c = dottedI
  fold_ascii : ∀ c : Char, c.toNat < 128 → fold c = c.toUpper
  fold_kelvin : fold kelvin = 'K'
  fold_longS : fold longS = 'S'
  ascii_of_fold : ∀ c : Char, (fold c).toNat < 128 → c.toNat < 128 ∨ c = kelvin ∨ c = longS

namespace CaseTables

def ascii : CaseTables where
  lower c := if c = kelvin then 'k' else if c = dottedI then 'i' else c.toLower
  fold c := if c = kelvin then 'K' else if c = longS then 'S' else c.toUpper
  isPrint c := 32 ≤ c.toNat && c.toNat < 127
  lower_ascii c hc := by
    have hk : c ≠ kelvin := by rintro rfl; exact absurd hc (by decide)
    have hi : c ≠ dottedI := by rintro rfl; exact absurd hc (by decide)
    rw [if_neg hk, if_neg hi]
  lower_kelvin := by decide
  lower_dottedI := by decide
  ascii_of_lower c hc := by
    by_cases hk : c = kelvin
    · exact .inr (.inl hk)
    by_cases hi : c = dottedI
    · exact .inr (.inr hi)
    rw [if_neg hk, if_neg hi] at hc
    exact .inl (toNat_lt_of_toLower hc)
  fold_ascii c hc := by
    have hk : c ≠ kelvin := by rintro rfl; exact absurd hc (by decide)
    have hs : c ≠ longS := by rintro rfl; exact absurd hc (by decide)
    rw [if_neg hk, if_neg hs]
  fold_kelvin := by decide
  fold_longS := by decide
  ascii_of_fold c hc := by
    by_cases hk : c = kelvin
    · exact .inr (.inl hk)
    by_cases hs : c = longS
    · exact .inr (.inr hs)
    rw [if_neg hk, if_neg hs] at hc
    exact .inl (toNat_lt_of_toUpper hc)

variable (u : CaseTables)

/-- `strings.ToLower`. -/
def toLower (s : String) : String := String.ofList (s.toList.map u.lower)

/-- The fold of a text: two texts are equal under `strings.EqualFold` when their folds are. -/
def foldText (s : String) : List Char := s.toList.map u.fold

/-- `strings.EqualFold`. -/
def equalFold (s t : String) : Bool := u.foldText s == u.foldText t

/-- One character of `strconv.Quote`. -/
def quoteChar (c : Char) : List Char :=
  let hex (digits : Nat) : List Char :=
    (List.range digits).reverse.map fun i => Nat.digitChar (c.toNat / 16 ^ i % 16)
  if c = '"' then ['\\', '"']
  else if c = '\\' then ['\\', '\\']
  else if u.isPrint c then [c]
  else match c.toNat with
    | 7 => ['\\', 'a']
    | 8 => ['\\', 'b']
    | 12 => ['\\', 'f']
    | 10 => ['\\', 'n']
    | 13 => ['\\', 'r']
    | 9 => ['\\', 't']
    | 11 => ['\\', 'v']
    | n =>
      if n < 32 ∨ n = 127 then '\\' :: 'x' :: hex 2
      else if n < 0x10000 then '\\' :: 'u' :: hex 4
      else '\\' :: 'U' :: hex 8

/-- `strconv.Quote`, the verb `%q`. -/
def quote (s : String) : String :=
  String.ofList ('"' :: s.toList.flatMap u.quoteChar ++ ['"'])

theorem lower_eq_nul {c : Char} (h : u.lower c = nul) : c = nul := by
  have hlow : (u.lower c).toNat < 128 := by rw [h]; decide
  rcases u.ascii_of_lower c hlow with hc | rfl | rfl
  · rw [u.lower_ascii c hc] at h
    have key : ∀ d : Char, d.toNat < 128 → d.toLower = nul → d = nul :=
      ascii_forall (by decide)
    exact key c hc h
  · rw [u.lower_kelvin] at h; exact absurd h (by decide)
  · rw [u.lower_dottedI] at h; exact absurd h (by decide)

theorem lower_nul : u.lower nul = nul := by
  rw [u.lower_ascii nul (by decide)]; decide

theorem nulFree_toLower_iff (s : String) : NulFree (u.toLower s) ↔ NulFree s := by
  unfold NulFree toLower
  rw [String.toList_ofList, List.mem_map, not_iff_not]
  constructor
  · rintro ⟨c, hc, h⟩
    rwa [← u.lower_eq_nul h]
  · intro h
    exact ⟨nul, h, u.lower_nul⟩

theorem toLower_eq_empty_iff (s : String) : u.toLower s = "" ↔ s = "" := by
  rw [String.ext_iff, String.ext_iff, toLower, String.toList_ofList]
  exact List.map_eq_nil_iff

/-- Lowercasing a second time changes nothing, as in Go's tables. -/
def LowerIdempotent : Prop := ∀ c, u.lower (u.lower c) = u.lower c

variable {u} in
theorem LowerIdempotent.toLower_toLower (h : u.LowerIdempotent) (s : String) :
    u.toLower (u.toLower s) = u.toLower s := by
  unfold toLower
  rw [String.toList_ofList, List.map_map]
  congr 1
  apply List.map_congr_left
  intro c _
  exact h c

theorem lowerIdempotent_ascii : ascii.LowerIdempotent := by
  intro c
  by_cases hascii : c.toNat < 128
  · exact ascii_forall (P := fun c => ascii.lower (ascii.lower c) = ascii.lower c) (by decide) c
      hascii
  by_cases hk : c = kelvin
  · subst hk
    decide
  by_cases hi : c = dottedI
  · subst hi
    decide
  · have hsame : c.toLower = c := by
      unfold Char.toLower
      split
      · rename_i h
        have hle := UInt32.le_iff_toNat_le.mp h.2
        have hz : ('Z' : Char).val.toNat = 90 := rfl
        have hv : c.toNat = c.val.toNat := rfl
        omega
      · rfl
    have hlow : ascii.lower c = c := by simp [ascii, hk, hi, hsame]
    rw [hlow, hlow]

theorem equalFold_iff (s t : String) : u.equalFold s t = true ↔ u.foldText s = u.foldText t := by
  simp [equalFold]

theorem equalFold_self (s : String) : u.equalFold s s = true := by simp [equalFold]

end CaseTables

/-! ### Trimming -/

/-- The code points with Unicode's White_Space property, `unicode.IsSpace`. -/
def isGoSpace (c : Char) : Bool :=
  let n := c.toNat
  (9 ≤ n && n ≤ 13) || n == 32 || n == 0x85 || n == 0xA0 || n == 0x1680 ||
    (0x2000 ≤ n && n ≤ 0x200A) || n == 0x2028 || n == 0x2029 || n == 0x202F || n == 0x205F ||
    n == 0x3000

/-- `strings.TrimSpace`. -/
def trimSpace (s : String) : String :=
  String.ofList ((s.toList.dropWhile isGoSpace).reverse.dropWhile isGoSpace).reverse

/-- `strings.TrimPrefix`. -/
def trimPrefix (s pre : String) : String :=
  if pre.toList.isPrefixOf s.toList then String.ofList (s.toList.drop pre.toList.length) else s

/-! ### Hexadecimal -/

/-- The value of a hexadecimal digit of either case. -/
def hexDigit (c : Char) : Option Nat :=
  let n := c.toNat
  if 48 ≤ n ∧ n ≤ 57 then some (n - 48)
  else if 97 ≤ n ∧ n ≤ 102 then some (n - 87)
  else if 65 ≤ n ∧ n ≤ 70 then some (n - 55)
  else none

def hexBytes : List Char → Option (List UInt8)
  | [] => some []
  | [_] => none
  | a :: b :: rest => do
    let x ← hexDigit a
    let y ← hexDigit b
    let bytes ← hexBytes rest
    return UInt8.ofNat (16 * x + y) :: bytes

/-- `hex.DecodeString`, which looks at the bytes of the text. -/
def decodeHex (s : String) : Option (List UInt8) :=
  hexBytes ((textBytes s).map fun b => Char.ofNat b.toNat)

def bigEndian : Nat → Nat → List UInt8
  | 0, _ => []
  | size + 1, n => UInt8.ofNat (n / 256 ^ size) :: bigEndian size n

theorem length_bigEndian (size n : Nat) : (bigEndian size n).length = size := by
  induction size with
  | zero => rfl
  | succ size ih => rw [bigEndian, List.length_cons, ih]

def hexChars (bytes : List UInt8) : List Char :=
  bytes.flatMap fun b => [Nat.digitChar (b.toNat / 16), Nat.digitChar (b.toNat % 16)]

/-- `hex.EncodeToString`. -/
def encodeHex (bytes : List UInt8) : String := String.ofList (hexChars bytes)

/-! ### Integers -/

def IsInt64 (n : Int) : Prop := -2 ^ 63 ≤ n ∧ n < 2 ^ 63

instance (n : Int) : Decidable (IsInt64 n) := inferInstanceAs (Decidable (_ ∧ _))

def wrapInt64 (n : Int) : Int := (n + 2 ^ 63) % 2 ^ 64 - 2 ^ 63

theorem wrapInt64_of_isInt64 {n : Int} (h : IsInt64 n) : wrapInt64 n = n := by
  unfold wrapInt64
  unfold IsInt64 at h
  omega

/-- What a Go program's text and number conversions depend on besides the language: the Unicode
tables, and what a float64 outside the range of int64 converts to, which Go leaves to the
platform. -/
structure GoRuntime extends CaseTables where
  int64OfFloat : Int → Int
  int64OfFloat_of_int64 : ∀ n, IsInt64 n → int64OfFloat n = n

def GoRuntime.amd64 : GoRuntime where
  toCaseTables := .ascii
  int64OfFloat n := if IsInt64 n then n else -2 ^ 63
  int64OfFloat_of_int64 _ h := if_pos h

/-- The number a nonempty run of decimal digits denotes. -/
def decimalDigits (cs : List Char) : Option Nat :=
  if cs = [] ∨ cs.any (fun c => !c.isDigit) then none
  else some (cs.foldl (fun n c => 10 * n + (c.toNat - 48)) 0)

/-- `strconv.ParseInt(s, 10, 64)`. -/
def parseInt64 (s : String) : Option Int :=
  let signed : Option Int := match s.toList with
    | '-' :: cs => (decimalDigits cs).map fun n => -(n : Int)
    | '+' :: cs => (decimalDigits cs).map Int.ofNat
    | cs => (decimalDigits cs).map Int.ofNat
  signed.filter fun n => decide (IsInt64 n)

end OpenAudio
