import OpenAudio.Lib.GoText
import Mathlib.Data.String.Basic
import Mathlib.Tactic.Linarith

/-!
# Bytes as text

The encodings of bytes a Go program stores and signs: UTF-8, hexadecimal in either case, and
standard base64. What a store needs to know about them is that encoded text never holds U+0000,
and that text which decodes never did.
-/

namespace OpenAudio

/-- `string(rune(n))`: the character with that code, U+FFFD where there is none. -/
def runeText (n : Int) : String :=
  let code := (n + 2 ^ 31) % 2 ^ 32 - 2 ^ 31
  if 0 ≤ code ∧ code.toNat.isValidChar then String.singleton (Char.ofNat code.toNat)
  else String.singleton (Char.ofNat 0xFFFD)

/-- A code `string(rune(n))` has a character for. -/
def IsRune (n : Int) : Prop := (0 ≤ n ∧ n < 0xD800) ∨ (0xDFFF < n ∧ n < 0x110000)

instance (n : Int) : Decidable (IsRune n) := inferInstanceAs (Decidable (_ ∨ _))

theorem isRune_iff {n : Int} : IsRune n ↔ 0 ≤ n ∧ n.toNat.isValidChar := by
  unfold IsRune Nat.isValidChar
  omega

/-- The code of the character that `string(rune(n))` is. -/
def runeCode (n : Int) : Int :=
  let code := (n + 2 ^ 31) % 2 ^ 32 - 2 ^ 31
  if IsRune code then code else 0xFFFD

theorem isRune_runeCode (n : Int) : IsRune (runeCode n) := by
  unfold runeCode
  dsimp only
  split
  · assumption
  · decide

theorem runeText_eq (n : Int) : runeText n = String.singleton (Char.ofNat (runeCode n).toNat) := by
  simp only [runeText, runeCode, isRune_iff]
  split
  · rfl
  · rfl

/-- Two numbers have one text exactly if they are written with one code. -/
theorem runeText_inj {m n : Int} : runeText m = runeText n ↔ runeCode m = runeCode n := by
  refine ⟨fun h => ?_, fun h => by rw [runeText_eq, runeText_eq, h]⟩
  rw [runeText_eq, runeText_eq] at h
  have hchar : Char.ofNat (runeCode m).toNat = Char.ofNat (runeCode n).toNat := by
    have := congrArg String.toList h
    simpa using this
  have hcode : ∀ k : Nat, k.isValidChar → (Char.ofNat k).toNat = k := by
    intro k hk
    rw [Char.ofNat, dif_pos hk]
    rfl
  obtain ⟨hm, hvalid⟩ := isRune_iff.mp (isRune_runeCode m)
  obtain ⟨hn, hvalid'⟩ := isRune_iff.mp (isRune_runeCode n)
  have hnat : (runeCode m).toNat = (runeCode n).toNat := by
    rw [← hcode _ hvalid, hchar, hcode _ hvalid']
  omega

/-! ### NUL-free text -/

theorem nulFree_of_forall {s : String} {p : Char → Prop} (h : ∀ c ∈ s.toList, p c)
    (hp : ¬ p nul) : NulFree s := fun hmem => hp (h nul hmem)

/-! ### Padded decimals -/

/-- `%0wd` of a number that is not negative. -/
def paddedDecimal (width n : Nat) : String :=
  String.ofList ((Nat.toDigits 10 n).leftpad width '0')

theorem ofDigitChars_lt_pow {cs : List Char} (h : ∀ c ∈ cs, c.isDigit = true) :
    Nat.ofDigitChars 10 cs 0 < 10 ^ cs.length := by
  induction cs with
  | nil => decide
  | cons c cs ih =>
    have hc : c.toNat - '0'.toNat < 10 := by
      have hdigit := Char.isDigit_iff_toNat.mp (h c List.mem_cons_self)
      simp only [Char.reduceToNat] at hdigit ⊢
      omega
    have hcs := ih fun c' hc' => h c' (List.mem_cons_of_mem c hc')
    rw [Nat.ofDigitChars_cons, Nat.ofDigitChars_eq_ofDigitChars_zero, List.length_cons, pow_succ]
    nlinarith

theorem ofDigitChars_lt_of_lt {cs ds : List Char} (hlength : cs.length = ds.length)
    (hcs : ∀ c ∈ cs, c.isDigit = true) (hds : ∀ d ∈ ds, d.isDigit = true) (h : cs < ds) :
    Nat.ofDigitChars 10 cs 0 < Nat.ofDigitChars 10 ds 0 := by
  induction cs generalizing ds with
  | nil =>
    rw [List.eq_nil_of_length_eq_zero hlength.symm] at h
    exact absurd h (lt_irrefl _)
  | cons c cs ih =>
    obtain ⟨d, ds, rfl⟩ := List.exists_cons_of_length_eq_add_one hlength.symm
    rw [List.length_cons, List.length_cons, Nat.succ_inj] at hlength
    rw [Nat.ofDigitChars_cons, Nat.ofDigitChars_cons, Nat.ofDigitChars_eq_ofDigitChars_zero,
      Nat.ofDigitChars_eq_ofDigitChars_zero (l := ds), ← hlength]
    have hcs' : ∀ c' ∈ cs, c'.isDigit = true := fun c' hc' => hcs c' (List.mem_cons_of_mem c hc')
    have hds' : ∀ d' ∈ ds, d'.isDigit = true := fun d' hd' => hds d' (List.mem_cons_of_mem d hd')
    rcases List.cons_lt_cons_iff.mp h with hlt | ⟨rfl, hlt⟩
    · -- the leading digit decides, whatever the others are
      have hvalue := ofDigitChars_lt_pow hcs'
      have hdigit := Char.isDigit_iff_toNat.mp (hcs c List.mem_cons_self)
      have hstep : c.toNat - '0'.toNat + 1 ≤ d.toNat - '0'.toNat := by
        have : c.toNat < d.toNat := hlt
        simp only [Char.reduceToNat] at hdigit ⊢
        omega
      nlinarith [Nat.mul_le_mul_left (10 ^ cs.length) hstep]
    · exact Nat.add_lt_add_left (ih hlength hcs' hds' hlt) _

theorem isDigit_of_mem_leftpad {w n : Nat} {c : Char}
    (hc : c ∈ (Nat.toDigits 10 n).leftpad w '0') : c.isDigit = true := by
  rcases List.mem_append.mp hc with hc | hc
  · rw [List.eq_of_mem_replicate hc]
    decide
  · exact Nat.isDigit_of_mem_toDigits (by decide) (by decide) hc

theorem length_leftpad_toDigits {w n : Nat} (h : n < 10 ^ (w + 1)) :
    ((Nat.toDigits 10 n).leftpad (w + 1) '0').length = w + 1 := by
  have hdigits := (Nat.length_toDigits_le_iff (by decide) (Nat.succ_pos w)).mpr h
  rw [List.length_leftpad]
  exact max_eq_left hdigits

theorem ofDigitChars_leftpad (w n : Nat) :
    Nat.ofDigitChars 10 ((Nat.toDigits 10 n).leftpad w '0') 0 = n := by
  rw [List.leftpad, Nat.ofDigitChars_append, Nat.ofDigitChars_replicate_zero, Nat.mul_zero,
    Nat.ofDigitChars_ten_toDigits]

theorem append_lt_append_of_length_eq {cs ds : List Char} (hlength : cs.length = ds.length)
    (h : cs < ds) (es : List Char) : cs ++ es < ds ++ es := by
  induction cs generalizing ds with
  | nil =>
    rw [List.eq_nil_of_length_eq_zero hlength.symm] at h
    exact absurd h (lt_irrefl _)
  | cons c cs ih =>
    obtain ⟨d, ds, rfl⟩ := List.exists_cons_of_length_eq_add_one hlength.symm
    rw [List.length_cons, List.length_cons, Nat.succ_inj] at hlength
    rw [List.cons_append, List.cons_append, List.cons_lt_cons_iff]
    exact (List.cons_lt_cons_iff.mp h).imp id fun heq => ⟨heq.1, ih hlength heq.2⟩

theorem paddedDecimal_lt {w m n : Nat} (hn : n < 10 ^ (w + 1)) (h : m < n) (before after : String) :
    before ++ paddedDecimal (w + 1) m ++ after < before ++ paddedDecimal (w + 1) n ++ after := by
  have hlength : ((Nat.toDigits 10 m).leftpad (w + 1) '0').length =
      ((Nat.toDigits 10 n).leftpad (w + 1) '0').length := by
    rw [length_leftpad_toDigits (h.trans hn), length_leftpad_toDigits hn]
  have hlt : (Nat.toDigits 10 m).leftpad (w + 1) '0' < (Nat.toDigits 10 n).leftpad (w + 1) '0' := by
    rcases lt_trichotomy ((Nat.toDigits 10 m).leftpad (w + 1) '0')
      ((Nat.toDigits 10 n).leftpad (w + 1) '0') with hlt | heq | hgt
    · exact hlt
    · have hvalue := congrArg (Nat.ofDigitChars 10 · 0) heq
      rw [ofDigitChars_leftpad, ofDigitChars_leftpad] at hvalue
      exact absurd hvalue h.ne
    · have hvalue := ofDigitChars_lt_of_lt hlength.symm (fun _ => isDigit_of_mem_leftpad)
        (fun _ => isDigit_of_mem_leftpad) hgt
      rw [ofDigitChars_leftpad, ofDigitChars_leftpad] at hvalue
      exact absurd hvalue h.not_gt
  rw [String.lt_iff_toList_lt]
  simp only [paddedDecimal, String.toList_append, String.toList_ofList, List.append_assoc]
  exact List.append_left_lt (append_lt_append_of_length_eq hlength hlt _)

/-! ### Hexadecimal -/

/-- The bytes `hex.DecodeString` returns beside its error: those decoded before it. -/
def hexPrefixBytes : List Char → List UInt8
  | a :: b :: rest =>
    match hexDigit a, hexDigit b with
    | some x, some y => UInt8.ofNat (16 * x + y) :: hexPrefixBytes rest
    | _, _ => []
  | _ => []

/-- The text of `HexBytes`: upper case digits. -/
def upperHex (bytes : List UInt8) : String :=
  String.ofList ((hexChars bytes).map Char.toUpper)

private theorem digitChar_ne_nul : ∀ n < 16, (Nat.digitChar n).toUpper ≠ nul ∧
    Nat.digitChar n ≠ nul := by decide

theorem ne_nul_of_mem_hexChars {bytes : List UInt8} {c : Char} (h : c ∈ hexChars bytes) :
    c.toUpper ≠ nul ∧ c ≠ nul := by
  rw [hexChars, List.mem_flatMap] at h
  obtain ⟨b, -, hc⟩ := h
  have hb : b.toNat < 256 := b.toNat_lt
  simp only [List.mem_cons, List.not_mem_nil, or_false] at hc
  rcases hc with rfl | rfl
  · exact digitChar_ne_nul _ (by omega)
  · exact digitChar_ne_nul _ (by omega)

theorem nulFree_encodeHex (bytes : List UInt8) : NulFree (encodeHex bytes) := by
  refine nulFree_of_forall (p := fun c => c ≠ nul) (fun c hc => ?_) fun h => h rfl
  rw [encodeHex, String.toList_ofList] at hc
  exact (ne_nul_of_mem_hexChars hc).2

theorem nulFree_upperHex (bytes : List UInt8) : NulFree (upperHex bytes) := by
  refine nulFree_of_forall (p := fun c => c ≠ nul) (fun c hc => ?_) fun h => h rfl
  rw [upperHex, String.toList_ofList, List.mem_map] at hc
  obtain ⟨d, hd, rfl⟩ := hc
  exact (ne_nul_of_mem_hexChars hd).1

theorem toNat_lt_of_hexDigit {c : Char} {x : Nat} (h : hexDigit c = some x) : c.toNat < 128 := by
  unfold hexDigit at h
  dsimp only at h
  split at h
  · omega
  split at h
  · omega
  split at h
  · omega
  · cases h

theorem hexBytes_cons_eq_some {a b : Char} {rest : List Char} {bytes : List UInt8} :
    hexBytes (a :: b :: rest) = some bytes ↔ ∃ x y tail, hexDigit a = some x ∧
      hexDigit b = some y ∧ hexBytes rest = some tail ∧
      bytes = UInt8.ofNat (16 * x + y) :: tail := by
  simp only [hexBytes, Option.bind_eq_bind, Option.bind_eq_some_iff]
  constructor
  · rintro ⟨x, hx, y, hy, tail, htail, h⟩
    exact ⟨x, y, tail, hx, hy, htail, (Option.some.inj h).symm⟩
  · rintro ⟨x, y, tail, hx, hy, htail, rfl⟩
    exact ⟨x, hx, y, hy, tail, htail, rfl⟩

theorem hexDigit_of_mem : ∀ {cs : List Char} {bytes : List UInt8}, hexBytes cs = some bytes →
    ∀ c ∈ cs, ∃ x, hexDigit c = some x
  | [], _, _ => by simp
  | [_], _, h => by simp [hexBytes] at h
  | a :: b :: rest, bytes, h => by
    obtain ⟨x, y, tail, hx, hy, htail, -⟩ := hexBytes_cons_eq_some.mp h
    simp only [List.forall_mem_cons]
    exact ⟨⟨x, hx⟩, ⟨y, hy⟩, hexDigit_of_mem htail⟩

theorem decodeHex_eq_some_iff {s : String} {bytes : List UInt8} :
    decodeHex s = some bytes ↔ hexBytes s.toList = some bytes := by
  constructor
  · intro h
    have hbytes : ∀ b ∈ textBytes s, b.toNat < 128 := by
      intro b hb
      obtain ⟨x, hx⟩ := hexDigit_of_mem h _ (List.mem_map_of_mem hb)
      have hlt := toNat_lt_of_hexDigit hx
      have hbyte : ∀ n < 256, (Char.ofNat n).toNat = n := by decide +kernel
      rwa [hbyte _ b.toNat_lt] at hlt
    have hascii : ∀ c ∈ s.toList, c.toNat < 128 := by
      intro c hc
      apply toNat_lt_of_utf8EncodeChar
      intro b hb
      apply hbytes
      rw [textBytes_eq]
      exact List.mem_flatMap.mpr ⟨c, hc, hb⟩
    unfold decodeHex at h
    rwa [textBytes_ascii hascii] at h
  · intro h
    unfold decodeHex
    rw [textBytes_ascii, h]
    intro c hc
    obtain ⟨x, hx⟩ := hexDigit_of_mem h c hc
    exact toNat_lt_of_hexDigit hx

theorem hexDigit_toUpper (c : Char) : hexDigit c.toUpper = hexDigit c := by
  by_cases hc : c.toNat < 128
  · exact ascii_forall (P := fun c => hexDigit c.toUpper = hexDigit c) (by decide) c hc
  · rw [toUpper_of_not_ascii hc]

theorem hexBytes_map_toUpper : ∀ cs : List Char, hexBytes (cs.map Char.toUpper) = hexBytes cs
  | [] => rfl
  | [_] => rfl
  | a :: b :: rest => by
    simp only [List.map_cons, hexBytes, hexDigit_toUpper, hexBytes_map_toUpper rest]

theorem toUpper_of_hexDigit {c : Char} {x : Nat} (h : hexDigit c = some x) :
    c.toUpper = (Nat.digitChar x).toUpper ∧ x < 16 := by
  have key : ∀ d : Char, d.toNat < 128 → ∀ x ∈ hexDigit d,
      d.toUpper = (Nat.digitChar x).toUpper ∧ x < 16 :=
    ascii_forall (by decide)
  exact key c (toNat_lt_of_hexDigit h) x h

theorem map_toUpper_of_hexBytes : ∀ {cs ds : List Char} {bytes : List UInt8},
    hexBytes cs = some bytes → hexBytes ds = some bytes →
      cs.map Char.toUpper = ds.map Char.toUpper
  | [], [], _, _, _ => rfl
  | [_], _, _, h, _ => by simp [hexBytes] at h
  | _, [_], _, _, h => by simp [hexBytes] at h
  | [], _ :: _ :: _, _, h, h' => by
    obtain ⟨x, y, tail, -, -, -, rfl⟩ := hexBytes_cons_eq_some.mp h'
    cases h
  | _ :: _ :: _, [], _, h, h' => by
    obtain ⟨x, y, tail, -, -, -, rfl⟩ := hexBytes_cons_eq_some.mp h
    cases h'
  | a :: b :: cs, a' :: b' :: ds, bytes, h, h' => by
    obtain ⟨x, y, tail, hx, hy, htail, rfl⟩ := hexBytes_cons_eq_some.mp h
    obtain ⟨x', y', tail', hx', hy', htail', heq⟩ := hexBytes_cons_eq_some.mp h'
    obtain ⟨hbyte, rfl⟩ := List.cons.inj heq
    obtain ⟨ha, hx16⟩ := toUpper_of_hexDigit hx
    obtain ⟨hb, hy16⟩ := toUpper_of_hexDigit hy
    obtain ⟨ha', hx16'⟩ := toUpper_of_hexDigit hx'
    obtain ⟨hb', hy16'⟩ := toUpper_of_hexDigit hy'
    have hnat := congrArg UInt8.toNat hbyte
    rw [UInt8.toNat_ofNat', UInt8.toNat_ofNat', Nat.mod_eq_of_lt (by omega),
      Nat.mod_eq_of_lt (by omega)] at hnat
    have hxx : x' = x := by omega
    have hyy : y' = y := by omega
    simp only [List.map_cons, ha, hb, ha', hb', hxx, hyy, map_toUpper_of_hexBytes htail htail']

theorem toUpper_toUpper (c : Char) : c.toUpper.toUpper = c.toUpper := by
  by_cases hc : c.toNat < 128
  · exact ascii_forall (P := fun c => c.toUpper.toUpper = c.toUpper) (by decide) c hc
  · rw [toUpper_of_not_ascii hc, toUpper_of_not_ascii hc]

theorem length_hexChars (bytes : List UInt8) : (hexChars bytes).length = 2 * bytes.length := by
  induction bytes with
  | nil => rfl
  | cons b bytes ih =>
    rw [hexChars, List.flatMap_cons, List.length_append]
    change _ + (hexChars bytes).length = _
    rw [ih, List.length_cons, List.length_cons, List.length_cons, List.length_nil]
    omega

theorem hexBytes_hexChars (bytes : List UInt8) : hexBytes (hexChars bytes) = some bytes := by
  have hdigit : ∀ n < 16, hexDigit (Nat.digitChar n) = some n := by decide
  induction bytes with
  | nil => rfl
  | cons b bytes ih =>
    have hb : b.toNat < 256 := b.toNat_lt
    refine hexBytes_cons_eq_some.mpr ⟨b.toNat / 16, b.toNat % 16, bytes, ?_, ?_, ih, ?_⟩
    · exact hdigit _ (by omega)
    · exact hdigit _ (by omega)
    · rw [Nat.div_add_mod, UInt8.ofNat_toNat]

theorem trimSpace_of_forall {text : String} (h : ∀ c ∈ text.toList, isGoSpace c = false) :
    trimSpace text = text := by
  have hkeep : ∀ cs : List Char, (∀ c ∈ cs, isGoSpace c = false) → cs.dropWhile isGoSpace = cs := by
    intro cs hcs
    cases cs with
    | nil => rfl
    | cons c cs => rw [List.dropWhile_cons_of_neg (by simp [hcs])]
  unfold trimSpace
  rw [hkeep _ h, hkeep _ (by simpa using h), List.reverse_reverse, String.ofList_toList]

/-! ### Base64 -/

/-- The digit of a six-bit value in the standard alphabet. -/
def base64Char (n : Nat) : Char :=
  if n < 26 then Char.ofNat (65 + n)
  else if n < 52 then Char.ofNat (71 + n)
  else if n < 62 then Char.ofNat (n - 4)
  else if n = 62 then '+' else '/'

def base64Digit (c : Char) : Option Nat :=
  let n := c.toNat
  if 65 ≤ n ∧ n ≤ 90 then some (n - 65)
  else if 97 ≤ n ∧ n ≤ 122 then some (n - 71)
  else if 48 ≤ n ∧ n ≤ 57 then some (n + 4)
  else if n = 43 then some 62
  else if n = 47 then some 63
  else none

def base64Chars : List UInt8 → List Char
  | [] => []
  | [a] => [base64Char (a.toNat / 4), base64Char (a.toNat % 4 * 16), '=', '=']
  | [a, b] =>
    [base64Char (a.toNat / 4), base64Char (a.toNat % 4 * 16 + b.toNat / 16),
      base64Char (b.toNat % 16 * 4), '=']
  | a :: b :: c :: rest =>
    base64Char (a.toNat / 4) :: base64Char (a.toNat % 4 * 16 + b.toNat / 16) ::
      base64Char (b.toNat % 16 * 4 + c.toNat / 64) :: base64Char (c.toNat % 64) :: base64Chars rest

/-- `base64.StdEncoding.EncodeToString`. -/
def base64Encode (bytes : List UInt8) : String := String.ofList (base64Chars bytes)

/-- Decode quanta of four digits, the last one padded. -/
def base64Bytes : List Char → Option (List UInt8)
  | [] => some []
  | a :: b :: c :: d :: rest => do
    let w ← base64Digit a
    let x ← base64Digit b
    let first := UInt8.ofNat (w * 4 + x / 16)
    if c = '=' then if d = '=' ∧ rest = [] then return [first] else none
    else do
      let y ← base64Digit c
      let second := UInt8.ofNat (x % 16 * 16 + y / 4)
      if d = '=' then if rest = [] then return [first, second] else none
      else do
        let z ← base64Digit d
        let bytes ← base64Bytes rest
        return first :: second :: UInt8.ofNat (y % 4 * 64 + z) :: bytes
  | _ => none

/-- `base64.StdEncoding.DecodeString`, which skips line breaks. -/
def base64Decode (s : String) : Option (List UInt8) :=
  base64Bytes (s.toList.filter fun c => c != '\r' && c != '\n')

end OpenAudio
