import Mathlib.Data.List.TakeWhile
import Mathlib.Data.Nat.Digits.Lemmas
import OpenAudio.Etl.Wallets

/-!
# Base58

A Solana address is the base58 text of a key: the digits of the key as a big-endian number, after
one `1` for each zero byte the key starts with. `base58Decode` computes the number with its low
byte first, out of a first byte that is zero. A key that is not zero comes back as it was encoded;
of a key of zeros, that first byte is left over.
-/

namespace OpenAudio.Etl

open OpenAudio.Core

/-! ### The encoding -/

/-- The number whose bytes these are, the low byte first. -/
def bytesValue (bytes : Bytes) : Nat := Nat.ofDigits 256 (bytes.map UInt8.toNat)

def base58Digits (b : Bytes) : List Nat :=
  List.replicate (b.takeWhile (· == 0)).length 0 ++ (Nat.digits 58 (bytesValue b.reverse)).reverse

def base58Char (digit : Nat) : UInt8 := base58Alphabet.getD digit 0

/-- The standard encoding, which the repository has no function for. -/
def base58Encode (b : Bytes) : String :=
  String.ofList ((base58Digits b).map fun digit => Char.ofNat (base58Char digit).toNat)

theorem base58Alphabet_findIdx :
    ∀ d < 58, base58Alphabet.findIdx? (· == base58Char d) = some d := by
  unfold base58Char base58Alphabet
  simp only [textBytes_eq]
  decide

theorem base58Char_eq_one : ∀ d < 58, (base58Char d == 49) = decide (d = 0) := by
  unfold base58Char base58Alphabet
  simp only [textBytes_eq]
  decide

theorem toNat_lt_of_mem_base58Alphabet : ∀ c ∈ base58Alphabet, c.toNat < 128 := by
  unfold base58Alphabet
  simp only [textBytes_eq]
  decide +kernel

theorem base58Char_mem : ∀ d < 58, base58Char d ∈ base58Alphabet := by
  unfold base58Char base58Alphabet
  simp only [textBytes_eq]
  decide

theorem base58Digits_lt {b : Bytes} : ∀ d ∈ base58Digits b, d < 58 := by
  intro d hd
  rcases List.mem_append.mp hd with hd | hd
  · have := List.eq_of_mem_replicate hd
    omega
  · exact Nat.digits_lt_base (by omega) (List.mem_reverse.mp hd)

theorem textBytes_base58Encode (b : Bytes) :
    textBytes (base58Encode b) = (base58Digits b).map base58Char := by
  have hascii : ∀ c ∈ (base58Digits b).map base58Char, c.toNat < 128 := by
    intro c hc
    obtain ⟨d, hd, rfl⟩ := List.mem_map.mp hc
    exact toNat_lt_of_mem_base58Alphabet _ (base58Char_mem d (base58Digits_lt d hd))
  rw [← textBytes_ofList_ascii hascii, base58Encode, List.map_map]
  rfl

/-! ### The number the decoder computes -/

@[simp] theorem bytesValue_nil : bytesValue [] = 0 := rfl

@[simp] theorem bytesValue_cons (b : UInt8) (bytes : Bytes) :
    bytesValue (b :: bytes) = b.toNat + 256 * bytesValue bytes := by
  rw [bytesValue, List.map_cons, Nat.ofDigits_cons]
  rfl

theorem bytesValue_append (bytes rest : Bytes) :
    bytesValue (bytes ++ rest) = bytesValue bytes + 256 ^ bytes.length * bytesValue rest := by
  rw [bytesValue, List.map_append, Nat.ofDigits_append, List.length_map]
  rfl

private theorem byte_lt (bytes : Bytes) : ∀ n ∈ bytes.map UInt8.toNat, n < 256 := by
  intro n hn
  obtain ⟨b, -, rfl⟩ := List.mem_map.mp hn
  exact b.toNat_lt

theorem bytesValue_lt (bytes : Bytes) : bytesValue bytes < 256 ^ bytes.length := by
  have h := Nat.ofDigits_lt_base_pow_length (by omega : 1 < 256) (byte_lt bytes)
  rwa [List.length_map] at h

/-- No byte could be left out at the high end. -/
def Trimmed (bytes : Bytes) : Prop :=
  bytes ≠ [] ∧ 256 ^ (bytes.length - 1) ≤ bytesValue bytes

theorem Trimmed.value_pos {bytes : Bytes} (h : Trimmed bytes) : 0 < bytesValue bytes :=
  (Nat.pow_pos (by omega)).trans_le h.2

private theorem Trimmed.length_le {bytes bytes' : Bytes} (h : Trimmed bytes)
    (hvalue : bytesValue bytes = bytesValue bytes') : bytes.length ≤ bytes'.length := by
  have hlt : 256 ^ (bytes.length - 1) < 256 ^ bytes'.length :=
    (h.2.trans_eq hvalue).trans_lt (bytesValue_lt bytes')
  have := (Nat.pow_lt_pow_iff_right (by omega : 1 < 256)).mp hlt
  omega

theorem Trimmed.eq {bytes bytes' : Bytes} (h : Trimmed bytes) (h' : Trimmed bytes')
    (hvalue : bytesValue bytes = bytesValue bytes') : bytes = bytes' := by
  have hlength : bytes.length = bytes'.length :=
    le_antisymm (h.length_le hvalue) (h'.length_le hvalue.symm)
  have hmap : bytes.map UInt8.toNat = bytes'.map UInt8.toNat :=
    Nat.ofDigits_inj_of_len_eq (by omega) (by rwa [List.length_map, List.length_map])
      (byte_lt bytes) (byte_lt bytes') hvalue
  exact List.map_injective_iff.mpr (fun _ _ => UInt8.toNat_inj.mp) hmap

theorem trimmed_append_singleton (bytes : Bytes) {last : UInt8} (hlast : last ≠ 0) :
    Trimmed (bytes ++ [last]) := by
  have hpos : 0 < last.toNat := by
    rw [Nat.pos_iff_ne_zero]
    exact fun h => hlast (UInt8.toNat_inj.mp h)
  refine ⟨by simp, ?_⟩
  rw [bytesValue_append, bytesValue_cons, bytesValue_nil, List.length_append, List.length_singleton,
    Nat.add_sub_cancel]
  calc 256 ^ bytes.length ≤ 256 ^ bytes.length * (last.toNat + 256 * 0) :=
        Nat.le_mul_of_pos_right _ (by omega)
    _ ≤ _ := Nat.le_add_left _ _

/-- The carry that is left stands for the bytes above. -/
theorem base58Carry_spec (carry : Nat) (bytes : Bytes) :
    (base58Carry carry bytes).1.length = bytes.length ∧
      bytesValue (base58Carry carry bytes).1 + 256 ^ bytes.length * (base58Carry carry bytes).2 =
        58 * bytesValue bytes + carry := by
  induction bytes generalizing carry with
  | nil => simp [base58Carry]
  | cons b bytes ih =>
    obtain ⟨hlength, hvalue⟩ := ih ((carry + b.toNat * 58) / 256)
    refine ⟨by simp [base58Carry, hlength], ?_⟩
    have hbyte : (UInt8.ofNat ((carry + b.toNat * 58) % 256)).toNat =
        (carry + b.toNat * 58) % 256 := by
      rw [UInt8.toNat_ofNat', Nat.mod_eq_of_lt (by omega)]
    simp only [base58Carry, bytesValue_cons, List.length_cons, Nat.pow_succ, hbyte]
    have hdiv := Nat.mod_add_div (carry + b.toNat * 58) 256
    linarith [hvalue]

theorem base58Carry_lt {carry : Nat} (h : carry < 58) (bytes : Bytes) :
    (base58Carry carry bytes).2 < 58 := by
  induction bytes generalizing carry with
  | nil => exact h
  | cons b bytes ih =>
    have := b.toNat_lt
    exact ih (by omega)

theorem base58Push_value (bytes : Bytes) {digit : Nat} (h : digit < 58) :
    bytesValue (base58Push bytes digit) = 58 * bytesValue bytes + digit := by
  obtain ⟨hlength, hvalue⟩ := base58Carry_spec digit bytes
  have hlt := base58Carry_lt h bytes
  unfold base58Push
  simp only
  split
  · rw [bytesValue_append, hlength, bytesValue_cons, bytesValue_nil, UInt8.toNat_ofNat',
      Nat.mod_eq_of_lt (by omega), Nat.mul_zero, Nat.add_zero, hvalue]
  · have hzero : (base58Carry digit bytes).2 = 0 := by omega
    rwa [hzero, Nat.mul_zero, Nat.add_zero] at hvalue

/-- What the decoder holds between two digits. -/
def Decoding (bytes : Bytes) : Prop := bytes = [0] ∨ Trimmed bytes

theorem Decoding.push {bytes : Bytes} (h : Decoding bytes) {digit : Nat} (hdigit : digit < 58) :
    Decoding (base58Push bytes digit) := by
  rcases h with rfl | h
  · interval_cases digit <;> first | exact .inl rfl | exact .inr ⟨by decide, by decide⟩
  · right
    have hvalue := base58Push_value bytes hdigit
    obtain ⟨hlength, -⟩ := base58Carry_spec digit bytes
    have hlt := base58Carry_lt hdigit bytes
    by_cases hcarry : 0 < (base58Carry digit bytes).2
    · have hpush : base58Push bytes digit =
          (base58Carry digit bytes).1 ++ [UInt8.ofNat (base58Carry digit bytes).2] :=
        if_pos hcarry
      rw [hpush]
      apply trimmed_append_singleton
      intro hzero
      have := congrArg UInt8.toNat hzero
      rw [UInt8.toNat_ofNat', Nat.mod_eq_of_lt (by omega)] at this
      exact hcarry.ne' this
    · have hpush : base58Push bytes digit = (base58Carry digit bytes).1 := if_neg hcarry
      have hsame : (base58Push bytes digit).length = bytes.length := by rw [hpush, hlength]
      -- as many bytes as before, and no smaller number
      refine ⟨List.ne_nil_of_length_pos (hsame ▸ List.length_pos_of_ne_nil h.1), ?_⟩
      rw [hsame, hvalue]
      exact h.2.trans (by omega)

theorem base58Bytes_chars (digits : List Nat) (h : ∀ d ∈ digits, d < 58) (bytes : Bytes) :
    base58Bytes bytes (digits.map base58Char) = .ok (digits.foldl base58Push bytes) := by
  induction digits generalizing bytes with
  | nil => rfl
  | cons d digits ih =>
    rw [List.forall_mem_cons] at h
    rw [List.map_cons, base58Bytes, base58Alphabet_findIdx d h.1]
    exact ih h.2 (base58Push bytes d)

theorem foldl_base58Push (digits : List Nat) (h : ∀ d ∈ digits, d < 58) :
    Decoding (digits.foldl base58Push [0]) ∧
      bytesValue (digits.foldl base58Push [0]) = Nat.ofDigits 58 digits.reverse := by
  induction digits using List.reverseRecOn with
  | nil => exact ⟨.inl rfl, rfl⟩
  | append_singleton digits d ih =>
    have hd : d < 58 := h d (by simp)
    obtain ⟨hdecoding, hvalue⟩ := ih fun x hx => h x (by simp [hx])
    rw [List.foldl_append, List.foldl_cons, List.foldl_nil, List.reverse_append]
    refine ⟨hdecoding.push hd, ?_⟩
    rw [base58Push_value _ hd, hvalue, List.reverse_singleton, List.singleton_append,
      Nat.ofDigits_cons, Nat.add_comm]

/-! ### Round trips -/

theorem base58Decode_of_digits (b : Bytes) :
    base58Decode (base58Encode b) =
      .ok (((base58Digits b).foldl base58Push [0] ++
        ((base58Digits b).takeWhile (· = 0)).map fun _ => 0).reverse) := by
  unfold base58Decode
  rw [textBytes_base58Encode, base58Bytes_chars _ base58Digits_lt]
  have hones : ∀ digits : List Nat, (∀ d ∈ digits, d < 58) →
      ((digits.map base58Char).takeWhile (· == 49)).map (fun _ => (0 : UInt8)) =
        (digits.takeWhile (· = 0)).map fun _ => 0 := by
    intro digits hdigits
    induction digits with
    | nil => rfl
    | cons d digits ih =>
      rw [List.forall_mem_cons] at hdigits
      rw [List.map_cons, List.takeWhile_cons, List.takeWhile_cons, base58Char_eq_one d hdigits.1]
      split
      · rw [List.map_cons, List.map_cons, ih hdigits.2]
      · rfl
  have := hones (base58Digits b) base58Digits_lt
  simp only [pure, Except.pure, bind, Except.bind, this]

theorem bytesValue_zeros (k : Nat) : bytesValue (List.replicate k 0) = 0 := by
  induction k with
  | zero => rfl
  | succ k ih => rw [List.replicate_succ, bytesValue_cons, ih]; rfl

private theorem zeros_eq_replicate (b : Bytes) :
    b.takeWhile (· == 0) = List.replicate (b.takeWhile (· == 0)).length 0 := by
  rw [List.eq_replicate_iff]
  refine ⟨rfl, fun x hx => ?_⟩
  have := List.mem_takeWhile_imp hx
  simpa using this

/-- The bytes after the zeros, with the low byte first. -/
theorem trimmed_reverse_dropWhile {b : Bytes} (hb : ∃ x ∈ b, x ≠ 0) :
    Trimmed (b.dropWhile (· == 0)).reverse ∧
      bytesValue (b.dropWhile (· == 0)).reverse = bytesValue b.reverse := by
  constructor
  · obtain ⟨x, hx, hne⟩ := hb
    cases hrest : b.dropWhile (· == 0) with
    | nil =>
      have := List.dropWhile_eq_nil_iff.mp hrest x hx
      exact absurd (by simpa using this) hne
    | cons y rest =>
      have hy : ¬ (y == 0) = true := by
        have := List.head_dropWhile_not (· == 0) (l := b) (by rw [hrest]; simp)
        simpa [hrest] using this
      rw [List.reverse_cons]
      exact trimmed_append_singleton _ (by simpa using hy)
  · conv_rhs => rw [← List.takeWhile_append_dropWhile (p := (· == 0)) (l := b)]
    rw [List.reverse_append, bytesValue_append, zeros_eq_replicate, List.reverse_replicate,
      bytesValue_zeros, Nat.mul_zero, Nat.add_zero]

theorem takeWhile_base58Digits {b : Bytes} (hpos : bytesValue b.reverse ≠ 0) :
    (base58Digits b).takeWhile (· = 0) =
      List.replicate (b.takeWhile (· == 0)).length 0 := by
  unfold base58Digits
  rw [List.takeWhile_append_of_pos (by simp)]
  have hlast := Nat.getLast_digit_ne_zero 58 hpos
  have hne : Nat.digits 58 (bytesValue b.reverse) ≠ [] := Nat.digits_ne_nil_iff_ne_zero.mpr hpos
  -- the first digit after the zeros is the highest of the number
  rw [← List.dropLast_concat_getLast hne, List.reverse_concat, List.takeWhile_cons,
    if_neg (by simpa using hlast), List.append_nil]

theorem base58Decode_of_encode {b : Bytes} (hb : ∃ x ∈ b, x ≠ 0) :
    base58Decode (base58Encode b) = .ok b := by
  obtain ⟨htrimmed, hvalue⟩ := trimmed_reverse_dropWhile hb
  have hpos : bytesValue b.reverse ≠ 0 := hvalue ▸ htrimmed.value_pos.ne'
  obtain ⟨hdecoding, hresult⟩ := foldl_base58Push (base58Digits b) base58Digits_lt
  have hsum : Nat.ofDigits 58 (base58Digits b).reverse = bytesValue b.reverse := by
    rw [base58Digits, List.reverse_append, List.reverse_reverse, List.reverse_replicate,
      Nat.ofDigits_append_replicate_zero, Nat.ofDigits_digits]
  have hbytes : (base58Digits b).foldl base58Push [0] = (b.dropWhile (· == 0)).reverse := by
    rcases hdecoding with hzero | h
    · rw [hzero] at hresult
      exact absurd (hsum.symm.trans hresult.symm) hpos
    · exact h.eq htrimmed (by rw [hresult, hsum, hvalue])
  rw [base58Decode_of_digits, hbytes, takeWhile_base58Digits hpos, List.map_replicate,
    List.reverse_append, List.reverse_reverse, List.reverse_replicate, ← zeros_eq_replicate,
    List.takeWhile_append_dropWhile]

theorem base58Digits_zeros (k : Nat) :
    base58Digits (List.replicate k 0) = List.replicate k 0 := by
  rw [base58Digits, List.reverse_replicate, bytesValue_zeros, Nat.digits_zero, List.reverse_nil,
    List.append_nil, List.takeWhile_replicate]
  simp

/-- Of zeros, one more comes back than were encoded. -/
theorem base58Decode_of_zeros (k : Nat) :
    base58Decode (base58Encode (List.replicate k 0)) = .ok (List.replicate (k + 1) 0) := by
  have hpush : (List.replicate k 0).foldl base58Push [0] = [0] := by
    induction k with
    | zero => rfl
    | succ k ih => exact ih
  rw [base58Decode_of_digits, base58Digits_zeros, hpush]
  simp [List.replicate_succ']

/-! ### Characters outside the alphabet -/

theorem base58Bytes_error {c : UInt8} (hc : c ∉ base58Alphabet) (cs : Bytes) (h : c ∈ cs)
    (bytes : Bytes) : ∃ e, base58Bytes bytes cs = .error e := by
  induction cs generalizing bytes with
  | nil => cases h
  | cons c' cs ih =>
    rw [base58Bytes]
    split
    · exact ⟨_, rfl⟩
    · rename_i digit hdigit
      rcases List.mem_cons.mp h with rfl | h
      · obtain ⟨hlt, heq, -⟩ := List.findIdx?_eq_some_iff_getElem.mp hdigit
        exact absurd (eq_of_beq heq ▸ List.getElem_mem hlt) hc
      · exact ih h _

/-- A character outside the alphabet has a byte that is. -/
theorem exists_byte_not_mem {s : String} {c : Char} (hc : c ∈ s.toList)
    (hnot : c ∉ base58Alphabet.map fun b => Char.ofNat b.toNat) :
    ∃ b ∈ textBytes s, b ∉ base58Alphabet := by
  by_contra hall
  push Not at hall
  have hbytes : ∀ b ∈ String.utf8EncodeChar c, b ∈ base58Alphabet := by
    intro b hb
    exact hall b (by rw [textBytes_eq]; exact List.mem_flatMap.mpr ⟨c, hc, hb⟩)
  have hlt : c.toNat < 128 :=
    toNat_lt_of_utf8EncodeChar fun b hb => toNat_lt_of_mem_base58Alphabet b (hbytes b hb)
  apply hnot
  refine List.mem_map.mpr ⟨UInt8.ofNat c.toNat, hbytes _ ?_, ?_⟩
  · rw [utf8EncodeChar_ascii hlt]
    exact List.mem_singleton_self _
  · rw [UInt8.toNat_ofNat', Nat.mod_eq_of_lt (by omega), Char.ofNat_toNat]

theorem base58Decode_error {s : String} {c : Char} (hc : c ∈ s.toList)
    (hnot : c ∉ base58Alphabet.map fun b => Char.ofNat b.toNat) :
    ∃ e, base58Decode s = .error e := by
  obtain ⟨b, hb, hb'⟩ := exists_byte_not_mem hc hnot
  obtain ⟨e, he⟩ := base58Bytes_error hb' (textBytes s) hb [0]
  exact ⟨e, by rw [base58Decode, he]; rfl⟩

/-! ### Wallets -/

/-- The signature of a wallet is checked against the key its address decodes to. -/
theorem verifySolSignature_eq_ok_iff (ext : Externals) (message signature : String)
    {wallet : String} {key : Bytes} (hdecode : base58Decode wallet = .ok key)
    (hkey : key.length = ed25519PublicKeySize) :
    verifySolSignature ext message signature wallet = .ok () ↔
      ∃ sig, solSignatureBytes signature = .ok sig ∧ sig.length = ed25519SignatureSize ∧
        ext.ed25519Verify key (textBytes message) sig = true := by
  unfold verifySolSignature
  rw [hdecode]
  cases hsig : solSignatureBytes signature with
  | error e => simp [hkey, refuseIf, Except.mapError, bind, Except.bind]
  | ok sig =>
    by_cases hlength : sig.length = ed25519SignatureSize <;>
      simp [hkey, hlength, refuseIf, Except.mapError, bind, Except.bind]

/-- The encoding of bytes decodes to them exactly if they are not all zero; a key then is the key of
the wallet with that address. A text with a character outside the alphabet is refused, and so are
bytes with one outside it that are no text. -/
theorem base58Decode_inverts_encoding (b : Bytes) :
    (base58Decode (base58Encode b) = .ok b ↔ ∃ x ∈ b, x ≠ 0) ∧
    ((∃ x ∈ b, x ≠ 0) → b.length = ed25519PublicKeySize → ∀ ext message signature,
      verifySolSignature ext message signature (base58Encode b) = .ok () ↔
        ∃ sig, solSignatureBytes signature = .ok sig ∧ sig.length = ed25519SignatureSize ∧
          ext.ed25519Verify b (textBytes message) sig = true) ∧
    (∀ s : String, (∃ c ∈ s.toList, c ∉ base58Alphabet.map fun b => Char.ofNat b.toNat) →
      ∃ e, base58Decode s = .error e) ∧
    ∀ s : Bytes, (∃ c ∈ s, c ∉ base58Alphabet) → ∃ e, base58Bytes [0] s = .error e := by
  refine ⟨⟨fun hdecode => ?_, base58Decode_of_encode⟩, ?_, ?_, ?_⟩
  · by_contra hzeros
    have hb : b = List.replicate b.length 0 := List.eq_replicate_of_mem fun x hx => by
      by_contra hne
      exact hzeros ⟨x, hx, hne⟩
    rw [hb, base58Decode_of_zeros, ← hb] at hdecode
    have hlength := congrArg List.length (Except.ok.inj hdecode)
    simp at hlength
  · intro hb hlength ext message signature
    exact verifySolSignature_eq_ok_iff ext message signature (base58Decode_of_encode hb) hlength
  · rintro s ⟨c, hc, hnot⟩
    exact base58Decode_error hc hnot
  · rintro s ⟨c, hc, hnot⟩
    exact base58Bytes_error hnot s hc [0]

/-- A key that starts with a zero, and a digit the alphabet leaves out. -/
theorem base58Decode_inverts_encoding_leading_zero :
    base58Decode (base58Encode [0, 1]) = .ok [0, 1] ∧ ∃ e, base58Decode "0" = .error e := by
  have h := base58Decode_inverts_encoding [0, 1]
  refine ⟨h.1.mpr ⟨1, by decide⟩, h.2.2.1 "0" ⟨'0', by decide, ?_⟩⟩
  unfold base58Alphabet
  simp only [textBytes_eq]
  decide

/-- The empty text decodes to a byte, and the address of the key of zeros, thirty-two ones, to a
byte more than a key has, so that no signature of its wallet is looked at. -/
theorem base58Decode_keeps_first_zero :
    base58Decode (base58Encode []) = .ok [0] ∧
    base58Encode (List.replicate 32 0) = String.ofList (List.replicate 32 '1') ∧
    base58Decode (base58Encode (List.replicate 32 0)) = .ok (List.replicate 33 0) ∧
    ∀ ext message signature,
      verifySolSignature ext message signature (base58Encode (List.replicate 32 0)) =
        .error "invalid solana public key length: 33" := by
  have hkey := base58Decode_of_zeros 32
  refine ⟨base58Decode_of_zeros 0, ?_, hkey, ?_⟩
  · have hone : base58Char 0 = 49 := by
      unfold base58Char base58Alphabet
      simp only [textBytes_eq]
      decide
    rw [base58Encode, base58Digits_zeros, List.map_replicate, hone]
    rfl
  intro ext message signature
  unfold verifySolSignature
  rw [hkey]
  rfl

end OpenAudio.Etl
