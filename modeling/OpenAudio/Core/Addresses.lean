import OpenAudio.Core.Externals
import OpenAudio.Lib.Framing

/-!
# Content addresses

`CreateAddress` hashes the chain, a salt and the digest of a transaction. The salt joins the
discriminator, the chain, the height and the index, and writes each of the two numbers as the
character with that code. A number that is no code of a character is written as U+FFFD, and all
heights from 1114112 up to 2^31 - 1 are such numbers.
-/

namespace OpenAudio.Core

/-- The arguments of `CreateAddress`. -/
structure AddressArgs where
  txhash : Bytes
  chainId : String
  blockHeight : Int
  txindex : Int
  discriminator : String
deriving DecidableEq

namespace AddressArgs

variable (ext : Externals)

def salt (args : AddressArgs) : String :=
  args.discriminator ++ ":" ++ args.chainId ++ ":" ++ runeText args.blockHeight ++ ":" ++
    runeText args.txindex

/-- What the address is the hash of. -/
def preimage (args : AddressArgs) : Bytes :=
  0xff :: textBytes args.chainId ++ ext.sha256 (textBytes args.salt) ++ ext.keccak256 args.txhash

def address (args : AddressArgs) : String :=
  ext.createAddress args.txhash args.chainId args.blockHeight args.txindex args.discriminator

theorem address_eq (args : AddressArgs) :
    args.address ext = "0x" ++ encodeHex ((ext.keccak256 (args.preimage ext)).drop 12) := rfl

/-- Read from its end, the salt gives back what it was made from but for the chain. -/
theorem salt_injective {a b : AddressArgs} (h : a.salt = b.salt) (hchain : a.chainId = b.chainId) :
    a.discriminator = b.discriminator ∧ runeText a.blockHeight = runeText b.blockHeight ∧
      runeText a.txindex = runeText b.txindex := by
  unfold salt at h
  rw [hchain] at h
  simp only [runeText_eq] at h ⊢
  have hlist := congrArg String.toList h
  simp only [String.toList_append, String.toList_singleton] at hlist
  -- the index is the last character, the height the last but two
  obtain ⟨hlist, hindex⟩ := List.append_inj' hlist rfl
  obtain ⟨hlist, -⟩ := List.append_inj' hlist rfl
  obtain ⟨hlist, hheight⟩ := List.append_inj' hlist rfl
  obtain ⟨hlist, -⟩ := List.append_inj' hlist rfl
  obtain ⟨hlist, -⟩ := List.append_inj' hlist rfl
  obtain ⟨hlist, -⟩ := List.append_inj' hlist rfl
  refine ⟨String.toList_inj.mp hlist, ?_, ?_⟩
  · rw [(List.cons.inj hheight).1]
  · rw [(List.cons.inj hindex).1]

theorem preimage_injective {a b : AddressArgs} (h : a.preimage ext = b.preimage ext) :
    a.chainId = b.chainId ∧ ext.sha256 (textBytes a.salt) = ext.sha256 (textBytes b.salt) ∧
      ext.keccak256 a.txhash = ext.keccak256 b.txhash := by
  obtain ⟨hhead, hcontent⟩ :=
    List.append_inj' h (by rw [ext.keccak256_length, ext.keccak256_length])
  obtain ⟨hchain, hsalt⟩ :=
    List.append_inj' hhead (by rw [ext.sha256_length, ext.sha256_length])
  exact ⟨textBytes_injective (List.cons.inj hchain).2, hsalt, hcontent⟩

/-- The arguments as the salt writes them: each number is replaced by the code of its character. -/
def written (args : AddressArgs) : AddressArgs :=
  { args with blockHeight := runeCode args.blockHeight, txindex := runeCode args.txindex }

theorem preimage_of_written {a b : AddressArgs} (h : a.written = b.written) :
    a.preimage ext = b.preimage ext := by
  simp only [written, AddressArgs.mk.injEq, ← runeText_inj] at h
  obtain ⟨htxhash, hchain, hheight, hindex, hdiscriminator⟩ := h
  simp only [preimage, salt, htxhash, hchain, hheight, hindex, hdiscriminator]

theorem address_injective {a b : AddressArgs} (h : a.address ext = b.address ext) :
    (ext.keccak256 (a.preimage ext)).drop 12 = (ext.keccak256 (b.preimage ext)).drop 12 := by
  rw [address_eq, address_eq] at h
  have hdigits := congrArg String.toList h
  simp only [String.toList_append, encodeHex, String.toList_ofList] at hdigits
  have hbytes := congrArg hexBytes (List.append_cancel_left hdigits)
  rw [hexBytes_hexChars, hexBytes_hexChars] at hbytes
  exact Option.some.inj hbytes

/-- Where neither the salts nor the transactions collide, the preimages are different exactly if the
arguments still are when their numbers are written as characters; and addresses that are the same
are a collision of the last twenty bytes of the hashes of the preimages. -/
theorem preimages_differ_iff {a b : AddressArgs}
    (hsha : ext.sha256 (textBytes a.salt) = ext.sha256 (textBytes b.salt) →
      textBytes a.salt = textBytes b.salt)
    (hkeccak : ext.keccak256 a.txhash = ext.keccak256 b.txhash → a.txhash = b.txhash) :
    (a.preimage ext ≠ b.preimage ext ↔ a.written ≠ b.written) ∧
      (a.address ext = b.address ext →
        (ext.keccak256 (a.preimage ext)).drop 12 = (ext.keccak256 (b.preimage ext)).drop 12) := by
  refine ⟨not_congr ⟨fun hsame => ?_, preimage_of_written ext⟩, address_injective ext⟩
  obtain ⟨hchain, hsalt, hcontent⟩ := preimage_injective ext hsame
  obtain ⟨hdiscriminator, hheight, hindex⟩ :=
    salt_injective (textBytes_injective (hsha hsalt)) hchain
  simp only [written, AddressArgs.mk.injEq, ← runeText_inj]
  exact ⟨hkeccak hcontent, hchain, hheight, hindex, hdiscriminator⟩

/-- The message of the examples, at a height. -/
def ernArgs (height : Int) : AddressArgs := ⟨[7], "c", height, 0, "ern:1"⟩

def ernHashes : Externals :=
  ({ sha256 :=
      [(textBytes (ernArgs 1).salt,
        Externals.digest 0x4094a07aa99c67ec6f56a59c6a89e3ef01a8069edc137ea3b6101781ef26f99e),
       (textBytes (ernArgs 2).salt,
        Externals.digest 0x9072d53badd9bc974eda4df39aa0825afee55efdaa3a085436ee57deab57171a)]
     keccak256 := [([7],
        Externals.digest 0xee2a4bc7db81da2b7164e56b3649b1e2a09c58c455b15dabddd9146c7582cebc)] } :
    Externals.Recorded).externals

/-- The same message at two heights. -/
theorem preimages_differ_heights :
    (ernArgs 1).preimage ernHashes ≠ (ernArgs 2).preimage ernHashes := by
  have hsha : ernHashes.sha256 (textBytes (ernArgs 1).salt) ≠
      ernHashes.sha256 (textBytes (ernArgs 2).salt) := by
    decide +kernel
  exact (preimages_differ_iff ernHashes (absurd · hsha) fun _ => rfl).1.mpr (by decide)

/-- Two heights past the last code, and two among the surrogates, are written alike, and so are
such indices: whatever the hash functions are, the addresses are the same. -/
theorem preimages_same_past_runes :
    (∀ (ext : Externals) txhash chainId txindex discriminator,
      let args : AddressArgs := ⟨txhash, chainId, 1114112, txindex, discriminator⟩
      let later : AddressArgs := { args with blockHeight := 1114113 }
      args ≠ later ∧ args.preimage ext = later.preimage ext ∧
        args.address ext = later.address ext) ∧
    ∀ (ext : Externals) txhash chainId blockHeight discriminator,
      let args : AddressArgs := ⟨txhash, chainId, blockHeight, 55296, discriminator⟩
      let later : AddressArgs := { args with txindex := 55297 }
      args ≠ later ∧ args.preimage ext = later.preimage ext ∧
        args.address ext = later.address ext := by
  have hheight : runeCode 1114112 = runeCode 1114113 := by decide
  have hindex : runeCode 55296 = runeCode 55297 := by decide
  constructor
  · intro ext txhash chainId txindex discriminator args later
    have hsame : args.preimage ext = later.preimage ext :=
      preimage_of_written ext (by simp only [written, args, later, hheight])
    refine ⟨by simp [args, later], hsame, ?_⟩
    rw [address_eq, address_eq, hsame]
  · intro ext txhash chainId blockHeight discriminator args later
    have hsame : args.preimage ext = later.preimage ext :=
      preimage_of_written ext (by simp only [written, args, later, hindex])
    refine ⟨by simp [args, later], hsame, ?_⟩
    rw [address_eq, address_eq, hsame]

end AddressArgs

end OpenAudio.Core
