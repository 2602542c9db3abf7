import OpenAudio.Lib.Encoding
import OpenAudio.Lib.Postgres
import OpenAudio.Core.Types

/-!
# What the node calls out to

Hashes, signatures, the protobuf and EIP-712 codecs, URL and base58 parsing, and the choice a
`:one` query makes among several rows. They enter as one structure of functions with the facts
about them the development rests on; what the repository computes over them is defined below it.
-/

namespace OpenAudio.Core

/-- The messages the code marshals on their own. -/
inductive ProtoMessage where
  | signedTransaction (msg : SignedTransaction)
  | v2Transaction (msg : V2Transaction)
  | trackPlays (msg : TrackPlays)
  | validatorRegistrationLegacy (msg : ValidatorRegistrationLegacy)
  | misbehaviorDeregistration (msg : ValidatorMisbehaviorDeregistration)
  | storageProof (msg : StorageProof)
  | attestation (msg : Attestation)
  | attestationBody (msg : AttestationBody)
  | rewardBody (msg : RewardBody)
  | createReward (msg : CreateReward)
  | legacyCreateReward (msg : LegacyCreateReward)
  | rewardPoolBody (msg : RewardPoolBody)
  | uploadSignature (cid : String)
  | mediorumOperation (msg : MediorumOperation)
  | contentAttestationPayload (userId : Int) (cids : List String)
  | newReleaseMessageAck (ern : String) (parties resources releases deals : List String)
  | meadMessageAck (address : String)
  | pieMessageAck (address : String)
deriving DecidableEq

/-- What `url.Parse` returns, as far as it is looked at. -/
structure URL where
  scheme : String
  hostname : String
  hasUser : Bool
  rawQuery : String
  fragment : String
deriving DecidableEq, Repr

/-- The message of the EIP-712 typed data a ManageEntity signature covers. -/
structure TypedManageEntity where
  userId : String
  entityType : String
  entityId : String
  action : String
  metadata : String
  /-- 32 bytes -/
  nonce : Bytes
deriving DecidableEq, Repr

/-- The functions outside the repository. An error is the text it prints. -/
structure Externals where
  rt : GoRuntime
  sha256 : Bytes → Bytes
  sha256_length : ∀ b, (sha256 b).length = 32
  keccak256 : Bytes → Bytes
  keccak256_length : ∀ b, (keccak256 b).length = 32
  /-- `crypto.SigToPub`: the public key that signed a hash. `crypto.Ecrecover` followed by
  `crypto.UnmarshalPubkey` is the same function. -/
  sigToPub : Bytes → Bytes → Except String Bytes
  /-- `crypto.CompressPubkey` -/
  compressPubkey : Bytes → Bytes
  /-- `crypto.Sign` with the node's key -/
  sign : Bytes → Except String Bytes
  sign_length : ∀ hash sig, sign hash = .ok sig → sig.length = 65
  /-- CometBFT's `ed25519.PubKey.VerifySignature`, of a key, a message and a signature -/
  cometVerify : Bytes → Bytes → Bytes → Bool
  /-- `crypto/ed25519.Verify` -/
  ed25519Verify : Bytes → Bytes → Bytes → Bool
  /-- the EIP-712 digest of a ManageEntity message under a chain id and a contract -/
  typedDataHash : Nat → String → TypedManageEntity → Except String Bytes
  marshal : ProtoMessage → Bytes
  unmarshalSigned : Bytes → Option SignedTransaction
  unmarshalV2 : Bytes → Option V2Transaction
  /-- the `%v` of a transaction -/
  formatTx : SignedTransaction → String
  parseURL : String → Except String URL
  /-- a URL with an ASCII control character does not parse -/
  parseURL_nulFree : ∀ s u, parseURL s = .ok u → NulFree s
  base58Decode : String → Except String Bytes
  /-- U+0000 is not a base58 digit -/
  base58Decode_nulFree : ∀ s b, base58Decode s = .ok b → NulFree s
  /-- `ulid.ParseStrict` -/
  parseUlid : String → Except String Unit
  /-- decoding the records of a mediorum operation into the type of a table -/
  decodeRecords : String → Bytes → Except String Unit
  /-- the text of the error of `hex.DecodeString` -/
  hexError : String → String
  /-- the text of the error of `base64.StdEncoding.DecodeString` -/
  base64Error : String → String
  /-- `lower` of the database's locale -/
  sqlLower : PgText → PgText
  rows : RowChoice

namespace Externals

variable (ext : Externals)

/-! ### Addresses -/

/-- `common.Address.Hex`: the digits of the address, a letter in upper case where the digit of the
digest of the lower case text at its place is above seven. -/
def checksumHex (address : Bytes) : String :=
  let lower := hexChars address
  let digest := hexChars (ext.keccak256 (textBytes (encodeHex address)))
  String.ofList ('0' :: 'x' :: List.zipWith
    (fun c d => if (hexDigit d).any (7 < ·) then c.toUpper else c) lower digest)

/-- `crypto.PubkeyToAddress`. -/
def pubkeyToAddress (pubKey : Bytes) : Bytes := (ext.keccak256 (pubKey.drop 1)).drop 12

/-- The text of the address of a consensus key, `ed25519.PubKey.Address().String()`. -/
def cometAddress (pubKey : Bytes) : String := upperHex ((ext.sha256 pubKey).take 20)

def toTxHashFromBytes (txBytes : Bytes) : String := upperHex (ext.sha256 txBytes)

def serializePublicKeyHex (pubKey : Bytes) : String := encodeHex (ext.compressPubkey pubKey)

def createAddress (txhash : Bytes) (chainId : String) (blockHeight txindex : Int)
    (discriminator : String) : String :=
  let contentHash := ext.keccak256 txhash
  let salt := discriminator ++ ":" ++ chainId ++ ":" ++ runeText blockHeight ++ ":" ++
    runeText txindex
  let preimage := 0xff :: textBytes chainId ++ ext.sha256 (textBytes salt) ++ contentHash
  "0x" ++ encodeHex ((ext.keccak256 preimage).drop 12)

def hexToBytes (addr : String) : Except String Bytes :=
  let clean := trimPrefix addr "0x"
  match decodeHex clean with
  | some bytes => .ok bytes
  | none => .error (ext.hexError clean)

/-! ### Recovery of signers -/

/-- `EthRecover`: the key and the address that signed the SHA-256 digest of the data. -/
def ethRecover (signatureStr : String) (data : Bytes) : Except String (Bytes × String) :=
  match decodeHex signatureStr with
  | none => .error ("could not decode signature: " ++ ext.hexError signatureStr)
  | some signature =>
    match ext.sigToPub (ext.sha256 data) signature with
    | .error e => .error ("could not recover pubkey: " ++ e)
    | .ok pubKey => .ok (pubKey, ext.checksumHex (ext.pubkeyToAddress pubKey))

def ethSign (data : Bytes) : Except String String :=
  match ext.sign (ext.sha256 data) with
  | .error e => .error ("failed to signed data: " ++ e)
  | .ok signature => .ok (encodeHex signature)

def protoRecover (body : ProtoMessage) (signature : String) : Except String String :=
  (ext.ethRecover signature (ext.marshal body)).map (·.2)

/-- `accounts.TextHash` -/
def textHash (data : Bytes) : Bytes :=
  let length := toString data.length
  ext.keccak256 (0x19 :: textBytes s!"Ethereum Signed Message:\n{length}" ++ data)

/-! ### Recorded calls -/

abbrev Digest := { digest : Bytes // digest.length = 32 }

def digest (n : Nat) : Digest := ⟨bigEndian 32 n, length_bigEndian 32 n⟩

/-- Calls of the functions with their results, as the real ones return them. -/
structure Recorded where
  sha256 : List (Bytes × Digest) := []
  keccak256 : List (Bytes × Digest) := []
  sigToPub : List ((Bytes × Bytes) × Bytes) := []
  sign : List (Bytes × { signature : Bytes // signature.length = 65 }) := []
  typedDataHash : List ((Nat × String × TypedManageEntity) × Bytes) := []
  marshal : List (ProtoMessage × Bytes) := []
  unmarshalSigned : List (Bytes × SignedTransaction) := []
  unmarshalV2 : List (Bytes × V2Transaction) := []
  parseURL : List (PgText × URL) := []
  base58Decode : List (PgText × Bytes) := []

instance : Append Recorded where
  append r r' :=
    { sha256 := r.sha256 ++ r'.sha256
      keccak256 := r.keccak256 ++ r'.keccak256
      sigToPub := r.sigToPub ++ r'.sigToPub
      sign := r.sign ++ r'.sign
      typedDataHash := r.typedDataHash ++ r'.typedDataHash
      marshal := r.marshal ++ r'.marshal
      unmarshalSigned := r.unmarshalSigned ++ r'.unmarshalSigned
      unmarshalV2 := r.unmarshalV2 ++ r'.unmarshalV2
      parseURL := r.parseURL ++ r'.parseURL
      base58Decode := r.base58Decode ++ r'.base58Decode }

/-- A public key with the digests its address and the text of its address are made from. -/
structure RecordedKey where
  pubKey : Bytes
  digest : Digest
  textDigest : Digest

def RecordedKey.calls (key : RecordedKey) : Recorded where
  keccak256 := [(key.pubKey.drop 1, key.digest),
    (textBytes (encodeHex (key.digest.val.drop 12)), key.textDigest)]

def Recorded.ofText {α : Type} (calls : List (PgText × α)) (s : String) : Except String α :=
  match calls.find? fun c => c.1.val == s with
  | some c => .ok c.2
  | none => .error "not recorded"

theorem Recorded.nulFree_of_ofText {α : Type} {calls : List (PgText × α)} {s : String} {a : α}
    (h : Recorded.ofText calls s = .ok a) : NulFree s := by
  unfold ofText at h
  split at h
  · rename_i c hc
    have hs := List.find?_some hc
    rw [beq_iff_eq] at hs
    rw [← hs]
    exact c.1.nulFree
  · cases h

def Recorded.externals (r : Recorded) : Externals where
  rt := .amd64
  sha256 b := match r.sha256.lookup b with | some d => d.val | none => List.replicate 32 0
  sha256_length b := by
    split
    · rename_i d _
      exact d.property
    · rfl
  keccak256 b := match r.keccak256.lookup b with | some d => d.val | none => List.replicate 32 0
  keccak256_length b := by
    split
    · rename_i d _
      exact d.property
    · rfl
  sigToPub hash sig := (r.sigToPub.lookup (hash, sig)).elim (.error "recovery failed") .ok
  compressPubkey key := (2 + key.getLastD 0 % 2) :: (key.drop 1).take 32
  sign hash := match r.sign.lookup hash with | some sig => .ok sig.val | none => .error "no key"
  sign_length hash sig h := by
    split at h
    · rename_i sig' _
      cases h
      exact sig'.property
    · cases h
  cometVerify _ _ _ := false
  ed25519Verify _ _ _ := false
  typedDataHash chain contract msg :=
    (r.typedDataHash.lookup (chain, contract, msg)).elim (.error "not recorded") .ok
  marshal msg := (r.marshal.lookup msg).getD []
  unmarshalSigned tx := r.unmarshalSigned.lookup tx
  unmarshalV2 tx := r.unmarshalV2.lookup tx
  formatTx _ := ""
  parseURL := Recorded.ofText r.parseURL
  parseURL_nulFree _ _ h := Recorded.nulFree_of_ofText h
  base58Decode := Recorded.ofText r.base58Decode
  base58Decode_nulFree _ _ h := Recorded.nulFree_of_ofText h
  parseUlid _ := .error "not recorded"
  decodeRecords _ _ := .error "not recorded"
  hexError _ := ""
  base64Error _ := ""
  sqlLower t :=
    ⟨GoRuntime.amd64.toLower t.val, (GoRuntime.amd64.nulFree_toLower_iff t.val).mpr t.nulFree⟩
  rows := .first

end Externals

end OpenAudio.Core
