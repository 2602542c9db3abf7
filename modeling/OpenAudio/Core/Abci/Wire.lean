import OpenAudio.Core.Abci.Finalize
import OpenAudio.Lib.Protobuf

/-!
# The two versions of a transaction on the wire

A block holds bytes. `isValidSignedTransaction` is tried first, and only what it cannot decode is
looked at as a transaction of the second version. Both messages begin with two length-delimited
fields: text in `core.v1.SignedTransaction`, nested messages in `core.v1beta1.Transaction`. A
transaction of the second version whose two nested messages happen to be text is therefore taken
for a signed transaction without a body.
-/

namespace OpenAudio.Core

open Protobuf Prog

namespace Wire

/-- The decoders of the messages a transaction nests. -/
structure Nested where
  /-- a member of the oneof of `core.v1.SignedTransaction`, by its number, merged into the one
  there is -/
  body : Option TxBody → Nat → Bytes → Option TxBody
  /-- `core.v1beta1.Message` -/
  message : Bytes → Option V2Message

/-! ### `core.v1.SignedTransaction` -/

section Decoders

variable (nested : Nested)

/-- One field. A number of the schema with another wire type is as unknown as another number. -/
def signedField (stx : SignedTransaction) (f : Field) : Option SignedTransaction :=
  match f.num, f.value with
  | 1, .bytes b => (text b).map fun t => { stx with signature := t }
  | 2, .bytes b => (text b).map fun t => { stx with requestId := t }
  | num, .bytes b =>
    if 1000 ≤ num ∧ num ≤ 1014 then
      (nested.body stx.transaction num b).map fun body => { stx with transaction := some body }
    else some { stx with unknown := stx.unknown ++ f.raw }
  | _, _ => some { stx with unknown := stx.unknown ++ f.raw }

/-- `proto.Unmarshal` into a `core.v1.SignedTransaction` -/
def unmarshalSigned (bytes : Bytes) : Option SignedTransaction :=
  unmarshalInto (signedField nested) {} bytes

end Decoders

/-! ### `core.v1beta1.Transaction` -/

/-- `core.v1beta1.Signature` -/
structure Signature where
  type : Int := 0
  signature : Bytes := []
deriving DecidableEq, Repr

def signatureField (sig : Signature) (f : Field) : Option Signature :=
  match f.num, f.value with
  | 1, .varint n => some { sig with type := int32 n }
  | 2, .bytes b => some { sig with signature := b }
  | _, _ => some sig

def headerField (header : EnvelopeHeader) (f : Field) : Option EnvelopeHeader :=
  match f.num, f.value with
  | 1, .bytes b => (text b).map fun t => { header with chainId := t }
  | 2, .varint n => some { header with expiration := int64 n }
  | 3, .bytes b => (text b).map fun t => { header with nonce := t }
  | 4, .bytes b => (text b).map fun t => { header with sender := t }
  | 5, .bytes b => (text b).map fun t => { header with receiver := t }
  | _, _ => some header

section Decoders

variable (nested : Nested)

/-- One field. A header that comes twice is merged. -/
def envelopeField (envelope : Envelope) (f : Field) : Option Envelope :=
  match f.num, f.value with
  | 1, .bytes b =>
    (unmarshalInto headerField (envelope.header.getD {}) b).map fun header =>
      { envelope with header := some header }
  | 2, .bytes b =>
    (nested.message b).map fun message =>
      { envelope with messages := envelope.messages ++ [message] }
  | _, _ => some envelope

/-- One field. The signature has to be one, but nothing reads it. -/
def v2Field (tx : V2Transaction) (f : Field) : Option V2Transaction :=
  match f.num, f.value with
  | 1, .bytes b =>
    (unmarshalInto signatureField {} b).map fun _ => { tx with unknown := tx.unknown ++ f.raw }
  | 2, .bytes b =>
    (unmarshalInto (envelopeField nested) (tx.envelope.getD {}) b).map fun envelope =>
      { tx with envelope := some envelope }
  | _, _ => some { tx with unknown := tx.unknown ++ f.raw }

/-- `proto.Unmarshal` into a `core.v1beta1.Transaction` -/
def unmarshalV2 (bytes : Bytes) : Option V2Transaction := unmarshalInto (v2Field nested) {} bytes

end Decoders

/-! ### Encoding the second version -/

def Signature.marshal (sig : Signature) : Bytes := int64Field 1 sig.type ++ opaqueField 2 sig.signature

def marshalHeader (header : EnvelopeHeader) : Bytes :=
  stringField 1 header.chainId ++ (int64Field 2 header.expiration ++
    (stringField 3 header.nonce ++ (stringField 4 header.sender ++
      stringField 5 header.receiver)))

/-- A message of an envelope, with its wire form. -/
structure WireMessage (nested : Nested) where
  wire : Bytes
  message : V2Message
  decodes : nested.message wire = some message

/-- A `core.v1beta1.Transaction` with a signature, an envelope and a header in it. -/
structure SignedEnvelope (nested : Nested) where
  signature : Signature
  header : EnvelopeHeader
  messages : List (WireMessage nested)
  /-- an enum is an `int32` -/
  type_range : -2 ^ 31 ≤ signature.type ∧ signature.type < 2 ^ 31
  /-- an `int64` -/
  expiration_range : -2 ^ 63 ≤ header.expiration ∧ header.expiration < 2 ^ 63

namespace SignedEnvelope

variable {nested : Nested} (tx : SignedEnvelope nested)

def envelope : Envelope := ⟨some tx.header, tx.messages.map (·.message)⟩

def marshalEnvelope : Bytes :=
  bytesField 1 (marshalHeader tx.header) ++ (tx.messages.map (bytesField 2 ·.wire)).flatten

/-- `proto.Marshal` of the transaction -/
def marshal : Bytes := bytesField 1 tx.signature.marshal ++ bytesField 2 tx.marshalEnvelope

def decoded : V2Transaction := ⟨some tx.envelope, bytesField 1 tx.signature.marshal⟩

end SignedEnvelope

/-! ### Round trips -/

theorem unmarshalInto_signature {sig : Signature} (htype : -2 ^ 31 ≤ sig.type ∧ sig.type < 2 ^ 31)
    (hsize : sig.marshal.length < 2 ^ 63) :
    unmarshalInto signatureField {} sig.marshal = some sig := by
  have hbytes : sig.signature.length < 2 ^ 64 := by
    have hle := length_le_opaqueField 2 sig.signature
    rw [Signature.marshal, List.length_append] at hsize
    omega
  have htypeField : unmarshalInto signatureField {} sig.marshal =
      unmarshalInto signatureField { type := sig.type } (opaqueField 2 sig.signature) := by
    apply unmarshalInto_int64Field (by decide) (by decide)
    · intro h
      rw [h]
    · simp only [signatureField, int32_uint64 htype.1 htype.2]
  have hsigField : unmarshalInto signatureField { type := sig.type }
      (opaqueField 2 sig.signature ++ []) = unmarshalInto signatureField sig [] := by
    apply unmarshalInto_opaqueField (by decide) (by decide) hbytes
    · intro h
      rw [← h]
    · rfl
  rw [htypeField, ← List.append_nil (opaqueField 2 sig.signature), hsigField, unmarshalInto_nil]

theorem length_le_stringField (num : Nat) (s : String) :
    (textBytes s).length ≤ (stringField num s).length := length_le_opaqueField num (textBytes s)

theorem unmarshalInto_header {header : EnvelopeHeader}
    (hexp : -2 ^ 63 ≤ header.expiration ∧ header.expiration < 2 ^ 63)
    (hsize : (marshalHeader header).length < 2 ^ 63) :
    unmarshalInto headerField {} (marshalHeader header) = some header := by
  have hchain := length_le_stringField 1 header.chainId
  have hnonce := length_le_stringField 3 header.nonce
  have hsender := length_le_stringField 4 header.sender
  have hreceiver := length_le_stringField 5 header.receiver
  simp only [marshalHeader, List.length_append] at hsize
  obtain ⟨chainId, expiration, nonce, sender, receiver⟩ := header
  dsimp only at hexp hchain hnonce hsender hreceiver hsize
  unfold marshalHeader
  rw [← List.append_nil (stringField 5 _)]
  -- one field after the other, each on what the ones before have set
  have hstring (num : Nat) (hnum : 0 < num ∧ num < 2 ^ 29) (s : String)
      (hs : (textBytes s).length < 2 ^ 64) (set : String → EnvelopeHeader)
      (hset : ∀ b raw, headerField (set "") ⟨num, .bytes b, raw⟩ = (text b).map set)
      (rest : Bytes) :
      unmarshalInto headerField (set "") (stringField num s ++ rest) =
        unmarshalInto headerField (set s) rest :=
    unmarshalInto_stringField hnum.1 hnum.2 hs set rfl (hset _ _) rest
  have h1 := hstring 1 (by decide) chainId (by omega) (⟨·, 0, "", "", ""⟩) (fun _ _ => rfl)
  have h3 := hstring 3 (by decide) nonce (by omega) (⟨chainId, expiration, ·, "", ""⟩)
    (fun _ _ => rfl)
  have h4 := hstring 4 (by decide) sender (by omega) (⟨chainId, expiration, nonce, ·, ""⟩)
    (fun _ _ => rfl)
  have h5 := hstring 5 (by decide) receiver (by omega) (⟨chainId, expiration, nonce, sender, ·⟩)
    (fun _ _ => rfl)
  have h2 (rest : Bytes) :
      unmarshalInto headerField ⟨chainId, 0, "", "", ""⟩ (int64Field 2 expiration ++ rest) =
        unmarshalInto headerField ⟨chainId, expiration, "", "", ""⟩ rest := by
    apply unmarshalInto_int64Field (by decide) (by decide)
    · intro h
      rw [h]
    · simp only [headerField, int64_uint64 hexp.1 hexp.2]
  rw [h1, h2, h3, h4, h5, unmarshalInto_nil]

section RoundTrip

variable {nested : Nested}

theorem unmarshalInto_messages (messages : List (WireMessage nested))
    (hsize : (messages.map (bytesField 2 ·.wire)).flatten.length < 2 ^ 63) (envelope : Envelope) :
    unmarshalInto (envelopeField nested) envelope (messages.map (bytesField 2 ·.wire)).flatten =
      some { envelope with messages := envelope.messages ++ messages.map (·.message) } := by
  induction messages generalizing envelope with
  | nil => simp
  | cons m messages ih =>
    simp only [List.map_cons, List.flatten_cons, List.length_append] at hsize
    have hwire := length_le_bytesField 2 m.wire
    have hfirst : envelopeField nested envelope ⟨2, .bytes m.wire, bytesField 2 m.wire⟩ =
        some { envelope with messages := envelope.messages ++ [m.message] } := by
      simp only [envelopeField, m.decodes, Option.map_some]
    rw [List.map_cons, List.flatten_cons,
      unmarshalInto_bytesField (by decide) (by decide) _ _ (by omega), hfirst, Option.bind_some,
      ih (by omega)]
    simp

namespace SignedEnvelope

variable {tx : SignedEnvelope nested}

theorem unmarshalInto_marshalEnvelope (hsize : tx.marshalEnvelope.length < 2 ^ 63) :
    unmarshalInto (envelopeField nested) {} tx.marshalEnvelope = some tx.envelope := by
  have hheader := length_le_bytesField 1 (marshalHeader tx.header)
  simp only [marshalEnvelope, List.length_append] at hsize
  have hfirst : envelopeField nested {}
      ⟨1, .bytes (marshalHeader tx.header), bytesField 1 (marshalHeader tx.header)⟩ =
        some { header := some tx.header } := by
    simp only [envelopeField, Option.getD_none]
    rw [unmarshalInto_header tx.expiration_range (by omega), Option.map_some]
  unfold marshalEnvelope
  rw [unmarshalInto_bytesField (by decide) (by decide) _ _ (by omega), hfirst, Option.bind_some,
    unmarshalInto_messages tx.messages (by omega)]
  rfl

theorem unmarshalInto_marshal {α : Type} (step : α → Field → Option α) (a : α)
    (hsize : tx.marshal.length < 2 ^ 63) :
    unmarshalInto step a tx.marshal =
      (step a ⟨1, .bytes tx.signature.marshal, bytesField 1 tx.signature.marshal⟩).bind
        (step · ⟨2, .bytes tx.marshalEnvelope, bytesField 2 tx.marshalEnvelope⟩) := by
  have hsig := length_le_bytesField 1 tx.signature.marshal
  have henv := length_le_bytesField 2 tx.marshalEnvelope
  simp only [marshal, List.length_append] at hsize
  have hsecond : ∀ b, unmarshalInto step b (bytesField 2 tx.marshalEnvelope) =
      step b ⟨2, .bytes tx.marshalEnvelope, bytesField 2 tx.marshalEnvelope⟩ := by
    intro b
    rw [← List.append_nil (bytesField 2 _),
      unmarshalInto_bytesField (by decide) (by decide) _ _ (by omega), List.append_nil]
    simp only [unmarshalInto_nil, Option.bind_fun_some]
  unfold marshal
  rw [unmarshalInto_bytesField (by decide) (by decide) _ _ (by omega)]
  simp only [hsecond]

theorem unmarshalV2_marshal (hsize : tx.marshal.length < 2 ^ 63) :
    unmarshalV2 nested tx.marshal = some tx.decoded := by
  unfold unmarshalV2
  rw [unmarshalInto_marshal _ _ hsize]
  have hsig := length_le_bytesField 1 tx.signature.marshal
  have henv := length_le_bytesField 2 tx.marshalEnvelope
  simp only [marshal, List.length_append] at hsize
  simp only [v2Field]
  rw [unmarshalInto_signature tx.type_range (by omega), Option.map_some, Option.bind_some]
  simp only [Option.getD_none]
  rw [unmarshalInto_marshalEnvelope (by omega), Option.map_some]
  rfl

theorem unmarshalSigned_marshal (hsize : tx.marshal.length < 2 ^ 63) :
    unmarshalSigned nested tx.marshal =
      (text tx.signature.marshal).bind fun signature =>
        (text tx.marshalEnvelope).map fun requestId =>
          { signature := signature, requestId := requestId } := by
  unfold unmarshalSigned
  rw [unmarshalInto_marshal _ _ hsize]
  simp only [signedField]
  cases text tx.signature.marshal <;> rfl

theorem unmarshalSigned_marshal_eq_none_iff (hsize : tx.marshal.length < 2 ^ 63) :
    unmarshalSigned nested tx.marshal = none ↔
      ¬ (ValidUtf8 tx.signature.marshal ∧ ValidUtf8 tx.marshalEnvelope) := by
  rw [unmarshalSigned_marshal hsize, ← text_isSome_iff, ← text_isSome_iff]
  cases text tx.signature.marshal <;> cases text tx.marshalEnvelope <;> simp

end SignedEnvelope

end RoundTrip

end Wire

/-! ### What a node does with the second version -/

namespace Server

variable {nested : Wire.Nested} (s : Server) (tx : Wire.SignedEnvelope nested)

/-- The transaction is never taken for a signed one: validation is that of the second version, and
so is finalization. -/
structure HandledAsV2 : Prop where
  undecoded : s.ext.unmarshalSigned tx.marshal = none
  validated : ∀ rules blockTime blockHeight misbehavior,
    s.validateBlockTx rules blockTime blockHeight misbehavior tx.marshal =
      pure (passed (s.validateV2Transaction blockHeight tx.decoded))
  finalized : ∀ req index,
    s.executeTx req index tx.marshal = s.executeV2 req index tx.marshal tx.envelope tx.header

variable {s tx}

theorem executeV2_ne_invalid (req : FinalizeBlockRequest) (index : Nat) (bytes : Bytes)
    (envelope : Envelope) (header : EnvelopeHeader) :
    s.executeV2 req index bytes envelope header ≠ pure (.invalid, .none) := by
  intro h
  have hrun : s.executeV2 req index bytes envelope header (Txn.begin s.committed) =
      (.ok (.invalid, .none), Txn.begin s.committed) := by
    rw [h]
    rfl
  obtain ⟨outcome, t, -, hrun⟩ := bind_eq_ok hrun
  obtain ⟨-, t, -, hrun⟩ := bind_eq_ok hrun
  have hcode : (.ok (if outcome.isOk then .ok else .failed, .none) :
      Except GoError (TxCode × UpdateEffect)) = .ok (.invalid, .none) := congrArg Prod.fst hrun
  split at hcode <;> simp at hcode

section

variable (hsigned : s.ext.unmarshalSigned = Wire.unmarshalSigned nested)

variable (hv2 : s.ext.unmarshalV2 = Wire.unmarshalV2 nested)

variable (hchain : tx.header.chainId = s.config.chainID) (hsize : tx.marshal.length < 2 ^ 63)

include hv2 hchain hsize

theorem isValidV2Transaction_marshal (hexp : ¬ tx.header.expiration < s.cache.currentHeight) :
    s.isValidV2Transaction tx.marshal = .ok (tx.decoded, tx.envelope, tx.header) := by
  apply (s.isValidV2Transaction_eq_ok).mpr
  have hdecoded : s.ext.unmarshalV2 tx.marshal = some tx.decoded := by
    rw [hv2]
    exact Wire.SignedEnvelope.unmarshalV2_marshal hsize
  exact ⟨hdecoded, rfl, rfl, hchain, hexp⟩

theorem handledAsV2_of_undecoded (hnone : s.ext.unmarshalSigned tx.marshal = none)
    (hexp : ¬ tx.header.expiration < s.cache.currentHeight) : HandledAsV2 s tx := by
  have hvalid := isValidV2Transaction_marshal hv2 hchain hsize hexp
  constructor
  · exact hnone
  · intro rules blockTime blockHeight misbehavior
    simp only [validateBlockTx, validateUnsigned, hnone, hvalid]
  · intro req index
    simp only [executeTx, hnone, hvalid]

include hsigned

/-- The second version is handled as such unless its signature and its envelope are both valid
UTF-8 on the wire, or it has expired by the height in the cache. -/
theorem handledAsV2_iff :
    HandledAsV2 s tx ↔
      ¬ (ValidUtf8 tx.signature.marshal ∧ ValidUtf8 tx.marshalEnvelope) ∧
        ¬ tx.header.expiration < s.cache.currentHeight := by
  rw [← Wire.SignedEnvelope.unmarshalSigned_marshal_eq_none_iff hsize, ← hsigned]
  constructor
  · intro h
    refine ⟨h.undecoded, fun hexp => ?_⟩
    -- an expired one is invalid to `FinalizeBlock`
    have hinvalid : ∀ r, s.isValidV2Transaction tx.marshal ≠ .ok r := by
      intro r hr
      obtain ⟨hdecoded, henv, hheader, -, hlive⟩ := (s.isValidV2Transaction_eq_ok).mp hr
      rw [hv2, Wire.SignedEnvelope.unmarshalV2_marshal hsize, Option.some.injEq] at hdecoded
      rw [← hdecoded] at henv
      have henvelope : tx.envelope = r.2.1 := Option.some.inj henv
      rw [← henvelope] at hheader
      have hhead : tx.header = r.2.2 := Option.some.inj hheader
      exact hlive (hhead ▸ hexp)
    have hrun := h.finalized ⟨[], [], [], 0, {}, []⟩ 0
    simp only [executeTx, h.undecoded] at hrun
    split at hrun
    · rename_i hok
      exact hinvalid _ hok
    · exact executeV2_ne_invalid _ _ _ _ _ hrun.symm
  · rintro ⟨hnone, hexp⟩
    exact handledAsV2_of_undecoded hv2 hchain hsize hnone hexp

end

def emptyMessages : Wire.Nested where
  body _ _ _ := none
  message b := if b = [] then some .empty else none

def wireNode : Server :=
  { devnet {} Db.empty with
    ext := { ({} : Externals.Recorded).externals with
      unmarshalSigned := Wire.unmarshalSigned emptyMessages
      unmarshalV2 := Wire.unmarshalV2 emptyMessages } }

def envelopeUntil100 (signature : Bytes) : Wire.SignedEnvelope emptyMessages where
  signature := ⟨1, signature⟩
  header := { chainId := "openaudio-devnet", expiration := 100, nonce := "1", sender := "a" }
  messages := [⟨[], .empty, rfl⟩]
  type_range := by constructor <;> simp
  expiration_range := by constructor <;> simp

/-- The byte of the signature is no text. -/
theorem handledAsV2_envelopeUntil100 : HandledAsV2 wireNode (envelopeUntil100 [0xff]) :=
  (handledAsV2_iff rfl rfl rfl (by decide +kernel)).mpr (by decide +kernel)

/-- With a signature of two ASCII characters the voter takes the transaction for a signed one
without a body, and passes it at a height by which it has expired. -/
theorem envelopeUntil100_taken_for_signed :
    (envelopeUntil100 [0x61, 0x62]).header.chainId = wireNode.config.chainID ∧
      ¬ HandledAsV2 wireNode (envelopeUntil100 [0x61, 0x62]) ∧
      wireNode.validateBlockTx (wireNode.rules 200) {} 200 []
        (envelopeUntil100 [0x61, 0x62]).marshal = pure true ∧
      passed (wireNode.validateV2Transaction 200 (envelopeUntil100 [0x61, 0x62]).decoded) =
        false := by
  have hbody : (wireNode.ext.unmarshalSigned (envelopeUntil100 [0x61, 0x62]).marshal).map
      (·.transaction) = some none := by decide +kernel
  obtain ⟨stx, hstx, hnone⟩ := Option.map_eq_some_iff.mp hbody
  refine ⟨rfl, ?_, ?_, by decide +kernel⟩
  · intro h
    rw [h.undecoded] at hstx
    cases hstx
  · simp only [validateBlockTx, hstx, hnone]

end Server

end OpenAudio.Core
