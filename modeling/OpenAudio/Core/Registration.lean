import OpenAudio.Core.Server

/-!
# Validator registration and deregistration

Nodes join and leave the validator set through attestations their peers sign, and leave it through
evidence of misbehavior. A validator decides against the committed rows; finalization decides
against the rows of the block in progress.
-/

namespace OpenAudio.Core

open Prog

def maxRegistrationAttestationValidity : Int := 24 * 60 * 60

def maxDeregistrationAttestationValidity : Int := 24 * 60 * 60

/-- `ed25519.PubKeySize` -/
def ed25519PubKeySize : Nat := 32

def bigEndian64 (n : Int) : Bytes :=
  (List.range 8).reverse.map fun i => UInt8.ofNat ((n % 2 ^ 64).toNat / 256 ^ i % 256)

/-! ### Attestors -/

/-- `NodeTuples.Less`: by score, then by address. -/
def tupleLe (a b : String × Bytes) : Bool :=
  if a.2 = b.2 then decide (a.1 ≤ b.1) else decide (a.2 < b.2)

/-- `GetAttestorRendezvous`: the `size` addresses with the least scores under the key. -/
def getAttestorRendezvous (ext : Externals) (addresses : List String) (key : Bytes) (size : Int) :
    List String :=
  let tuples := addresses.map fun addr => (addr, ext.sha256 (textBytes addr ++ key))
  (((tuples.insertionSort fun a b => tupleLe a b = true).take size.toNat).map (·.1)).dedup

/-- Count the signers off against the rendezvous; each attestor counts once. -/
def countSigners : List String → List String → Int → Int
  | [], _, needed => needed
  | signer :: rest, rendezvous, needed =>
    if signer ∈ rendezvous then countSigners rest (rendezvous.erase signer) (needed - 1)
    else countSigners rest rendezvous needed

/-- `attestationHasEnoughSigners`. The order of the remaining addresses does not matter, since the
rendezvous sorts them. -/
def attestationHasEnoughSigners (ext : Externals) (db : Db) (signers : List String)
    (rendezvousKey : Bytes) (rendezvousSize signersNeeded : Int) (excludeAddress : String) :
    Bool :=
  let filtered := db.getAllEthAddressesOfRegisteredNodes.erase excludeAddress
  let needed := min (filtered.length : Int) signersNeeded
  decide (countSigners signers (getAttestorRendezvous ext filtered rendezvousKey rendezvousSize)
    needed ≤ 0)

/-! ### Signatures -/

/-- The full name of the message an attestation body is. -/
def AttestationBody.fullName : AttestationBody → String
  | .validatorRegistration _ => "core.v1.ValidatorRegistration"
  | .validatorDeregistration _ => "core.v1.ValidatorDeregistration"

def domainSeparatedAttestationBytes (ext : Externals) (chainID : String) (body : AttestationBody) :
    Bytes :=
  0 :: textBytes "openaudio/attestation/v1" ++ 0 :: bigEndian64 (textBytes chainID).length ++
    textBytes chainID ++ textBytes body.fullName ++ 0 :: ext.marshal (.attestationBody body)

def recoverSigners (ext : Externals) (signatures : List String) (data : Bytes) :
    Except GoError (List String) :=
  signatures.mapM fun sig =>
    match ext.ethRecover sig data with
    | .ok (_, address) => .ok address
    | .error e => .error (.plain ("invalid signature provided to attestation tx: " ++ e))

namespace Server

variable (s : Server)

def boundAttestationSignatures (att : Attestation) (body : AttestationBody) :
    Except GoError Unit :=
  let slots : Int := match body with
    | .validatorRegistration _ => s.config.attRegistrationRSize
    | .validatorDeregistration _ => s.config.attDeregistrationRSize
  refuseIf (slots < att.signatures.length)
    (.plain "more signatures than eligible attestor slots")

/-- The bound applies once the domain upgrade is active. -/
def enforceSignatureBound (att : Attestation) (body : AttestationBody) (blockHeight : Int) :
    Except GoError Unit :=
  if (s.rules blockHeight).attestationDomainEnforced then s.boundAttestationSignatures att body
  else .ok ()

def validatorAttestationBytes (body : AttestationBody) (blockHeight : Int) :
    Except GoError Bytes :=
  if (s.rules blockHeight).attestationDomainEnforced = false then
    .ok (s.ext.marshal (.attestationBody body))
  else if s.config.chainID = "" then
    .error (.plain ("could not marshal attestation body into bytes: " ++
      "missing attestation chain ID"))
  else .ok (domainSeparatedAttestationBytes s.ext s.config.chainID body)

/-! ### Registration -/

def validateValidatorEndpoint (endpoint : String) : Except GoError Unit :=
  match s.ext.parseURL endpoint with
  | .error e => .error (.plain ("invalid validator endpoint: " ++ e))
  | .ok u =>
    refuseIf ((u.scheme ≠ "http" ∧ u.scheme ≠ "https") ∨ u.hostname = "" ∨ u.hasUser = true ∨
        u.rawQuery ≠ "" ∨ u.fragment ≠ "")
      (.plain ("invalid validator endpoint " ++ s.rt.quote endpoint))

def validateValidatorRegistration (vr : ValidatorRegistration) : Except GoError Unit := do
  s.validateValidatorEndpoint vr.endpoint
  refuseIf (vr.nodeType ∉ ["validator", "content-node", "discovery-node"])
    (.plain ("invalid validator node type " ++ s.rt.quote vr.nodeType))
  refuseIf ((parseInt64 vr.spId).all fun id => decide (id ≤ 0))
    (.plain ("invalid validator service provider ID " ++ s.rt.quote vr.spId))
  refuseIf (vr.ethBlock ≤ 0) (.plain "validator ethereum block must be positive")
  let size := vr.pubKey.length
  refuseIf (size ≠ ed25519PubKeySize)
    (.plain s!"incorrect pubkey size {size}, must be {ed25519PubKeySize}")

/-- The shape of a registration is checked once the domain upgrade is active. -/
def enforceRegistrationShape (vr : ValidatorRegistration) (blockHeight : Int) :
    Except GoError Unit :=
  if (s.rules blockHeight).attestationDomainEnforced then s.validateValidatorRegistration vr
  else .ok ()

/-- The comet address is free, or its node is jailed. -/
def checkCometAddressFree (vr : ValidatorRegistration) : Except GoError Unit :=
  match Db.getRegisteredNodeByCometAddress s.ext.rows vr.cometAddress s.committed with
  | .ok none => .ok ()
  | .ok (some existing) =>
    refuseIf (existing.jailed = false) (.plain ("address '" ++ vr.cometAddress ++
      "' is already registered on comet, node " ++ vr.endpoint ++ " attempted to acquire it"))
  | .error e => .error (.plain ("error checking comet address registration: " ++ e.message))

/-- The public key of an attestation is the one its comet address is made from. -/
def checkConsensusKey (pubKey : Bytes) (cometAddress missing : String) : Except GoError Unit := do
  refuseIf (pubKey = []) (.plain missing)
  let size := pubKey.length
  refuseIf (size ≠ ed25519PubKeySize)
    (.plain s!"incorrect pubkey size {size}, must by {ed25519PubKeySize}")
  let address := s.ext.cometAddress pubKey
  refuseIf (address ≠ cometAddress)
    (.plain s!"address does not match public key: {address} {cometAddress}")

def isValidRegisterNodeAttestation (tx : SignedTransaction) (att : Attestation)
    (vr : ValidatorRegistration) (signers : List String) (blockHeight : Int) :
    Except GoError Unit := do
  s.enforceRegistrationShape vr blockHeight
  refuseIf (tx.signature = "")
    (.plain ("no signature provided for registration tx: " ++ s.ext.formatTx tx))
  let (_, address) ← text "could not recover msg sig: "
    (s.ext.ethRecover tx.signature (s.ext.marshal (.attestation att)))
  let wallet := vr.delegateWallet
  refuseIf (address ≠ wallet)
    (.plain s!"signature address '{address}' does not match ethereum registration '{wallet}'")
  let power := vr.power
  refuseIf (power ≠ s.config.validatorVotingPower) (.plain s!"invalid voting power '{power}'")
  s.checkConsensusKey vr.pubKey vr.cometAddress
    ("public Key missing from " ++ vr.endpoint ++ " registration tx")
  s.checkCometAddressFree vr
  let endpoint := vr.endpoint
  let deadline := vr.deadline
  refuseIf (deadline < blockHeight ∨ blockHeight + maxRegistrationAttestationValidity < deadline)
    (.plain (s!"registration request for '{endpoint}' with deadline {deadline} is too new/old " ++
      s!"(current height is {blockHeight})"))
  refuseIf (attestationHasEnoughSigners s.ext s.committed signers (bigEndian64 vr.ethBlock)
      s.config.attRegistrationRSize s.config.attRegistrationMin "" = false)
    (.plain s!"not enough attestations provided to register validator at '{endpoint}'")

/-! ### Deregistration -/

def isValidDeregisterNodeAttestation (tx : SignedTransaction) (dereg : ValidatorDeregistration)
    (signers : List String) (blockHeight : Int) : Except GoError Unit := do
  let addr := dereg.cometAddress
  s.checkConsensusKey dereg.pubKey addr
    ("public Key missing from deregistration attestation: " ++ s.ext.formatTx tx)
  let deadline := dereg.deadline
  refuseIf (deadline < blockHeight ∨ blockHeight + maxDeregistrationAttestationValidity < deadline)
    (.plain (s!"fegistration request for '{addr}' with deadline {deadline} is too new/old " ++
      s!"(current height is {blockHeight})"))
  let node ← (s.readOne (Db.getRegisteredNodeByCometAddress s.ext.rows addr)).mapError
    (GoError.wrap "error getting eth address from node deregistration attestation")
  refuseIf (node.jailed = true ∧ dereg.remove = false)
    (.plain s!"validator '{addr}' is already jailed")
  refuseIf (attestationHasEnoughSigners s.ext s.committed signers dereg.pubKey
      s.config.attDeregistrationRSize s.config.attDeregistrationMin node.ethAddress.val = false)
    (.plain s!"not enough attestations provided to deregister validator '{addr}'")

def isValidAttestation (tx : SignedTransaction) (att : Attestation) (blockHeight : Int) :
    Except GoError Unit :=
  match att.body with
  | none => .error (.plain "unhandled attestation body: <nil>")
  | some body => do
    s.enforceSignatureBound att body blockHeight
    let bodyBytes ← s.validatorAttestationBytes body blockHeight
    let signerAddrs ← (recoverSigners s.ext att.signatures bodyBytes).mapError
      (GoError.wrap "could not recover signers")
    match body with
    | .validatorRegistration vr =>
      s.isValidRegisterNodeAttestation tx att vr signerAddrs blockHeight
    | .validatorDeregistration dereg =>
      s.isValidDeregisterNodeAttestation tx dereg signerAddrs blockHeight

def isValidDeregisterMisbehavingNodeTx (tx : SignedTransaction)
    (vd : ValidatorMisbehaviorDeregistration) (misbehavior : List Misbehavior) :
    Except GoError Unit := do
  refuseIf (tx.signature = "")
    (.plain ("no signature provided for deregistration tx: " ++ s.ext.formatTx tx))
  let addr := vd.cometAddress
  let existingNode ← (s.readOne (Db.getRegisteredNodeByCometAddress s.ext.rows addr)).mapError
    (GoError.wrap "not able to find registered node")
  refuseIf (existingNode.jailed = true) (.plain s!"validator '{addr}' is already jailed")
  s.checkConsensusKey vd.pubKey addr
    ("public Key missing from deregistration tx: " ++ s.ext.formatTx tx)
  refuseIf (misbehavior.all fun mb => upperHex mb.address != addr)
    (.plain ("no misbehavior found matching deregistration tx: " ++ s.ext.formatTx tx))

/-! ### Finalization -/

/-- What registration does when the wallet has a row: a jailed node with the same comet address is
unjailed, anything else is left alone. -/
def finalizeReregistration (existing : ValidatorRow) (vr : ValidatorRegistration) :
    BlockProg Unit :=
  if s.rt.equalFold existing.cometAddress.val vr.cometAddress = true ∧ existing.jailed = true then
    BlockProg.context "error unjailing registered node"
      (BlockProg.exec (Db.unjailRegisteredNode existing.cometAddress.val))
  else pure ()

/-- `finalizeRegisterNodeAttestation`. The stored key is the one recovered from the bytes of the
whole transaction, not the one validation recovered from the attestation. -/
def finalizeRegisterNodeAttestation (tx : SignedTransaction) (vr : ValidatorRegistration) :
    BlockProg Unit :=
  match s.ext.ethRecover tx.signature (s.ext.marshal (.signedTransaction tx)) with
  | .error e => fail (.plain ("could not recover signer: " ++ e))
  | .ok (pubKey, _) => do
    let existing ← BlockProg.context "error checking registered node"
      (BlockProg.query (Db.getRegisteredNodeByEthAddress s.ext.rows vr.delegateWallet))
    match existing with
    | none =>
      BlockProg.context "error inserting registered node"
        (BlockProg.exec (Db.insertRegisteredNode (s.ext.serializePublicKeyHex pubKey) vr.endpoint
          vr.delegateWallet vr.cometAddress (base64Encode vr.pubKey) (toString vr.ethBlock)
          vr.nodeType vr.spId))
    | some existing => s.finalizeReregistration existing vr

def finalizeDeregisterValidatorAttestation (dereg : ValidatorDeregistration) : BlockProg Unit :=
  if dereg.remove then
    BlockProg.context "error removing registered node"
      (BlockProg.exec (Db.deleteRegisteredNode dereg.cometAddress))
  else
    BlockProg.context "error jailing registered node"
      (BlockProg.exec (Db.jailRegisteredNode dereg.cometAddress))

def finalizeAttestation (tx : SignedTransaction) (att : Attestation) (blockHeight : Int) :
    BlockProg Unit :=
  match s.isValidAttestation tx att blockHeight with
  | .error e => fail (.wrap "invalid attestation during finalize step" e)
  | .ok () =>
    match att.body with
    | some (.validatorRegistration vr) => s.finalizeRegisterNodeAttestation tx vr
    | some (.validatorDeregistration dereg) => finalizeDeregisterValidatorAttestation dereg
    | none => fail (.plain ("unhandled attestation: " ++ s.ext.formatTx tx ++ " <nil>"))

def finalizeDeregisterMisbehavingNode (tx : SignedTransaction)
    (vd : ValidatorMisbehaviorDeregistration) (misbehavior : List Misbehavior) : BlockProg Unit :=
  match s.isValidDeregisterMisbehavingNodeTx tx vd misbehavior with
  | .error e => fail (.wrap "invalid deregister node tx" e)
  | .ok () =>
    BlockProg.context "error deleting registered node"
      (BlockProg.exec (Db.deleteRegisteredNode vd.cometAddress))

def finalizeLegacyRegisterNode (tx : SignedTransaction) (vr : ValidatorRegistrationLegacy)
    (blockHeight : Int) : BlockProg Unit :=
  if (s.rules blockHeight).legacyRegistrationClosed then
    fail (.plain "legacy validator registrations are closed")
  else
    match s.ext.ethRecover tx.signature (s.ext.marshal (.validatorRegistrationLegacy vr)) with
    | .error e => fail (.plain ("could not recover signer: " ++ e))
    | .ok (pubKey, address) => do
      -- an error of the lookup other than "no rows" falls through like a row
      let existing ← attempt
        (BlockProg.query (Db.getRegisteredNodeByEthAddress s.ext.rows address))
      match existing with
      | .ok none =>
        BlockProg.context "error inserting registered node"
          (BlockProg.exec (Db.insertRegisteredNode (s.ext.serializePublicKeyHex pubKey) vr.endpoint
            address vr.cometAddress (base64Encode vr.pubKey) vr.ethBlock vr.nodeType vr.spId))
      | _ => pure ()

end Server

end OpenAudio.Core
