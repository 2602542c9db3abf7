import OpenAudio.Core.Abci.Validate

/-!
# Execution of a block

`FinalizeBlock` runs the transactions of a block in order on one Postgres transaction, and `Commit`
commits it. A transaction that fails gets a result code and the block goes on, whatever it did to
the Postgres transaction before.
-/

namespace OpenAudio.Core

open Prog

/-- The code of a transaction's result. -/
inductive TxCode where
  | ok
  /-- 1: the bytes are no transaction -/
  | invalid
  /-- 2: finalization failed -/
  | failed
deriving DecidableEq, Repr

/-- What a transaction does to the validator updates of the block. -/
inductive UpdateEffect where
  | none
  /-- recorded unless the address has an update already -/
  | add (address : String) (update : ValidatorUpdate)
  /-- recorded in place of any earlier one -/
  | replace (address : String) (update : ValidatorUpdate)
deriving DecidableEq, Repr

/-- The type name `persistTxStat` records. A finalizer that declares its own message type hands
back a typed nil on failure, which is recorded like a message; one that declares `proto.Message`
hands back nothing. -/
def statType (body : Option TxBody) (succeeded : Bool) : Option String :=
  match body with
  | none => none
  | some (.plays _) => some "track_plays"
  | some (.manageEntity _) => some "manage_entity_legacy"
  | some (.manageEntityMigration _) => some "manage_entity_legacy_migration"
  | some (.attestation _) => some "signed_transaction"
  | some (.validatorRegistration _) => some "validator_registration_legacy"
  | some (.validatorDeregistration _) => some "validator_misbehavior_deregistration"
  | some (.slaRollup _) => some "sla_rollup"
  | some (.storageProof _) => some "storage_proof"
  | some (.storageProofVerification _) => some "storage_proof_verification"
  | some (.release _) => some "signed_transaction"
  | some (.reward _) => if succeeded then some "reward_message" else none
  | some (.rewardPool _) => if succeeded then some "reward_pool_message" else none
  | some (.contentAttestation _) => none
  | some (.fileUpload _) => none
  | some (.mediorumOperation _) => if succeeded then some "mediorum_operation" else none

namespace Server

variable (s : Server)

def finalizeTransaction (req : FinalizeBlockRequest) (stx : SignedTransaction) (txHash : String) :
    BlockProg Unit :=
  match stx.transaction with
  | none => fail (.plain ("unhandled proto event: " ++ s.ext.formatTx stx ++ " <nil>"))
  | some (.plays _) => pure ()
  | some (.manageEntity em) => s.finalizeManageEntity em req.height
  | some (.manageEntityMigration me) => s.finalizeManageEntityMigration me
  | some (.attestation att) => s.finalizeAttestation stx att req.height
  | some (.validatorRegistration vr) => s.finalizeLegacyRegisterNode stx vr req.height
  | some (.validatorDeregistration vd) =>
    s.finalizeDeregisterMisbehavingNode stx vd req.misbehavior
  | some (.slaRollup rollup) => finalizeSlaRollup rollup txHash
  | some (.storageProof sp) => s.finalizeStorageProof stx sp req.height
  | some (.storageProofVerification spv) => s.finalizeStorageProofVerification spv req.height
  | some (.release _) => pure ()
  | some (.reward msg) => s.finalizeRewards req txHash 0 msg
  | some (.rewardPool msg) => s.finalizeRewardPoolTransaction req msg txHash 0
  | some (.contentAttestation ca) => s.finalizeContentAttestation ca txHash req.height
  | some (.fileUpload fu) => s.finalizeFileUpload fu txHash req.height
  | some (.mediorumOperation op) => s.finalizeMediorumOperation stx op

/-! ### Validator updates -/

/-- The comet address a deregistration names, empty for any other transaction. -/
def deregisteredAddress (body : Option TxBody) : String :=
  match body with
  | some (.attestation att) =>
    match att.body with
    | some (.validatorDeregistration dereg) => dereg.cometAddress
    | _ => ""
  | some (.validatorDeregistration vd) => vd.cometAddress
  | _ => ""

/-- `deregistrationNeedsValidatorUpdate`: the node is there and not jailed. -/
def deregistrationNeedsValidatorUpdate (stx : SignedTransaction) : BlockProg Bool :=
  let cometAddress := deregisteredAddress stx.transaction
  if cometAddress = "" then pure false
  else do
    let node ← attempt
      (BlockProg.query (Db.getRegisteredNodeByCometAddress s.ext.rows cometAddress))
    match node with
    | .ok (some node) => pure (!node.jailed)
    | _ => pure false

/-- What `registeredNodeValidatorUpdate` makes of the row it found. -/
def updateForNode (pubKey : Bytes) (power : Int) (node : Except GoError (Option ValidatorRow)) :
    Option (String × ValidatorUpdate) :=
  match node with
  | .ok (some node) =>
    if node.jailed = false ∧
        s.rt.equalFold (s.ext.cometAddress pubKey) node.cometAddress.val = true then
      some (s.ext.cometAddress pubKey, ⟨power, pubKey⟩)
    else none
  | _ => none

def registeredNodeValidatorUpdate (cometAddress : String) (pubKey : Bytes) (power : Int) :
    BlockProg (Option (String × ValidatorUpdate)) :=
  if cometAddress = "" ∨ pubKey.length ≠ ed25519PubKeySize then pure none
  else do
    let node ← attempt
      (BlockProg.query (Db.getRegisteredNodeByCometAddress s.ext.rows cometAddress))
    pure (s.updateForNode pubKey power node)

def appendRegistrationToValidatorHistory (reg : ValidatorRegistration)
    (req : FinalizeBlockRequest) : BlockProg Unit :=
  match parseInt64 reg.spId with
  | none => fail (.plain ("strconv.ParseInt: parsing " ++ s.rt.quote reg.spId))
  | some spId =>
    BlockProg.exec (Db.appendValidatorHistory reg.endpoint reg.delegateWallet reg.cometAddress spId
      reg.nodeType .registered req.time.micros req.height)

/-- `appendDeregistrationToValidatorHistory`: the row is read from the committed database. -/
def appendDeregistrationToValidatorHistory (dereg : ValidatorDeregistration)
    (req : FinalizeBlockRequest) : BlockProg Unit :=
  match s.readOne (Db.getRegisteredNodeByCometAddress s.ext.rows dereg.cometAddress) with
  | .error e => fail (e.wrap "could not get metadata for node being deregistered")
  | .ok validator =>
    match parseInt64 validator.spId.val with
    | none => fail (.plain ("strconv.ParseInt: parsing " ++ s.rt.quote validator.spId.val))
    | some spId =>
      BlockProg.exec (Db.appendValidatorHistory validator.endpoint.val validator.ethAddress.val
        dereg.cometAddress spId validator.nodeType.val .deregistered req.time.micros req.height)

def addedUpdate (update : Option (String × ValidatorUpdate)) : UpdateEffect :=
  match update with
  | some (address, u) => .add address u
  | none => .none

/-- The update of an attested registration, with its entry in the validator history. -/
def registrationEffect (vr : ValidatorRegistration) (req : FinalizeBlockRequest) :
    BlockProg UpdateEffect := do
  let update ← s.registeredNodeValidatorUpdate vr.cometAddress vr.pubKey vr.power
  match update with
  | none => pure .none
  | some (address, u) => do
    BlockProg.logged (s.appendRegistrationToValidatorHistory vr req)
    pure (.add address u)

def removalEffect (emit : Bool) (pubKey : Bytes) : UpdateEffect :=
  if emit then .replace (s.ext.cometAddress pubKey) ⟨0, pubKey⟩ else .none

/-- What a finalized transaction does to the validator updates. -/
def validatorEffect (req : FinalizeBlockRequest) (body : Option TxBody) (emit : Bool) :
    BlockProg UpdateEffect :=
  match body with
  | some (.validatorRegistration vr) => do
    let update ← s.registeredNodeValidatorUpdate vr.cometAddress vr.pubKey vr.power
    pure (addedUpdate update)
  | some (.attestation att) =>
    match att.body with
    | some (.validatorRegistration vr) => s.registrationEffect vr req
    | some (.validatorDeregistration dereg) => do
      BlockProg.logged (s.appendDeregistrationToValidatorHistory dereg req)
      pure (s.removalEffect emit dereg.pubKey)
    | none => pure .none
  | some (.validatorDeregistration vd) => pure (s.removalEffect emit vd.pubKey)
  | _ => pure .none

/-! ### One transaction -/

def storeTx (req : FinalizeBlockRequest) (index : Nat) (tx : Bytes) : BlockProg Unit :=
  BlockProg.logged (BlockProg.exec (Db.storeTransaction req.height index
    (s.ext.toTxHashFromBytes tx) tx req.time.micros))

def persistTxStat (req : FinalizeBlockRequest) (txType : Option String) (txhash : String) :
    BlockProg Unit :=
  match txType with
  | none => pure ()
  | some name =>
    BlockProg.logged (BlockProg.exec (Db.insertTxStat name txhash req.height req.time.micros))

/-- The validator updates of a finalization: none when it failed. -/
def outcomeEffect (req : FinalizeBlockRequest) (body : Option TxBody) (emit : Bool)
    (outcome : Except GoError Unit) : BlockProg UpdateEffect :=
  match outcome with
  | .ok () => s.validatorEffect req body emit
  | .error _ => pure .none

def executeSigned (req : FinalizeBlockRequest) (index : Nat) (tx : Bytes)
    (stx : SignedTransaction) : BlockProg (TxCode × UpdateEffect) := do
  let emit ← s.deregistrationNeedsValidatorUpdate stx
  let txhash := s.ext.toTxHashFromBytes tx
  let outcome ← attempt (s.finalizeTransaction req stx txhash)
  let effect ← s.outcomeEffect req stx.transaction emit outcome
  s.storeTx req index tx
  persistTxStat req (statType stx.transaction outcome.isOk) txhash
  pure (if outcome.isOk then .ok else .failed, effect)

/-- A transaction of the second version: its finalization is confined to a savepoint. -/
def executeV2 (req : FinalizeBlockRequest) (index : Nat) (tx : Bytes) (envelope : Envelope)
    (header : EnvelopeHeader) : BlockProg (TxCode × UpdateEffect) := do
  let outcome ← attempt (withBlockSavepoint
    (s.finalizeV2Transaction req envelope header (s.ext.toTxHashFromBytes tx)))
  s.storeTx req index tx
  pure (if outcome.isOk then .ok else .failed, .none)

def executeTx (req : FinalizeBlockRequest) (index : Nat) (tx : Bytes) :
    BlockProg (TxCode × UpdateEffect) :=
  match s.ext.unmarshalSigned tx with
  | some stx => s.executeSigned req index tx stx
  | none =>
    match s.isValidV2Transaction tx with
    | .ok (_, envelope, header) => s.executeV2 req index tx envelope header
    | .error _ => pure (.invalid, .none)

/-! ### The block -/

/-- The validator updates of a block, under the address of their key. -/
abbrev Updates := Table String ValidatorUpdate

def applyEffect (updates : Updates) : UpdateEffect → Updates
  | .none => updates
  | .add address u => updates.insertNew address u
  | .replace address u => updates.insert address u

/-- The transactions from an index on: their codes and the updates they leave. -/
def executeTxs (req : FinalizeBlockRequest) :
    List Bytes → Nat → Updates → BlockProg (List TxCode × Updates)
  | [], _, updates => pure ([], updates)
  | tx :: txs, index, updates => do
    let (code, effect) ← s.executeTx req index tx
    let (codes, updates) ← executeTxs req txs (index + 1) (applyEffect updates effect)
    pure (code :: codes, updates)

def serializeAppState (prevHash : Bytes) (txs : List Bytes) : Bytes :=
  s.ext.sha256 (prevHash ++ txs.flatten)

/-- What `FinalizeBlock` does on the block's transaction. -/
def runBlock (req : FinalizeBlockRequest) : BlockProg (List TxCode × Updates) := do
  BlockProg.logged (BlockProg.exec (Db.storeBlock req.height s.config.chainID (encodeHex req.hash)
    (encodeHex req.proposerAddress) req.time.micros))
  let result ← s.executeTxs req req.txs 0 ∅
  BlockProg.logged (BlockProg.exec
    (Db.upsertAppState req.height (s.serializeAppState [] req.txs)))
  BlockProg.logged (BlockProg.exec (Db.upsertSlaRollupReport (upperHex req.proposerAddress)))
  pure result

/-- What `FinalizeBlock` returns and leaves behind. -/
structure FinalizedBlock where
  txResults : List TxCode
  appHash : Bytes
  validatorUpdates : Updates
  /-- the Postgres transaction `Commit` commits -/
  txn : Txn Db
  /-- whether a storage challenge was started, which happens outside the transaction -/
  challenged : Bool

def finalizeBlock (req : FinalizeBlockRequest) : FinalizedBlock :=
  let r := s.runBlock req (Txn.begin s.committed)
  let result := match r.1 with
    | .ok result => result
    | .error _ => ([], ∅)
  { txResults := result.1
    appHash := s.serializeAppState [] req.txs
    validatorUpdates := result.2
    txn := r.2
    -- `syncPoS`
    challenged := !s.cache.catchingUp && blockShouldTriggerNewPoSChallenge req.hash }

/-- `Commit`: the database after the block, or nothing when the transaction cannot be committed. -/
def commitBlock (req : FinalizeBlockRequest) : Option Db := (s.finalizeBlock req).txn.commit

end Server

end OpenAudio.Core
