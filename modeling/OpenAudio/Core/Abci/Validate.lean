import OpenAudio.Core.Auditor
import OpenAudio.Core.Content
import OpenAudio.Core.Pos
import OpenAudio.Core.Registration
import OpenAudio.Core.TransactionV2

/-!
# Validation of a proposed block

Each transaction is checked against the committed database; ManageEntity transactions are also
checked against an overlay the transactions before them in the proposal have written.
-/

namespace OpenAudio.Core

open Prog

def passed (r : Except GoError Unit) : Bool := r.isOk

namespace Server

variable (s : Server)

/-- A transaction that is not a signed one: it has to be a valid one of the second version. -/
def validateUnsigned (blockHeight : Int) (tx : Bytes) : Bool :=
  match s.isValidV2Transaction tx with
  | .error _ => false
  | .ok (v2, _, _) => passed (s.validateV2Transaction blockHeight v2)

/-- A rejection makes the block invalid; a store failure means this node cannot tell. -/
def verdict (r : Except GoError Unit) : Except GoError Bool :=
  match r with
  | .ok () => .ok true
  | .error e => if e.authRejected then .ok false else .error e

/-- The check of a ManageEntity transaction, which leaves its effects in the overlay. -/
def validateManageEntityTx (rules : Rules) (em : ManageEntityLegacy) : Prog Overlay GoError Bool :=
  if rules.authEnforced then do
    let r ← attempt (s.validateManageEntityAuth rules em)
    ofExcept (verdict r)
  else pure true

def validateBody (rules : Rules) (blockTime : Timestamp) (blockHeight : Int)
    (misbehavior : List Misbehavior) (stx : SignedTransaction) : TxBody → Except GoError Bool
  | .plays _ => .ok true
  | .manageEntity _ => .ok true
  | .manageEntityMigration _ => .ok (!rules.authEnforced)
  | .attestation att => .ok (passed (s.isValidAttestation stx att blockHeight))
  | .validatorRegistration _ => .ok false
  | .validatorDeregistration vd =>
    .ok (passed (s.isValidDeregisterMisbehavingNodeTx stx vd misbehavior))
  | .slaRollup rollup => .ok (s.isValidRollup blockTime blockHeight rollup)
  | .storageProof sp => .ok (passed (s.isValidStorageProofTx stx sp blockHeight))
  | .storageProofVerification spv => .ok (passed (s.isValidStorageProofVerificationTx spv blockHeight))
  | .release _ => .ok true
  | .reward msg => .ok (passed (s.isValidRewardTransaction msg blockHeight))
  | .contentAttestation ca =>
    if rules.contentAuthEnforced then verdict (s.isValidContentAttestation ca) else .ok true
  | .fileUpload fu => .ok (passed (s.isValidFileUpload fu))
  | .rewardPool msg => .ok (passed (s.isValidRewardPoolTransaction msg blockHeight))
  | .mediorumOperation op => .ok (passed (s.isValidMediorumOperationTx stx op))

def validateBlockTx (rules : Rules) (blockTime : Timestamp) (blockHeight : Int)
    (misbehavior : List Misbehavior) (tx : Bytes) : Prog Overlay GoError Bool :=
  match s.ext.unmarshalSigned tx with
  | none => pure (s.validateUnsigned blockHeight tx)
  | some stx =>
    match stx.transaction with
    | none => pure true
    | some (.manageEntity em) => s.validateManageEntityTx rules em
    | some body => ofExcept (s.validateBody rules blockTime blockHeight misbehavior stx body)

/-- The transactions of a proposal in order, from an overlay on. -/
def validateTxs (rules : Rules) (blockTime : Timestamp) (blockHeight : Int)
    (misbehavior : List Misbehavior) : List Bytes → Prog Overlay GoError Bool
  | [] => pure true
  | tx :: txs => do
    let valid ← s.validateBlockTx rules blockTime blockHeight misbehavior tx
    if valid then validateTxs rules blockTime blockHeight misbehavior txs else pure false

def validateBlockTxs (blockTime : Timestamp) (blockHeight : Int) (misbehavior : List Misbehavior)
    (txs : List Bytes) : Except GoError Bool :=
  (s.validateTxs (s.rules blockHeight) blockTime blockHeight misbehavior txs
    s.newProposalAuthOverlay).1

end Server

end OpenAudio.Core
