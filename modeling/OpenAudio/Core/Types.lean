import OpenAudio.Lib.GoText

/-!
# Protocol messages

The transactions a block carries, as their protobuf messages declare them: the oneof of
`core.v1.SignedTransaction` and the envelope of `core.v1beta1.Transaction`. A message field is an
`Option` where the code looks at its absence; scalar fields hold their defaults. A message that is
marshalled again after it was decoded keeps the wire form of the fields its schema does not know
in `unknown`.
-/

namespace OpenAudio.Core

abbrev Bytes := List UInt8

/-- `google.protobuf.Timestamp`; an absent one reads as zero. -/
structure Timestamp where
  seconds : Int := 0
  nanos : Int := 0
deriving DecidableEq, Repr

/-- The instant at the precision of a Postgres `timestamp`, in microseconds. -/
def Timestamp.micros (t : Timestamp) : Int := t.seconds * 1000000 + t.nanos / 1000

/-! ### `core.v1` -/

structure TrackPlay where
  userId : String := ""
  trackId : String := ""
  timestamp : Timestamp := {}
  signature : String := ""
  city : String := ""
  region : String := ""
  country : String := ""
deriving DecidableEq, Repr

structure TrackPlays where
  plays : List TrackPlay := []
  unknown : Bytes := []
deriving DecidableEq, Repr

structure ValidatorRegistrationLegacy where
  endpoint : String := ""
  cometAddress : String := ""
  ethBlock : String := ""
  nodeType : String := ""
  spId : String := ""
  pubKey : Bytes := []
  power : Int := 0
  unknown : Bytes := []
deriving DecidableEq, Repr

structure SlaNodeReport where
  address : String := ""
  numBlocksProposed : Int := 0
  unknown : Bytes := []
deriving DecidableEq, Repr

structure SlaRollup where
  timestamp : Timestamp := {}
  blockStart : Int := 0
  blockEnd : Int := 0
  reports : List SlaNodeReport := []
deriving DecidableEq, Repr

structure ManageEntityLegacy where
  userId : Int := 0
  entityType : String := ""
  entityId : Int := 0
  action : String := ""
  metadata : String := ""
  signature : String := ""
  signer : String := ""
  nonce : String := ""
deriving DecidableEq, Repr

structure ManageEntityLegacyMigration where
  userId : Int := 0
  entityType : String := ""
  entityId : Int := 0
  action : String := ""
  metadata : String := ""
  signature : String := ""
  signer : String := ""
  nonce : String := ""
deriving DecidableEq, Repr

structure ValidatorMisbehaviorDeregistration where
  cometAddress : String := ""
  pubKey : Bytes := []
deriving DecidableEq, Repr

structure StorageProof where
  height : Int := 0
  address : String := ""
  proverAddresses : List String := []
  cid : String := ""
  proofSignature : Bytes := []
  unknown : Bytes := []
deriving DecidableEq, Repr

structure StorageProofVerification where
  height : Int := 0
  proof : Bytes := []
deriving DecidableEq, Repr

structure ValidatorRegistration where
  delegateWallet : String := ""
  endpoint : String := ""
  nodeType : String := ""
  spId : String := ""
  ethBlock : Int := 0
  cometAddress : String := ""
  pubKey : Bytes := []
  power : Int := 0
  deadline : Int := 0
  unknown : Bytes := []
deriving DecidableEq, Repr

structure ValidatorDeregistration where
  cometAddress : String := ""
  pubKey : Bytes := []
  deadline : Int := 0
  remove : Bool := false
  unknown : Bytes := []
deriving DecidableEq, Repr

inductive AttestationBody where
  | validatorRegistration (vr : ValidatorRegistration)
  | validatorDeregistration (dereg : ValidatorDeregistration)
deriving DecidableEq, Repr

structure Attestation where
  signatures : List String := []
  body : Option AttestationBody := none
  unknown : Bytes := []
deriving DecidableEq, Repr

structure CreateReward where
  rewardId : String := ""
  name : String := ""
  amount : Nat := 0
  rewardsManagerPubkey : String := ""
  unknown : Bytes := []
deriving DecidableEq, Repr

structure DeleteReward where
  address : String := ""
deriving DecidableEq, Repr

inductive RewardAction where
  | create (msg : CreateReward)
  | delete (msg : DeleteReward)
deriving DecidableEq, Repr

structure RewardBody where
  deadlineBlockHeight : Int := 0
  action : Option RewardAction := none
  unknown : Bytes := []
deriving DecidableEq, Repr

structure ClaimAuthority where
  address : String := ""
  name : String := ""
deriving DecidableEq, Repr

structure LegacyCreateReward where
  rewardId : String := ""
  name : String := ""
  amount : Nat := 0
  claimAuthorities : List ClaimAuthority := []
  deadlineBlockHeight : Int := 0
  signature : String := ""
  unknown : Bytes := []
deriving DecidableEq, Repr

structure LegacyDeleteReward where
  address : String := ""
  deadlineBlockHeight : Int := 0
  signature : String := ""
deriving DecidableEq, Repr

inductive LegacyRewardAction where
  | create (msg : LegacyCreateReward)
  | delete (msg : LegacyDeleteReward)
deriving DecidableEq, Repr

/-- `RewardMessage`. `legacy` is what the fields unknown to the current schema decode to as a
`LegacyRewardMessage`: an error, no action, or an action. -/
structure RewardMessage where
  body : Option RewardBody := none
  signature : String := ""
  legacy : Except String (Option LegacyRewardAction) := .ok none
deriving DecidableEq, Repr

structure CreateRewardPool where
  rewardsManagerPubkey : String := ""
  authorities : List String := []
deriving DecidableEq, Repr

structure SetRewardPoolAuthorities where
  rewardsManagerPubkey : String := ""
  authorities : List String := []
deriving DecidableEq, Repr

inductive RewardPoolAction where
  | create (msg : CreateRewardPool)
  | setAuthorities (msg : SetRewardPoolAuthorities)
deriving DecidableEq, Repr

structure RewardPoolBody where
  deadlineBlockHeight : Int := 0
  action : Option RewardPoolAction := none
  unknown : Bytes := []
deriving DecidableEq, Repr

structure RewardPoolMessage where
  body : Option RewardPoolBody := none
  signature : String := ""
  rmOwnerSignature : Bytes := []
deriving DecidableEq, Repr

structure FileUpload where
  uploaderAddress : String := ""
  uploadSignature : String := ""
  cid : String := ""
  uploadId : String := ""
  transcodedCid : String := ""
  validatorAddress : String := ""
  validatorSignature : String := ""
deriving DecidableEq, Repr

structure MediorumOperation where
  ulid : String := ""
  host : String := ""
  action : String := ""
  table : String := ""
  data : Bytes := []
  unknown : Bytes := []
deriving DecidableEq, Repr

structure ContentAttestation where
  userId : Int := 0
  cids : List String := []
  validatorAddress : String := ""
  validatorSignature : String := ""
deriving DecidableEq, Repr

/-- The oneof `SignedTransaction.transaction`. A release is carried but never looked into. -/
inductive TxBody where
  | plays (msg : TrackPlays)
  | validatorRegistration (msg : ValidatorRegistrationLegacy)
  | slaRollup (msg : SlaRollup)
  | manageEntity (msg : ManageEntityLegacy)
  | validatorDeregistration (msg : ValidatorMisbehaviorDeregistration)
  | storageProof (msg : StorageProof)
  | storageProofVerification (msg : StorageProofVerification)
  | attestation (msg : Attestation)
  | release (raw : Bytes)
  | reward (msg : RewardMessage)
  | fileUpload (msg : FileUpload)
  | rewardPool (msg : RewardPoolMessage)
  | manageEntityMigration (msg : ManageEntityLegacyMigration)
  | mediorumOperation (msg : MediorumOperation)
  | contentAttestation (msg : ContentAttestation)
deriving DecidableEq, Repr

structure SignedTransaction where
  signature : String := ""
  requestId : String := ""
  transaction : Option TxBody := none
  unknown : Bytes := []
deriving DecidableEq, Repr

/-! ### `core.v1beta1` -/

inductive MessageControlType where
  | unspecified | newMessage | updatedMessage | takedownMessage | testMessage
  | other (n : Int)
deriving DecidableEq, Repr

structure ProprietaryId where
  namespaceId : String := ""
  id : String := ""
deriving DecidableEq, Repr

structure ErnHeader where
  messageControlType : Option MessageControlType := none
  messageId : String := ""
  /-- `message_sender.party_id.proprietary_ids`, empty where a part of the path is absent -/
  senderIds : List ProprietaryId := []
deriving DecidableEq, Repr

/-- A resource of an ERN: a sound recording with the URI of its delivery file where the whole path
to it is present, an image, or neither. -/
inductive ErnResource where
  | soundRecording (reference : String) (fileUri : Option String)
  | image (reference : String)
  | other
deriving DecidableEq, Repr

/-- `ddex.v1beta1.NewReleaseMessage` as consensus reads it; `raw` is its wire form and a deal is
its text form. -/
structure NewReleaseMessage where
  messageHeader : Option ErnHeader := none
  partyReferences : List String := []
  resources : List ErnResource := []
  /-- the reference of a main or track release, empty for any other -/
  releaseReferences : List String := []
  deals : List String := []
  raw : Bytes := []
deriving DecidableEq, Repr

inductive V2Message where
  | ern (msg : NewReleaseMessage)
  | mead (raw : Bytes)
  | pie (raw : Bytes)
  | empty
deriving DecidableEq, Repr

structure EnvelopeHeader where
  chainId : String := ""
  expiration : Int := 0
  nonce : String := ""
  sender : String := ""
  receiver : String := ""
deriving DecidableEq, Repr

structure Envelope where
  header : Option EnvelopeHeader := none
  messages : List V2Message := []
deriving DecidableEq, Repr

structure V2Transaction where
  envelope : Option Envelope := none
  unknown : Bytes := []
deriving DecidableEq, Repr

/-! ### ABCI -/

/-- Evidence against a validator, by its address. -/
structure Misbehavior where
  address : Bytes
deriving DecidableEq, Repr

/-- The fields of a `FinalizeBlockRequest` the application reads. -/
structure FinalizeBlockRequest where
  txs : List Bytes
  misbehavior : List Misbehavior
  hash : Bytes
  height : Int
  time : Timestamp
  proposerAddress : Bytes

/-- The fields of a `PrepareProposalRequest` the application reads. -/
structure PrepareProposalRequest where
  maxTxBytes : Int
  misbehavior : List Misbehavior
  height : Int
  time : Timestamp

structure ValidatorUpdate where
  power : Int
  pubKeyBytes : Bytes
deriving DecidableEq, Repr

end OpenAudio.Core
