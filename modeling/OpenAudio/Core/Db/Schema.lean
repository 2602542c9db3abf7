import OpenAudio.Lib.Postgres
import OpenAudio.Lib.Table
import OpenAudio.Core.Types

/-!
# The consensus database

The tables a block writes and its validation reads. A table with a declared key is a `Table` under
that key, so its uniqueness holds by construction; a table without one is a list of rows in
insertion order. The committed reports of a rollup are kept with the rollup, which is what the
foreign key of `sla_node_reports` states. Serial ids that nothing reads are left out.
-/

namespace OpenAudio.Core

/-- `core_blocks`, under (height, chain_id). -/
structure BlockRow where
  hash : PgText
  proposer : PgText
  createdAt : Int
deriving DecidableEq

/-- `core_transactions`, under (block_id, index). -/
structure TransactionRow where
  txHash : PgText
  transaction : Bytes
  createdAt : Int
deriving DecidableEq

/-- `core_tx_stats`, under tx_hash. -/
structure TxStatRow where
  txType : PgText
  blockHeight : Int
  createdAt : Int
deriving DecidableEq

/-- `core_validators`: no column is unique. -/
structure ValidatorRow where
  pubKey : PgText
  endpoint : PgText
  ethAddress : PgText
  cometAddress : PgText
  cometPubKey : PgText
  ethBlock : PgText
  nodeType : PgText
  spId : PgText
  jailed : Bool
deriving DecidableEq

inductive ValidatorEvent where
  | registered
  | deregistered
deriving DecidableEq, Repr

/-- `validator_history`. -/
structure ValidatorHistoryRow where
  endpoint : PgText
  ethAddress : PgText
  cometAddress : PgText
  spId : Int
  serviceType : PgText
  eventType : ValidatorEvent
  eventTime : Int
  eventBlock : Int
deriving DecidableEq

/-- `sla_rollups`, under id, with the `sla_node_reports` that name it, under address. -/
structure SlaRollupRow where
  txHash : PgText
  blockStart : Int
  blockEnd : Int
  time : Int
  reports : Table PgText Int

/-- A row of `sla_node_reports` not yet in a rollup. -/
structure OpenReport where
  address : PgText
  blocksProposed : Int
deriving DecidableEq

inductive ProofStatus where
  | unresolved
  | pass
  | fail
deriving DecidableEq, Repr

/-- `storage_proofs`, under (address, block_height). -/
structure StorageProofRow where
  cid : Option PgText
  proofSignature : Option PgText
  proof : Option PgText
  proverAddresses : List PgText
  status : ProofStatus
deriving DecidableEq

/-- `core_rewards`. -/
structure RewardRow where
  address : PgText
  txHash : PgText
  index : Int
  sender : PgText
  rewardId : PgText
  name : PgText
  amount : Int
  rewardsManagerPubkey : Option PgText
  rawMessage : Bytes
  blockHeight : Int
deriving DecidableEq

/-- `core_uploads`. -/
structure UploadRow where
  uploaderAddress : PgText
  cid : PgText
  transcodedCid : PgText
  upid : PgText
  uploadSignature : PgText
  validatorAddress : PgText
  validatorSignature : PgText
  txHash : PgText
  blockHeight : Int
deriving DecidableEq

/-- `sound_recordings`. -/
structure SoundRecordingRow where
  soundRecordingId : PgText
  trackId : PgText
  cid : PgText
deriving DecidableEq

/-- `management_keys`. -/
structure ManagementKeyRow where
  trackId : PgText
  address : PgText
deriving DecidableEq

/-- `core_auth_users`, under user_id. -/
structure AuthUserRecord where
  wallet : PgText
  handleLc : Option PgText
  isDeactivated : Bool
deriving DecidableEq

/-- `core_auth_grants`, under (grantee_address, user_id). -/
structure AuthGrantRecord where
  isApproved : Option Bool
  isRevoked : Bool
deriving DecidableEq

/-- `core_auth_developer_apps`, under address. -/
structure AuthAppRecord where
  userId : Int
  isDeleted : Bool
deriving DecidableEq

/-- `core_auth_entities`, under (entity_type, entity_id). -/
structure AuthEntityRecord where
  ownerUserId : Int
  isDeleted : Bool
deriving DecidableEq

/-- `core_ern`, `core_mead` and `core_pie`; only an ERN has a control type. -/
structure DdexRow where
  address : PgText
  txHash : PgText
  index : Int
  sender : PgText
  messageControlType : Option MessageControlType
  rawMessage : Bytes
  rawAcknowledgment : Bytes
  blockHeight : Int
deriving DecidableEq

/-- `core_parties`, `core_resources`, `core_releases` and `core_deals`, under address. -/
structure ErnEntityRow where
  ernAddress : PgText
  entityType : PgText
  entityIndex : Int
  txHash : PgText
  blockHeight : Int
deriving DecidableEq

/-- The core_auth_* tables. -/
structure AuthTables where
  users : Table Int AuthUserRecord
  grants : Table (PgText × Int) AuthGrantRecord
  apps : Table PgText AuthAppRecord
  entities : Table (PgText × Int) AuthEntityRecord
  /-- `core_auth_cids`, under (cid, user_id), with its tx_hash -/
  cids : Table (PgText × Int) PgText

/-- The tables that decide who may stream a track. -/
structure TrackTables where
  soundRecordings : List SoundRecordingRow
  managementKeys : List ManagementKeyRow

/-- The tables of the DDEX messages. -/
structure DdexTables where
  erns : List DdexRow
  meads : List DdexRow
  pies : List DdexRow
  parties : Table PgText ErnEntityRow
  resources : Table PgText ErnEntityRow
  releases : Table PgText ErnEntityRow
  deals : Table PgText ErnEntityRow

/-- The tables of rewards and their pools. -/
structure RewardTables where
  rewards : List RewardRow
  pools : Table PgText (List PgText)
  launchpadAuthorityRm : Table PgText PgText

/-- The tables that record the chain itself. -/
structure ChainTables where
  blocks : Table (Int × PgText) BlockRow
  transactions : Table (Int × Int) TransactionRow
  txStats : Table PgText TxStatRow
  appState : Table (Int × Bytes) Unit

/-- The tables of the service level audit. -/
structure SlaTables where
  rollups : Table Int SlaRollupRow
  openReports : List OpenReport

/-- The database. -/
structure Db where
  chain : ChainTables
  validators : List ValidatorRow
  validatorHistory : List ValidatorHistoryRow
  sla : SlaTables
  storageProofs : Table (PgText × Int) StorageProofRow
  rewards : RewardTables
  uploads : List UploadRow
  tracks : TrackTables
  auth : AuthTables
  ddex : DdexTables

def Db.empty : Db where
  chain := ⟨∅, ∅, ∅, ∅⟩
  validators := []
  validatorHistory := []
  sla := ⟨∅, []⟩
  storageProofs := ∅
  rewards := ⟨[], ∅, ∅⟩
  uploads := []
  tracks := ⟨[], []⟩
  auth := ⟨∅, ∅, ∅, ∅, ∅⟩
  ddex := ⟨[], [], [], ∅, ∅, ∅, ∅⟩

end OpenAudio.Core
