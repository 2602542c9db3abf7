import OpenAudio.Etl.EntityManager
import Mathlib.Data.List.MinMax

/-!
# The blocks of the indexer

The indexer writes all rows of a block in one transaction of the database: the block itself, the
number the entity tables know it by, the height of the chain it has reached, and for every
transaction of the block an audit row next to what its kind writes. Each transaction runs in a
savepoint, so that the failure of one leaves the others alone; a block of migration transactions
alone is tried without savepoints first. The handlers of the entity tables are a parameter, as are
their tables. The texts of a block are columns of Core's own database and hold no U+0000; the texts
inside its transactions may.
-/

namespace OpenAudio.Etl

open OpenAudio.Core Prog

/-! ### The tables -/

/-- `etl_blocks`: no column is unique. -/
structure EtlBlockRow where
  proposerAddress : PgText
  blockHeight : Int
  blockTime : Int
deriving DecidableEq

/-- `blocks`, under blockhash; the number is unique and may be NULL. -/
structure ChainBlockRow where
  parenthash : Option PgText
  number : Option Int4
deriving DecidableEq

/-- `core_indexed_blocks`, under (chain_id, height). -/
structure IndexedBlockRow where
  blockhash : PgText
  emBlock : Option Int4
deriving DecidableEq

/-- `etl_transactions`, under tx_hash. -/
structure EtlTransactionRow where
  blockHeight : Int
  txIndex : Int
  txType : String
  address : Option PgText
  createdAt : Int
deriving DecidableEq

/-- `etl_addresses`: no column is unique. -/
structure EtlAddressRow where
  address : PgText
  firstSeenBlockHeight : Int
  createdAt : Int
deriving DecidableEq

/-- `etl_plays`; listened_at is played_at. -/
structure EtlPlayRow where
  userId : PgText
  trackId : PgText
  city : PgText
  region : PgText
  country : PgText
  playedAt : Int
  blockHeight : Int
  txHash : PgText
  recordedAt : Int
deriving DecidableEq

/-- `etl_manage_entities`; address is signer. -/
structure EtlManageEntityRow where
  entityType : PgText
  entityId : Int
  action : PgText
  metadata : Option PgText
  signature : PgText
  signer : PgText
  nonce : PgText
  blockHeight : Int
  txHash : PgText
  createdAt : Int
deriving DecidableEq

/-- `etl_validator_registrations` -/
structure EtlRegistrationRow where
  address : PgText
  endpoint : PgText
  cometAddress : PgText
  ethBlock : Int
  nodeType : PgText
  spid : PgText
  cometPubkey : Bytes
  votingPower : Int
  blockHeight : Int
  txHash : PgText
deriving DecidableEq

/-- `etl_validator_deregistrations` and `etl_validator_misbehavior_deregistrations` -/
structure EtlDeregistrationRow where
  cometAddress : PgText
  pubKey : Bytes
  blockHeight : Int
  txHash : PgText
  createdAt : Option Int
deriving DecidableEq

/-- `etl_validators`, under endpoint. -/
structure EtlValidatorRow where
  address : PgText
  cometAddress : PgText
  nodeType : PgText
  spid : PgText
  votingPower : Int
  status : String
  registeredAt : Int
  deregisteredAt : Option Int
  createdAt : Int
  updatedAt : Int
deriving DecidableEq

/-- `etl_sla_rollups`, with the bits of its two float columns; the id of a row is its place. -/
structure EtlSlaRollupRow where
  blockStart : Int
  blockEnd : Int
  blockHeight : Int
  validatorCount : Int
  blockQuota : Int
  bps : Nat
  tps : Nat
  txHash : PgText
  createdAt : Int
deriving DecidableEq

/-- `etl_sla_node_reports` -/
structure EtlSlaNodeReportRow where
  slaRollupId : Nat
  address : PgText
  numBlocksProposed : Int
  challengesReceived : Nat
  challengesFailed : Nat
  blockHeight : Int
  txHash : PgText
  createdAt : Int
deriving DecidableEq

/-- `etl_storage_proofs` -/
structure EtlStorageProofRow where
  height : Int
  address : PgText
  proverAddresses : List PgText
  cid : PgText
  proofSignature : Option Bytes
  proof : Option Bytes
  status : ProofStatus
  blockHeight : Int
  txHash : PgText
  createdAt : Int
deriving DecidableEq

/-- `etl_storage_proof_verifications` -/
structure EtlStorageProofVerificationRow where
  height : Int
  proof : Bytes
  blockHeight : Int
  txHash : PgText
  createdAt : Int
deriving DecidableEq

/-- The indexer's database; `σ` is what the handlers of entities write. -/
structure EtlTables (σ : Type) where
  etlBlocks : List EtlBlockRow
  blocks : Table PgText ChainBlockRow
  coreIndexedBlocks : Table (PgText × Int4) IndexedBlockRow
  transactions : Table PgText EtlTransactionRow
  addresses : List EtlAddressRow
  plays : List EtlPlayRow
  manageEntities : List EtlManageEntityRow
  validatorRegistrations : List EtlRegistrationRow
  validatorDeregistrations : List EtlDeregistrationRow
  misbehaviorDeregistrations : List EtlDeregistrationRow
  validators : Table PgText EtlValidatorRow
  slaRollups : List EtlSlaRollupRow
  slaNodeReports : List EtlSlaNodeReportRow
  storageProofs : List EtlStorageProofRow
  storageProofVerifications : List EtlStorageProofVerificationRow
  entities : σ

/-! ### What the indexer reads -/

/-- A transaction of a block. -/
structure BlockTx where
  hash : PgText
  transaction : SignedTransaction

/-- A block as the indexer gets it from Core. -/
structure EtlBlock where
  hash : PgText
  proposer : PgText
  height : Int
  timestamp : Int
  transactions : List BlockTx

/-- The parameters of `NewParams` next to the tables. -/
structure EntityTx where
  tx : ManageEntityLegacy
  blockNumber : Int
  blockTime : Int
  blockHash : PgText
  txHash : PgText

/-- An error out of `Dispatch`. -/
inductive DispatchError where
  /-- `ErrNoHandler` -/
  | noHandler
  | handler (e : EtlError)
deriving DecidableEq, Repr

/-- The indexer's configuration and its dispatchers. -/
structure Indexing (σ : Type) where
  chainId : PgText
  dispatcher : EntityTx → Prog (Txn σ) DispatchError Unit
  migrationDispatcher : EntityTx → Prog (Txn σ) DispatchError Unit
  /-- the timestamp in the metadata of a migration transaction, or the time of the block -/
  migrationBlockTime : String → Int → Int
  /-- the bits of `bps` and `tps` for a block range, a number of transactions and the microseconds
  since the last rollup -/
  slaRates : Int → Nat → Option Int → Nat × Nat

/-! ### Statements -/

/-- The order of the heights and numbers, whichever other orders of `Int` are imported. -/
local instance (priority := high) intPreorder : Preorder Int :=
  instLatticeInt.toSemilatticeInf.toPartialOrder.toPreorder

section Statements

variable {σ : Type}

/-- A statement whose parameters are bound and which then changes the tables. -/
def write (r : Except PgError (EtlTables σ → EtlTables σ)) : Stmt (EtlTables σ) Unit :=
  fun d => r.map fun f => ((), f d)

/-- A `bytea NOT NULL` parameter: an empty slice out of a message is nil. -/
def bindBytes (column : String) (b : Bytes) : Except PgError Bytes :=
  if b = [] then .error (.notNullViolation column) else .ok b

/-- The row of a block in `etl_blocks`. -/
def EtlBlock.row (b : EtlBlock) : EtlBlockRow := ⟨b.proposer, b.height, b.timestamp⟩

def EtlTables.addBlock (d : EtlTables σ) (row : EtlBlockRow) : EtlTables σ :=
  { d with etlBlocks := d.etlBlocks ++ [row] }

def insertBlock (b : EtlBlock) : Stmt (EtlTables σ) Unit := write (.ok (·.addBlock b.row))

/-- The parameters of `InsertTransaction`, as the kinds fill them in. -/
structure InsertTx where
  txHash : PgText
  blockHeight : Int
  txIndex : Int
  txType : String
  address : Option String
  createdAt : Int

def insertTransaction (p : InsertTx) : Stmt (EtlTables σ) Unit := write do
  let address ← p.address.mapM PgText.ofString
  return fun d =>
    { d with
      transactions := d.transactions.insertNew p.txHash
        ⟨p.blockHeight, p.txIndex, p.txType, address, p.createdAt⟩ }

/-- `on conflict do nothing`, without a key to conflict on. -/
def insertAddress (address : String) (height time : Int) : Stmt (EtlTables σ) Unit := write do
  let address ← PgText.ofString address
  return fun d => { d with addresses := d.addresses ++ [⟨address, height, time⟩] }

def playRow (b : EtlBlock) (hash : PgText) (p : TrackPlay) : Except PgError EtlPlayRow := do
  let userId ← PgText.ofString p.userId
  let trackId ← PgText.ofString p.trackId
  let city ← PgText.ofString p.city
  let region ← PgText.ofString p.region
  let country ← PgText.ofString p.country
  return ⟨userId, trackId, city, region, country, p.timestamp.micros, b.height, hash, b.timestamp⟩

def insertPlays (b : EtlBlock) (hash : PgText) (plays : List TrackPlay) :
    Stmt (EtlTables σ) Unit := write do
  let rows ← plays.mapM (playRow b hash)
  return fun d => { d with plays := d.plays ++ rows }

def insertManageEntity (b : EtlBlock) (hash : PgText) (me : ManageEntityLegacy) :
    Stmt (EtlTables σ) Unit := write do
  let entityType ← PgText.ofString me.entityType
  let action ← PgText.ofString me.action
  let metadata ← (if me.metadata = "" then none else some me.metadata).mapM PgText.ofString
  let signature ← PgText.ofString me.signature
  let signer ← PgText.ofString me.signer
  let nonce ← PgText.ofString me.nonce
  return fun d =>
    { d with
      manageEntities := d.manageEntities ++ [⟨entityType, me.entityId, action, metadata, signature,
        signer, nonce, b.height, hash, b.timestamp⟩] }

def insertValidatorMisbehaviorDeregistration (b : EtlBlock) (hash : PgText)
    (vd : ValidatorMisbehaviorDeregistration) : Stmt (EtlTables σ) Unit := write do
  let cometAddress ← PgText.ofString vd.cometAddress
  let pubKey ← bindBytes "pub_key" vd.pubKey
  return fun d =>
    { d with
      misbehaviorDeregistrations := d.misbehaviorDeregistrations ++
        [⟨cometAddress, pubKey, b.height, hash, some b.timestamp⟩] }

def insertValidatorRegistration (b : EtlBlock) (hash : PgText) (vr : ValidatorRegistration) :
    Stmt (EtlTables σ) Unit := write do
  let address ← PgText.ofString vr.delegateWallet
  let endpoint ← PgText.ofString vr.endpoint
  let cometAddress ← PgText.ofString vr.cometAddress
  let nodeType ← PgText.ofString vr.nodeType
  let spid ← PgText.ofString vr.spId
  let cometPubkey ← bindBytes "comet_pubkey" vr.pubKey
  return fun d =>
    { d with
      validatorRegistrations := d.validatorRegistrations ++ [⟨address, endpoint, cometAddress,
        vr.ethBlock, nodeType, spid, cometPubkey, vr.power, b.height, hash⟩] }

/-- `RegisterValidator`: an endpoint that is known keeps its row. -/
def registerValidator (b : EtlBlock) (vr : ValidatorRegistration) : Stmt (EtlTables σ) Unit :=
  write do
    let address ← PgText.ofString vr.delegateWallet
    let endpoint ← PgText.ofString vr.endpoint
    let cometAddress ← PgText.ofString vr.cometAddress
    let nodeType ← PgText.ofString vr.nodeType
    let spid ← PgText.ofString vr.spId
    return fun d =>
      { d with
        validators := d.validators.insertNew endpoint ⟨address, cometAddress, nodeType, spid,
          vr.power, "active", b.height, none, b.timestamp, b.timestamp⟩ }

def insertValidatorDeregistration (b : EtlBlock) (hash : PgText) (vd : ValidatorDeregistration) :
    Stmt (EtlTables σ) Unit := write do
  let cometAddress ← PgText.ofString vd.cometAddress
  let pubKey ← bindBytes "comet_pubkey" vd.pubKey
  return fun d =>
    { d with
      validatorDeregistrations := d.validatorDeregistrations ++
        [⟨cometAddress, pubKey, b.height, hash, none⟩] }

def EtlValidatorRow.deregister (b : EtlBlock) (row : EtlValidatorRow) : EtlValidatorRow :=
  { row with status := "deregistered", deregisteredAt := some b.height, updatedAt := b.timestamp }

/-- `DeregisterValidator`: every row of the comet address. -/
def deregisterValidator (b : EtlBlock) (vd : ValidatorDeregistration) : Stmt (EtlTables σ) Unit :=
  write do
    let cometAddress ← PgText.ofString vd.cometAddress
    return fun d =>
      { d with
        validators := d.validators.keys.foldl (fun t endpoint => t.update endpoint fun row =>
          if row.cometAddress = cometAddress then row.deregister b else row) d.validators }

def insertStorageProof (b : EtlBlock) (hash : PgText) (sp : StorageProof) :
    Stmt (EtlTables σ) Unit := write do
  let address ← PgText.ofString sp.address
  let proverAddresses ← sp.proverAddresses.mapM PgText.ofString
  if proverAddresses = [] then .error (.notNullViolation "prover_addresses")
  else
    let cid ← PgText.ofString sp.cid
    return fun d =>
      { d with
        storageProofs := d.storageProofs ++ [⟨sp.height, address, proverAddresses, cid,
          if sp.proofSignature = [] then none else some sp.proofSignature, none, .unresolved,
          b.height, hash, b.timestamp⟩] }

def insertStorageProofVerification (b : EtlBlock) (hash : PgText) (spv : StorageProofVerification) :
    Stmt (EtlTables σ) Unit := write do
  let proof ← bindBytes "proof" spv.proof
  return fun d =>
    { d with
      storageProofVerifications := d.storageProofVerifications ++
        [⟨spv.height, proof, b.height, hash, b.timestamp⟩] }

/-- `UpdateStorageProofStatus` to a pass. -/
def EtlStorageProofRow.pass (height : Int) (proof : Bytes) (address : PgText)
    (row : EtlStorageProofRow) : EtlStorageProofRow :=
  if row.height = height ∧ row.address = address then
    { row with status := .pass, proof := some proof }
  else row

/-- The row of `InsertFailedStorageProof`. -/
def failedStorageProof (b : EtlBlock) (hash : PgText) (height : Int) (address : PgText) :
    EtlStorageProofRow :=
  ⟨height, address, [], ⟨"", nulFree_empty⟩, none, none, .fail, b.height, hash, b.timestamp⟩

/-- The provers of the proofs at a height that name a signature. -/
def passedProvers (proofs : List EtlStorageProofRow) : List PgText :=
  (proofs.filter fun sp => sp.address.val != "" && sp.proofSignature.isSome).map (·.address)

/-- The provers more than half of the proofs at a height expect, each once. -/
def expectedProvers (proofs : List EtlStorageProofRow) : List PgText :=
  let named := proofs.flatMap (·.proverAddresses)
  named.dedup.filter fun address => proofs.length / 2 < named.count address

/-- `processStorageProofConsensus`: who proved passes, and who was expected to by the majority and
did not gets a failed proof. The order in which the failures are inserted is a map's. -/
def processStorageProofConsensus (b : EtlBlock) (hash : PgText) (spv : StorageProofVerification) :
    Stmt (EtlTables σ) Unit := write (.ok fun d =>
  let proofs := d.storageProofs.filter fun sp => sp.height == spv.height
  let passed := passedProvers proofs
  let failed := (expectedProvers proofs).filter fun address => !passed.contains address
  { d with
    storageProofs :=
      (d.storageProofs.map fun row => passed.foldl (fun r a => r.pass spv.height spv.proof a) row) ++
        failed.map (failedStorageProof b hash spv.height) })

/-! ### Rollups -/

/-- The `int64` a difference wraps to. -/
def subInt64 (a b : Int) : Int := (a - b).bmod (2 ^ 64)

/-- `blockQuota`, an `int32`. -/
def slaBlockQuota (sr : SlaRollup) : Int :=
  let validatorCount := (sr.reports.length : Int).bmod (2 ^ 32)
  if sr.blockStart < sr.blockEnd ∧ 0 < validatorCount then
    ((subInt64 sr.blockEnd sr.blockStart).bmod (2 ^ 32)).tdiv validatorCount
  else 0

/-- The loop over the heights of a rollup never ends when the last one is the largest `int64`. -/
def SlaRollup.Endless (sr : SlaRollup) : Prop :=
  0 < subInt64 sr.blockEnd sr.blockStart ∧ sr.blockEnd = 2 ^ 63 - 1

instance : DecidablePred SlaRollup.Endless := fun sr => by
  unfold SlaRollup.Endless
  infer_instance

/-- `GetLatestSlaRollup`: the last of the rows with the greatest height. -/
def latestSlaRollup (rows : List EtlSlaRollupRow) : Option EtlSlaRollupRow :=
  rows.reverse.argmax (·.blockHeight)

def slaRollupRow (ix : Indexing σ) (b : EtlBlock) (hash : PgText) (sr : SlaRollup)
    (d : EtlTables σ) : EtlSlaRollupRow :=
  let blockRange := subInt64 sr.blockEnd sr.blockStart
  let rates : Nat × Nat :=
    if 0 < blockRange then
      let txCount := (d.transactions.filter fun _ row =>
        decide (sr.blockStart ≤ row.blockHeight ∧ row.blockHeight ≤ sr.blockEnd)).entries.length
      ix.slaRates blockRange txCount
        ((latestSlaRollup d.slaRollups).map fun r => sr.timestamp.micros - r.createdAt)
    else (0, 0)
  ⟨sr.blockStart, sr.blockEnd, b.height, (sr.reports.length : Int).bmod (2 ^ 32), slaBlockQuota sr,
    rates.1, rates.2, hash, sr.timestamp.micros⟩

def insertSlaRollup (ix : Indexing σ) (b : EtlBlock) (hash : PgText) (sr : SlaRollup) :
    Stmt (EtlTables σ) Unit :=
  write (.ok fun d => { d with slaRollups := d.slaRollups ++ [slaRollupRow ix b hash sr d] })

/-- `InsertSlaNodeReport` for the rollup that was inserted last, with the node's challenges. -/
def insertSlaNodeReport (b : EtlBlock) (hash : PgText) (sr : SlaRollup) (report : SlaNodeReport) :
    Stmt (EtlTables σ) Unit := write do
  let address ← PgText.ofString report.address
  return fun d =>
    let challenges := d.storageProofs.filter fun sp =>
      sp.address == address && decide (sr.blockStart ≤ sp.height ∧ sp.height ≤ sr.blockEnd)
    { d with
      slaNodeReports := d.slaNodeReports ++ [⟨d.slaRollups.length, address,
        report.numBlocksProposed, challenges.length,
        (challenges.filter fun sp => sp.status == .fail).length, b.height, hash,
        sr.timestamp.micros⟩] }

end Statements

/-! ### One transaction -/

section Transactions

variable {σ : Type} (ix : Indexing σ) (b : EtlBlock)

/-- How the processing of a transaction ends without a savepoint to keep: it was rolled back, with
the audit row as far as it was filled in, or it never ends. -/
inductive TxFailure where
  | rolledBack (row : InsertTx)
  | endless

abbrev TxProg (σ α : Type) := Prog (Txn (EtlTables σ)) TxFailure α

def orRollback (row : InsertTx) (q : Stmt (EtlTables σ) Unit) : TxProg σ Unit :=
  mapError (fun _ => .rolledBack row) (Txn.exec q)

/-- A handler's program works on its part of the database. -/
def onEntities {ε α : Type} (m : Prog (Txn σ) ε α) : Prog (Txn (EtlTables σ)) ε α := fun t =>
  let out := m ⟨t.view.entities, t.aborted⟩
  (out.1, ⟨{ t.view with entities := out.2.view }, out.2.aborted⟩)

/-- The outcomes of `Dispatch` under which the savepoint is kept. -/
def DispatchError.isKept : DispatchError → Bool
  | .noHandler => true
  | .handler (.validation _) => true
  | .handler _ => false

/-- Dispatch an entity transaction; what it wrote before it was rejected stays. -/
def dispatchEntity (dispatch : EntityTx → Prog (Txn σ) DispatchError Unit) (e : EntityTx)
    (row : InsertTx) : TxProg σ Unit := do
  match ← attempt (onEntities (dispatch e)) with
  | .ok () => return ()
  | .error e => if e.isKept then return () else fail (.rolledBack row)

def processManageEntity (row : InsertTx) (hash : PgText) (me : ManageEntityLegacy) :
    TxProg σ Unit := do
  orRollback row (insertAddress me.signer b.height b.timestamp)
  orRollback row (insertManageEntity b hash me)

def legacyOfMigration (me : ManageEntityLegacyMigration) : ManageEntityLegacy :=
  ⟨me.userId, me.entityType, me.entityId, me.action, me.metadata, me.signature, me.signer, me.nonce⟩

/-- `processOneTx`: what each kind writes next to the audit row, and the audit row. A kind that is
not listed writes nothing. -/
def processOneTx (emBlock : Int) (row : InsertTx) (t : BlockTx) : TxProg σ InsertTx :=
  match t.transaction.transaction with
  | some (.plays msg) =>
    match msg.plays with
    | [] => return { row with txType := "play" }
    | p :: ps => do
      orRollback row (insertPlays b t.hash (p :: ps))
      return { row with txType := "play", address := some p.userId }
  | some (.manageEntity me) => do
    processManageEntity b row t.hash me
    let row := { row with txType := "manage_entity", address := some me.signer }
    dispatchEntity ix.dispatcher ⟨me, emBlock, b.timestamp, b.hash, t.hash⟩ row
    return row
  | some (.manageEntityMigration msg) => do
    let me := legacyOfMigration msg
    processManageEntity b row t.hash me
    let row := { row with txType := "manage_entity_migration", address := some me.signer }
    dispatchEntity ix.migrationDispatcher
      ⟨me, emBlock, ix.migrationBlockTime me.metadata b.timestamp, b.hash, t.hash⟩ row
    return row
  | some (.validatorRegistration _) => return { row with txType := "validator_registration_legacy" }
  | some (.validatorDeregistration vd) => do
    let row := { row with
      txType := "validator_misbehavior_deregistration", address := some vd.cometAddress }
    orRollback row (insertValidatorMisbehaviorDeregistration b t.hash vd)
    return row
  | some (.slaRollup sr) =>
    if SlaRollup.Endless sr then fail .endless
    else do
      let row := { row with txType := "sla_rollup" }
      orRollback row (insertSlaRollup ix b t.hash sr)
      forEach sr.reports fun report => orRollback row (insertSlaNodeReport b t.hash sr report)
      return row
  | some (.storageProof sp) => do
    let row := { row with txType := "storage_proof", address := some sp.address }
    orRollback row (insertStorageProof b t.hash sp)
    return row
  | some (.storageProofVerification spv) => do
    let row := { row with txType := "storage_proof_verification" }
    orRollback row (insertStorageProofVerification b t.hash spv)
    orRollback row (processStorageProofConsensus b t.hash spv)
    return row
  | some (.attestation msg) =>
    match msg.body with
    | some (.validatorRegistration vr) => do
      let row := { row with txType := "validator_registration", address := some vr.delegateWallet }
      orRollback row (insertValidatorRegistration b t.hash vr)
      orRollback row (registerValidator b vr)
      return row
    | some (.validatorDeregistration vd) => do
      let row := { row with txType := "validator_deregistration", address := some vd.cometAddress }
      orRollback row (insertValidatorDeregistration b t.hash vd)
      orRollback row (deregisterValidator b vd)
      return row
    | none => return row
  | _ => return row

end Transactions

/-! ### One block -/

/-- The operations of a block's own transaction that fail because of the connection. -/
structure BlockFaults where
  beginTx : Bool := false
  insertBlock : Bool := false
  resolveBlockNumber : Bool := false
  insertIndexed : Bool := false
  commit : Bool := false
deriving DecidableEq, Repr

/-- Why a block was not indexed. -/
inductive BlockError where
  | beginTx
  | insertBlock (e : Option PgError)
  | resolveBlockNumber (e : Option PgError)
  | insertIndexed (e : Option EtlError)
  | savepoint
  /-- `errNeedSavepoints` -/
  | needSavepoints
  /-- the call does not return -/
  | endless
  | commit
deriving DecidableEq, Repr

section Blocks

variable {σ : Type} (ix : Indexing σ) (b : EtlBlock)

abbrev EtlProg (σ α : Type) := Prog (Txn (EtlTables σ)) BlockError α

/-- The row `ORDER BY number DESC LIMIT 1` finds: one without a number comes before all others. -/
def latestBlock (t : Table PgText ChainBlockRow) : Option (PgText × Option Int4) :=
  match t.entries.find? fun e => e.2.number.isNone with
  | some e => some (e.1, none)
  | none => (t.entries.argmax fun e => e.2.number.elim 0 (·.val)).map fun e => (e.1, e.2.number)

/-- `INSERT INTO blocks … ON CONFLICT DO NOTHING` at the number after the latest. -/
def insertChainBlock (hash : PgText) : Stmt (EtlTables σ) Unit := fun d =>
  let prev := latestBlock d.blocks
  let next := (prev.bind (·.2)).elim 1 (·.val + 1)
  match Int4.ofInt next with
  | .error _ => .error .integerOutOfRange
  | .ok number =>
    if d.blocks.any fun _ row => row.number == some number then .ok ((), d)
    else .ok ((), { d with blocks := d.blocks.insertNew hash ⟨prev.map (·.1), some number⟩ })

/-- The number of a block; no row and a NULL fail in the driver. -/
def selectBlockNumber (hash : PgText) : Query (EtlTables σ) (Option Int4) := fun d =>
  .ok ((d.blocks.lookup hash).bind (·.number))

def resolveBlockNumber (hash : PgText) : EtlProg σ Int4 := do
  mapError (fun e => .resolveBlockNumber (some e)) (Txn.exec (insertChainBlock hash))
  match ← mapError (fun e => .resolveBlockNumber (some e))
      (Txn.exec (selectBlockNumber hash).stmt) with
  | some number => return number
  | none => fail (.resolveBlockNumber none)

def resolveWithRetry (hash : PgText) : EtlProg σ Int4 := do
  match ← attempt (resolveBlockNumber hash) with
  | .ok number => return number
  | .error _ => resolveBlockNumber hash

def BlockTx.isEntity (t : BlockTx) : Bool :=
  match t.transaction.transaction with
  | some (.manageEntity _) => true
  | some (.manageEntityMigration _) => true
  | _ => false

def BlockTx.isMigration (t : BlockTx) : Bool :=
  match t.transaction.transaction with
  | some (.manageEntityMigration _) => true
  | _ => false

def EtlBlock.hasEntities : Bool := b.transactions.any BlockTx.isEntity

/-- `migrationOnlyBlock` -/
def EtlBlock.migrationOnly : Bool :=
  !b.transactions.isEmpty && b.transactions.all BlockTx.isMigration

def EtlTables.setIndexed (d : EtlTables σ) (key : PgText × Int4) (row : IndexedBlockRow) :
    EtlTables σ :=
  { d with coreIndexedBlocks := d.coreIndexedBlocks.insert key row }

/-- `core_indexed_blocks`; the height has to be an `integer`. -/
def insertIndexed (emBlock : Option Int4) : EtlProg σ Unit := do
  let height ← ofExcept ((Int4.ofInt b.height).mapError fun e => .insertIndexed (some e))
  mapError (fun e => .insertIndexed (some (.query e)))
    (Txn.exec (write (.ok (·.setIndexed (ix.chainId, height) ⟨b.hash, emBlock⟩))))

/-- The audit row of a transaction before its kind fills it in. -/
def initialRow (index : Nat) (t : BlockTx) : InsertTx :=
  ⟨t.hash, b.height, (index : Int).bmod (2 ^ 32), "", none, b.timestamp⟩

/-- A transaction in its own savepoint: a failure rolls back to it, and the audit row is written
outside. -/
def indexTxNested (emBlock : Int) (t : BlockTx) (index : Nat) : EtlProg σ Unit := fun txn =>
  if txn.aborted then (.error .savepoint, txn)
  else match processOneTx ix b emBlock (initialRow b index t) t txn with
    | (.ok row, sp) =>
      match Txn.exec (insertTransaction row) sp with
      | (.ok _, sp) => (.ok (), sp)
      | (.error _, _) => (.ok (), txn)
    | (.error (.rolledBack row), _) => (.ok (), (Txn.exec (insertTransaction row) txn).2)
    | (.error .endless, _) => (.error .endless, txn)

/-- A transaction without a savepoint: a failure gives up the attempt. -/
def indexTxFlat (emBlock : Int) (t : BlockTx) (index : Nat) : EtlProg σ Unit := fun txn =>
  match processOneTx ix b emBlock (initialRow b index t) t txn with
  | (.ok row, txn) =>
    match Txn.exec (insertTransaction row) txn with
    | (.ok _, txn) => (.ok (), txn)
    | (.error _, txn) => (.error .needSavepoints, txn)
  | (.error (.rolledBack _), txn) => (.error .needSavepoints, txn)
  | (.error .endless, txn) => (.error .endless, txn)

def indexTx (useSavepoints : Bool) (emBlock : Int) (t : BlockTx) (index : Nat) : EtlProg σ Unit :=
  if useSavepoints then indexTxNested ix b emBlock t index else indexTxFlat ix b emBlock t index

/-- The number a block with entity transactions is known by. -/
def blockNumber (f : BlockFaults) : EtlProg σ (Option Int4) :=
  if b.hasEntities then do
    rejectIf (f.resolveBlockNumber = true) (.resolveBlockNumber none)
    return some (← resolveWithRetry b.hash)
  else return none

def indexContents (f : BlockFaults) (useSavepoints : Bool) : EtlProg σ Unit := do
  let emBlock ← blockNumber b f
  rejectIf (f.insertIndexed = true) (.insertIndexed none)
  insertIndexed ix b emBlock
  forEach b.transactions.zipIdx fun t =>
    indexTx ix b useSavepoints (emBlock.elim 0 (·.val)) t.1 t.2

def indexBlock (f : BlockFaults) (useSavepoints : Bool) : EtlProg σ Unit := do
  rejectIf (f.insertBlock = true) (.insertBlock none)
  mapError (fun e => .insertBlock (some e)) (Txn.exec (insertBlock b))
  indexContents ix b f useSavepoints

/-- `processBlockAttempt`: the tables after the commit. -/
def processBlockAttempt (f : BlockFaults) (useSavepoints : Bool) (db : EtlTables σ) :
    Except BlockError (EtlTables σ) := do
  refuseIf (f.beginTx = true) .beginTx
  match indexBlock ix b f useSavepoints (Txn.begin db) with
  | (.error e, _) => .error e
  | (.ok _, txn) => do
    refuseIf (f.commit = true) .commit
    match txn.commit with
    | none => .error .commit
    | some db' => .ok db'

/-- `processBlock`: a migration block is tried without savepoints. -/
def processBlock (first second : BlockFaults) (db : EtlTables σ) :
    Except BlockError (EtlTables σ) :=
  if b.migrationOnly then
    match processBlockAttempt ix b first false db with
    | .error .needSavepoints => processBlockAttempt ix b second true db
    | r => r
  else processBlockAttempt ix b second true db

/-- The tables after a block, whether or not it could be indexed. -/
def afterBlock (first second : BlockFaults) (db : EtlTables σ) : EtlTables σ :=
  match processBlock ix b first second db with
  | .ok db' => db'
  | .error _ => db

end Blocks

/-! ### What a block leaves in `etl_blocks` -/

section Kept

variable {σ β : Type}

/-- A statement that leaves a part of the tables alone. -/
def KeepsPart {α : Type} (part : EtlTables σ → β) (q : Stmt (EtlTables σ) α) : Prop :=
  ∀ d a d', q d = .ok (a, d') → part d' = part d

/-- A statement that leaves `etl_blocks` alone. -/
def KeepsBlocks {α : Type} (q : Stmt (EtlTables σ) α) : Prop :=
  ∀ d a d', q d = .ok (a, d') → d'.etlBlocks = d.etlBlocks

variable {part : EtlTables σ → β}

theorem keepsPart_ok {f : EtlTables σ → EtlTables σ} (h : ∀ d, part (f d) = part d) :
    KeepsPart part (write (.ok f)) := by
  intro d a d' hd
  cases hd
  exact h d

theorem keepsPart_error (e : PgError) :
    KeepsPart part (write (.error e) : Stmt (EtlTables σ) Unit) := by
  intro d a d' hd
  cases hd

theorem keepsPart_bind {γ : Type} {x : Except PgError γ}
    {g : γ → Except PgError (EtlTables σ → EtlTables σ)} (h : ∀ y, KeepsPart part (write (g y))) :
    KeepsPart part (write (x >>= g)) := by
  cases x with
  | error e => exact keepsPart_error e
  | ok y => exact h y

/-- The rows of `etl_blocks` a transaction sees. -/
abbrev SameBlocks : Txn (EtlTables σ) → Txn (EtlTables σ) → Prop := Same fun t => t.view.etlBlocks

/-- The part of the tables a transaction sees. -/
abbrev SamePart (part : EtlTables σ → β) : Txn (EtlTables σ) → Txn (EtlTables σ) → Prop :=
  Same fun t => part t.view

theorem keeps_exec {α : Type} {q : Stmt (EtlTables σ) α} (h : KeepsPart part q) :
    Keeps (SamePart part) (Txn.exec q) := by
  intro t
  unfold Txn.exec
  by_cases ha : t.aborted = true
  · rw [if_pos ha]
    exact refl t
  · rw [if_neg ha]
    cases hq : q t.view with
    | error e => exact refl (r := SamePart part) t
    | ok r => exact h t.view r.1 r.2 hq

theorem keeps_orRollback {q : Stmt (EtlTables σ) Unit} (h : KeepsPart part q) (row : InsertTx) :
    Keeps (SamePart part) (orRollback row q) := (keeps_exec h).mapError _

/-- The part is of `etl_blocks`, the validators and the storage proofs alone. -/
def Apart (part : EtlTables σ → β) : Prop :=
  ∀ d d', d'.etlBlocks = d.etlBlocks → d'.validators = d.validators →
    d'.storageProofs = d.storageProofs → part d' = part d

/-- What a transaction writes of the validators and the storage proofs leaves the part alone. -/
structure BlockTx.LeavesPart (part : EtlTables σ → β) (b : EtlBlock) (t : BlockTx) : Prop where
  registers : ∀ msg vr, t.transaction.transaction = some (.attestation msg) →
    msg.body = some (.validatorRegistration vr) → KeepsPart part (registerValidator b vr)
  deregisters : ∀ msg vd, t.transaction.transaction = some (.attestation msg) →
    msg.body = some (.validatorDeregistration vd) → KeepsPart part (deregisterValidator b vd)
  proves : ∀ sp, t.transaction.transaction = some (.storageProof sp) →
    KeepsPart part (insertStorageProof b t.hash sp)
  verifies : ∀ spv, t.transaction.transaction = some (.storageProofVerification spv) →
    KeepsPart part (processStorageProofConsensus b t.hash spv)

variable (hpart : Apart part)

include hpart

theorem keeps_onEntities {ε α : Type} (m : Prog (Txn σ) ε α) :
    Keeps (SamePart part) (onEntities m) := fun t => hpart t.view _ rfl rfl rfl

theorem keepsPart_insertTransaction (p : InsertTx) :
    KeepsPart part (insertTransaction p : Stmt (EtlTables σ) Unit) :=
  keepsPart_bind fun _ => keepsPart_ok fun d => hpart d _ rfl rfl rfl

theorem keepsPart_insertAddress (address : String) (height time : Int) :
    KeepsPart part (insertAddress address height time : Stmt (EtlTables σ) Unit) :=
  keepsPart_bind fun _ => keepsPart_ok fun d => hpart d _ rfl rfl rfl

variable (b : EtlBlock) (hash : PgText)

theorem keepsPart_insertPlays (plays : List TrackPlay) :
    KeepsPart part (insertPlays b hash plays : Stmt (EtlTables σ) Unit) :=
  keepsPart_bind fun _ => keepsPart_ok fun d => hpart d _ rfl rfl rfl

theorem keepsPart_insertManageEntity (me : ManageEntityLegacy) :
    KeepsPart part (insertManageEntity b hash me : Stmt (EtlTables σ) Unit) := by
  iterate 6 refine keepsPart_bind fun _ => ?_
  exact keepsPart_ok fun d => hpart d _ rfl rfl rfl

theorem keepsPart_insertValidatorMisbehaviorDeregistration
    (vd : ValidatorMisbehaviorDeregistration) : KeepsPart part
      (insertValidatorMisbehaviorDeregistration b hash vd : Stmt (EtlTables σ) Unit) := by
  iterate 2 refine keepsPart_bind fun _ => ?_
  exact keepsPart_ok fun d => hpart d _ rfl rfl rfl

theorem keepsPart_insertValidatorRegistration (vr : ValidatorRegistration) :
    KeepsPart part (insertValidatorRegistration b hash vr : Stmt (EtlTables σ) Unit) := by
  iterate 6 refine keepsPart_bind fun _ => ?_
  exact keepsPart_ok fun d => hpart d _ rfl rfl rfl

theorem keepsPart_insertValidatorDeregistration (vd : ValidatorDeregistration) :
    KeepsPart part (insertValidatorDeregistration b hash vd : Stmt (EtlTables σ) Unit) := by
  iterate 2 refine keepsPart_bind fun _ => ?_
  exact keepsPart_ok fun d => hpart d _ rfl rfl rfl

theorem keepsPart_insertStorageProofVerification (spv : StorageProofVerification) :
    KeepsPart part (insertStorageProofVerification b hash spv : Stmt (EtlTables σ) Unit) :=
  keepsPart_bind fun _ => keepsPart_ok fun d => hpart d _ rfl rfl rfl

theorem keepsPart_insertSlaRollup (ix : Indexing σ) (sr : SlaRollup) :
    KeepsPart part (insertSlaRollup ix b hash sr) := keepsPart_ok fun d => hpart d _ rfl rfl rfl

theorem keepsPart_insertSlaNodeReport (sr : SlaRollup) (report : SlaNodeReport) :
    KeepsPart part (insertSlaNodeReport b hash sr report : Stmt (EtlTables σ) Unit) :=
  keepsPart_bind fun _ => keepsPart_ok fun d => hpart d _ rfl rfl rfl

theorem keeps_dispatchEntity (dispatch : EntityTx → Prog (Txn σ) DispatchError Unit) (e : EntityTx)
    (row : InsertTx) : Keeps (SamePart part) (dispatchEntity dispatch e row) := by
  refine (keeps_onEntities hpart (dispatch e)).attempt.bind fun r => ?_
  cases r with
  | ok u => exact keeps_pure ()
  | error e => exact Keeps.ite (keeps_pure ()) (keeps_fail _)

theorem keeps_processManageEntity (row : InsertTx) (me : ManageEntityLegacy) :
    Keeps (SamePart part) (processManageEntity b row hash me : TxProg σ Unit) :=
  (keeps_orRollback (keepsPart_insertAddress hpart _ _ _) row).bind fun _ =>
    keeps_orRollback (keepsPart_insertManageEntity hpart b hash me) row

theorem keeps_processOneTx (ix : Indexing σ) (emBlock : Int) (row : InsertTx) {t : BlockTx}
    (ht : t.LeavesPart part b) : Keeps (SamePart part) (processOneTx ix b emBlock row t) := by
  unfold processOneTx
  split
  · split
    · exact keeps_pure _
    · exact (keeps_orRollback (keepsPart_insertPlays hpart b t.hash _) row).bind
        fun _ => keeps_pure _
  · refine (keeps_processManageEntity hpart b t.hash row _).bind fun _ => ?_
    exact (keeps_dispatchEntity hpart _ _ _).bind fun _ => keeps_pure _
  · refine (keeps_processManageEntity hpart b t.hash row _).bind fun _ => ?_
    exact (keeps_dispatchEntity hpart _ _ _).bind fun _ => keeps_pure _
  · exact keeps_pure _
  · exact (keeps_orRollback
      (keepsPart_insertValidatorMisbehaviorDeregistration hpart b t.hash _) _).bind
        fun _ => keeps_pure _
  · refine Keeps.ite (keeps_fail _) ?_
    refine (keeps_orRollback (keepsPart_insertSlaRollup hpart b t.hash ix _) _).bind fun _ => ?_
    refine Keeps.bind (Keeps.forEach fun report => ?_) fun _ => keeps_pure _
    exact keeps_orRollback (keepsPart_insertSlaNodeReport hpart b t.hash _ report) _
  · rename_i sp hbody
    exact (keeps_orRollback (ht.proves sp hbody) _).bind fun _ => keeps_pure _
  · rename_i spv hbody
    refine (keeps_orRollback (keepsPart_insertStorageProofVerification hpart b t.hash _) _).bind
      fun _ => ?_
    exact (keeps_orRollback (ht.verifies spv hbody) _).bind fun _ => keeps_pure _
  · rename_i msg hbody
    split
    · rename_i vr hvr
      refine (keeps_orRollback (keepsPart_insertValidatorRegistration hpart b t.hash _) _).bind
        fun _ => ?_
      exact (keeps_orRollback (ht.registers msg vr hbody hvr) _).bind fun _ => keeps_pure _
    · rename_i vd hvd
      refine (keeps_orRollback (keepsPart_insertValidatorDeregistration hpart b t.hash _) _).bind
        fun _ => ?_
      exact (keeps_orRollback (ht.deregisters msg vd hbody hvd) _).bind fun _ => keeps_pure _
    · exact keeps_pure _
  · exact keeps_pure _

end Kept

section Kept

variable {σ β : Type} {part : EtlTables σ → β} (hpart : Apart part) (ix : Indexing σ) (b : EtlBlock)

include hpart

theorem keeps_indexTxNested (emBlock : Int) {t : BlockTx} (ht : t.LeavesPart part b)
    (index : Nat) : Keeps (SamePart part) (indexTxNested ix b emBlock t index) := by
  intro txn
  have hone := keeps_processOneTx hpart b ix emBlock (initialRow b index t) ht txn
  unfold indexTxNested
  by_cases ha : txn.aborted = true
  · rw [if_pos ha]
    exact refl (r := SamePart part) txn
  · rw [if_neg ha]
    match hr : processOneTx ix b emBlock (initialRow b index t) t txn with
    | (.ok row, sp) =>
      rw [hr] at hone
      have hrow := keeps_exec (keepsPart_insertTransaction hpart row) sp
      match hi : Txn.exec (insertTransaction row) sp with
      | (.ok _, sp') =>
        rw [hi] at hrow
        simp only [hi]
        exact IsTrans.trans (r := SamePart part) _ _ _ hone hrow
      | (.error _, _) =>
        simp only [hi]
        exact refl (r := SamePart part) txn
    | (.error (.rolledBack row), _) => exact keeps_exec (keepsPart_insertTransaction hpart row) txn
    | (.error .endless, _) => exact refl (r := SamePart part) txn

theorem keeps_indexTxFlat (emBlock : Int) {t : BlockTx} (ht : t.LeavesPart part b) (index : Nat) :
    Keeps (SamePart part) (indexTxFlat ix b emBlock t index) := by
  intro txn
  have hone := keeps_processOneTx hpart b ix emBlock (initialRow b index t) ht txn
  unfold indexTxFlat
  match hr : processOneTx ix b emBlock (initialRow b index t) t txn with
  | (.ok row, sp) =>
    rw [hr] at hone
    have hrow := keeps_exec (keepsPart_insertTransaction hpart row) sp
    match hi : Txn.exec (insertTransaction row) sp with
    | (.ok _, sp') =>
      rw [hi] at hrow
      simp only [hi]
      exact IsTrans.trans (r := SamePart part) _ _ _ hone hrow
    | (.error _, sp') =>
      rw [hi] at hrow
      simp only [hi]
      exact IsTrans.trans (r := SamePart part) _ _ _ hone hrow
  | (.error (.rolledBack row), _) =>
    rw [hr] at hone
    exact hone
  | (.error .endless, _) =>
    rw [hr] at hone
    exact hone

theorem keepsPart_insertChainBlock (hash : PgText) :
    KeepsPart part (insertChainBlock hash : Stmt (EtlTables σ) Unit) := by
  intro d a d' h
  unfold insertChainBlock at h
  simp only at h
  split at h
  · cases h
  · split at h
    · cases h
      rfl
    · cases h
      exact hpart d _ rfl rfl rfl

omit hpart in
theorem keepsPart_query {α : Type} (q : Query (EtlTables σ) α) : KeepsPart part q.stmt := by
  intro d a d' h
  unfold Query.stmt at h
  cases hq : q d with
  | error e =>
    rw [hq] at h
    cases h
  | ok r =>
    rw [hq] at h
    cases h
    rfl

theorem keeps_resolveBlockNumber (hash : PgText) :
    Keeps (SamePart part) (resolveBlockNumber hash : EtlProg σ Int4) := by
  refine ((keeps_exec (keepsPart_insertChainBlock hpart hash)).mapError _).bind fun _ => ?_
  refine ((keeps_exec (keepsPart_query _)).mapError _).bind fun n => ?_
  cases n with
  | none => exact keeps_fail _
  | some n => exact keeps_pure n

theorem keeps_blockNumber (f : BlockFaults) :
    Keeps (SamePart part) (blockNumber b f : EtlProg σ (Option Int4)) := by
  refine Keeps.ite ?_ (keeps_pure _)
  refine (keeps_rejectIf _ _).bind fun _ => Keeps.bind ?_ fun _ => keeps_pure _
  refine (keeps_resolveBlockNumber hpart b.hash).attempt.bind fun r => ?_
  cases r with
  | ok n => exact keeps_pure n
  | error e => exact keeps_resolveBlockNumber hpart b.hash

theorem keeps_insertIndexed (emBlock : Option Int4) :
    Keeps (SamePart part) (insertIndexed ix b emBlock) := by
  refine (keeps_ofExcept _).bind fun height => ?_
  have hset (d : EtlTables σ) :
      part (d.setIndexed (ix.chainId, height) ⟨b.hash, emBlock⟩) = part d := hpart d _ rfl rfl rfl
  exact (keeps_exec (keepsPart_ok hset)).mapError _

end Kept

section Kept

variable {σ : Type} (ix : Indexing σ) (b : EtlBlock)

theorem keepsBlocks_registerValidator (vr : ValidatorRegistration) :
    KeepsBlocks (registerValidator b vr : Stmt (EtlTables σ) Unit) := by
  iterate 5 refine keepsPart_bind fun _ => ?_
  exact keepsPart_ok fun _ => rfl

theorem keepsBlocks_insertStorageProof (hash : PgText) (sp : StorageProof) :
    KeepsBlocks (insertStorageProof b hash sp : Stmt (EtlTables σ) Unit) := by
  refine keepsPart_bind fun _ => keepsPart_bind fun provers => ?_
  split
  · exact keepsPart_error _
  · exact keepsPart_bind fun _ => keepsPart_ok fun _ => rfl

theorem leavesBlocks (t : BlockTx) : t.LeavesPart (fun d : EtlTables σ => d.etlBlocks) b where
  registers _ vr _ _ := keepsBlocks_registerValidator b vr
  deregisters _ _ _ _ := keepsPart_bind fun _ => keepsPart_ok fun _ => rfl
  proves sp _ := keepsBlocks_insertStorageProof b t.hash sp
  verifies _ _ := keepsPart_ok fun _ => rfl

theorem keeps_indexContents (f : BlockFaults) (useSavepoints : Bool) :
    Keeps SameBlocks (indexContents ix b f useSavepoints) := by
  have hpart : Apart fun d : EtlTables σ => d.etlBlocks := fun _ _ hblocks _ _ => hblocks
  refine (keeps_blockNumber hpart b f).bind fun emBlock => (keeps_rejectIf _ _).bind fun _ => ?_
  refine (keeps_insertIndexed hpart ix b emBlock).bind fun _ => Keeps.forEach fun t => ?_
  exact Keeps.ite (keeps_indexTxNested hpart ix b _ (leavesBlocks b t.1) t.2)
    (keeps_indexTxFlat hpart ix b _ (leavesBlocks b t.1) t.2)

theorem indexBlock_etlBlocks {f : BlockFaults} {useSavepoints : Bool} {txn txn' : Txn (EtlTables σ)}
    (h : indexBlock ix b f useSavepoints txn = (.ok (), txn')) :
    txn'.view.etlBlocks = txn.view.etlBlocks ++ [b.row] := by
  obtain ⟨-, h⟩ := rejectIf_bind_eq_ok h
  obtain ⟨_, t₁, hinsert, h⟩ := bind_eq_ok h
  obtain ⟨-, d, hd, rfl⟩ := Txn.exec_eq_ok (mapError_eq_ok hinsert)
  cases hd
  have hsame := keeps_indexContents ix b f useSavepoints ⟨txn.view.addBlock b.row, false⟩
  rw [h] at hsame
  exact hsame

theorem processBlockAttempt_eq_ok {f : BlockFaults} {useSavepoints : Bool} {db db' : EtlTables σ}
    (h : processBlockAttempt ix b f useSavepoints db = .ok db') :
    ∃ txn, indexBlock ix b f useSavepoints (Txn.begin db) = (.ok (), txn) ∧
      txn.commit = some db' := by
  obtain ⟨-, h⟩ := refuseIf_bind_eq_ok.mp h
  match hrun : indexBlock ix b f useSavepoints (Txn.begin db) with
  | (.error e, _) =>
    rw [hrun] at h
    cases h
  | (.ok (), txn) =>
    rw [hrun] at h
    obtain ⟨-, h⟩ := refuseIf_bind_eq_ok.mp h
    refine ⟨txn, rfl, ?_⟩
    cases hcommit : txn.commit with
    | none =>
      rw [hcommit] at h
      cases h
    | some d =>
      rw [hcommit] at h
      cases h
      rfl

theorem processBlockAttempt_etlBlocks {f : BlockFaults} {useSavepoints : Bool}
    {db db' : EtlTables σ} (h : processBlockAttempt ix b f useSavepoints db = .ok db') :
    db'.etlBlocks = db.etlBlocks ++ [b.row] := by
  obtain ⟨txn, hrun, hcommit⟩ := processBlockAttempt_eq_ok ix b h
  rw [← Txn.view_of_commit hcommit]
  exact indexBlock_etlBlocks ix b hrun

theorem processBlock_etlBlocks {first second : BlockFaults} {db db' : EtlTables σ}
    (h : processBlock ix b first second db = .ok db') :
    db'.etlBlocks = db.etlBlocks ++ [b.row] := by
  unfold processBlock at h
  split at h
  · split at h
    · exact processBlockAttempt_etlBlocks ix b h
    · exact processBlockAttempt_etlBlocks ix b h
  · exact processBlockAttempt_etlBlocks ix b h

end Kept

/-! ### The attempt without savepoints -/

section Attempts

variable {σ : Type} (ix : Indexing σ) (b : EtlBlock)

/-- A transaction of the database that can still be written to. -/
def Live (t : Txn (EtlTables σ)) : Prop := t.aborted = false

/-- The audit row is written last, so a transaction whose handler swallowed a failure of the
database gives up as well. -/
theorem tries_indexTx (emBlock : Int) (t : BlockTx) (index : Nat) :
    Tries Live Live .needSavepoints (indexTxFlat ix b emBlock t index)
      (indexTxNested ix b emBlock t index) := by
  intro txn hlive
  have hbegin : ¬ txn.aborted = true := by
    rw [hlive]
    exact Bool.false_ne_true
  unfold indexTxFlat indexTxNested
  rw [if_neg hbegin]
  match processOneTx ix b emBlock (initialRow b index t) t txn with
  | (.ok row, sp) =>
    match hrow : Txn.exec (insertTransaction row) sp with
    | (.ok _, sp') =>
      simp only [hrow]
      obtain ⟨-, d, -, rfl⟩ := Txn.exec_eq_ok hrow
      exact .done () rfl
    | (.error _, sp') =>
      simp only [hrow]
      exact .gaveUp sp' _
  | (.error (.rolledBack _), sp) => exact .gaveUp sp _
  | (.error .endless, sp) => exact .failed BlockError.endless sp txn

theorem live_of_insertIndexed {emBlock : Option Int4} {t t' : Txn (EtlTables σ)} {u : Unit}
    (h : insertIndexed ix b emBlock t = (.ok u, t')) : Live t' := by
  obtain ⟨height, -, h⟩ := ofExcept_bind_eq_ok h
  obtain ⟨-, d, -, rfl⟩ := Txn.exec_eq_ok (mapError_eq_ok h)
  rfl

theorem tries_indexBlock (f : BlockFaults) :
    Tries (fun _ => True) Live .needSavepoints (indexBlock ix b f false)
      (indexBlock ix b f true) := by
  have hany {α : Type} (m : EtlProg σ α) :
      Tries (fun _ => True) (fun _ => True) .needSavepoints m m := tries_self fun _ _ _ _ => trivial
  refine (hany _).bind fun _ => (hany _).bind fun _ => (hany _).bind fun emBlock =>
    (hany _).bind fun _ => ?_
  refine Tries.bind (tries_self fun _ _ _ h => live_of_insertIndexed ix b h) fun _ => ?_
  exact Tries.forEach fun t => tries_indexTx ix b _ t.1 t.2

/-- The attempt without savepoints gives up, or ends as the one with them. -/
theorem processBlockAttempt_withoutSavepoints (f : BlockFaults) (db : EtlTables σ) :
    processBlockAttempt ix b f false db = .error .needSavepoints ∨
      processBlockAttempt ix b f false db = processBlockAttempt ix b f true db := by
  have htried := tries_indexBlock ix b f (Txn.begin db) trivial
  unfold processBlockAttempt
  generalize indexBlock ix b f false (Txn.begin db) = r, indexBlock ix b f true (Txn.begin db) = r'
    at htried
  by_cases hbegin : f.beginTx = true
  · right
    rw [refuseIf, if_pos hbegin]
    rfl
  · rw [refuseIf, if_neg hbegin]
    cases htried with
    | gaveUp s₁ r => exact .inl rfl
    | failed e' s₁ s₂ => exact .inr rfl
    | done a h => exact .inr rfl

/-- A migration block that is tried without savepoints first leaves the tables as one that is
indexed with them: the same rows when it is committed, and the same error when it is not. -/
theorem processBlock_eq_withSavepoints (f : BlockFaults) (db : EtlTables σ) :
    processBlock ix b f f db = processBlockAttempt ix b f true db := by
  unfold processBlock
  by_cases hmigration : b.migrationOnly = true
  · rw [if_pos hmigration]
    rcases processBlockAttempt_withoutSavepoints ix b f db with hgave | hsame
    · rw [hgave]
    · rw [hsame]
      split
      · rfl
      · rfl
  · rw [if_neg hmigration]

end Attempts

end OpenAudio.Etl
