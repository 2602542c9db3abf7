import Mathlib.Data.List.Sort
import OpenAudio.Core.Db.Schema
import OpenAudio.Core.Externals

/-!
# Queries and statements of the consensus database

The sqlc queries block validation and finalization issue, under their names. A text parameter is
bound before the statement runs, so one with U+0000 fails it; a declared constraint fails the
insert that violates it.
-/

namespace OpenAudio.Core.Db

def bindTexts (texts : List String) : Except PgError (List PgText) := texts.mapM PgText.ofString

theorem bindTexts_eq_ok {texts : List String} {ts : List PgText} :
    bindTexts texts = .ok ts ↔ ts.map PgText.val = texts := by
  induction texts generalizing ts with
  | nil =>
    simp only [bindTexts, List.mapM_nil, List.map_eq_nil_iff]
    constructor
    · rintro ⟨⟩
      rfl
    · rintro rfl
      rfl
  | cons text texts ih =>
    rw [bindTexts, List.mapM_cons, except_bind_eq_ok]
    constructor
    · rintro ⟨t, ht, h⟩
      obtain ⟨ts', hts', h⟩ := except_bind_eq_ok.mp h
      cases h
      rw [List.map_cons, PgText.val_of_ofString ht, ih.mp hts']
    · intro h
      cases ts with
      | nil => cases h
      | cons t ts =>
        obtain ⟨rfl, hts⟩ := List.cons.inj h
        exact ⟨t, PgText.ofString_val t, except_bind_eq_ok.mpr ⟨ts, ih.mpr hts, rfl⟩⟩

theorem exists_bindTexts {texts : List String} (h : ∀ text ∈ texts, NulFree text) :
    ∃ ts, bindTexts texts = .ok ts := by
  refine ⟨texts.attach.map fun text => ⟨text.1, h text.1 text.2⟩, ?_⟩
  rw [bindTexts_eq_ok]
  simp

/-! ### The chain -/

/-- `GetBlock`: any block of the height, whatever its chain id. -/
def getBlock (rows : RowChoice) (height : Int) : Query Db (Option BlockRow) := fun db =>
  .ok (rows.pick ((db.chain.blocks.entries.filter fun e => e.1.1 == height).map (·.2)))

def storeBlock (height : Int) (chainId hash proposer : String) (createdAt : Int) :
    Stmt Db Unit := fun db => do
  let c ← PgText.ofString chainId
  let h ← PgText.ofString hash
  let p ← PgText.ofString proposer
  if (db.chain.blocks.lookup (height, c)).isSome then
    .error (.uniqueViolation "core_blocks_height_chain_id_key")
  else
    return ((), { db with chain := { db.chain with
      blocks := db.chain.blocks.insert (height, c) ⟨h, p, createdAt⟩ } })

def storeTransaction (blockId index : Int) (txHash : String) (transaction : Bytes)
    (createdAt : Int) : Stmt Db Unit := fun db => do
  let h ← PgText.ofString txHash
  if (db.chain.transactions.lookup (blockId, index)).isSome then
    .error (.uniqueViolation "core_transactions_block_id_index_key")
  else
    return ((), { db with chain := { db.chain with
      transactions := db.chain.transactions.insert (blockId, index) ⟨h, transaction, createdAt⟩ } })

def insertTxStat (txType txHash : String) (blockHeight createdAt : Int) : Stmt Db Unit :=
  fun db => do
    let t ← PgText.ofString txType
    let h ← PgText.ofString txHash
    return ((), { db with chain := { db.chain with
      txStats := db.chain.txStats.insertNew h ⟨t, blockHeight, createdAt⟩ } })

/-- `UpsertAppState`, which is a plain insert. -/
def upsertAppState (blockHeight : Int) (appHash : Bytes) : Stmt Db Unit := fun db =>
  if (db.chain.appState.lookup (blockHeight, appHash)).isSome then
    .error (.uniqueViolation "core_app_state_pkey")
  else
    .ok ((), { db with chain := { db.chain with
      appState := db.chain.appState.insert (blockHeight, appHash) () } })

/-! ### Validators -/

def getRegisteredNodeByCometAddress (rows : RowChoice) (cometAddress : String) :
    Query Db (Option ValidatorRow) := fun db => do
  let a ← PgText.ofString cometAddress
  return rows.pick (db.validators.filter fun v => v.cometAddress == a)

def getRegisteredNodeByEthAddress (rows : RowChoice) (ethAddress : String) :
    Query Db (Option ValidatorRow) := fun db => do
  let a ← PgText.ofString ethAddress
  return rows.pick (db.validators.filter fun v => v.ethAddress == a)

def getAllRegisteredNodes (db : Db) : List ValidatorRow := db.validators.filter fun v => !v.jailed

def getAllRegisteredNodesIncludingJailed (db : Db) : List ValidatorRow := db.validators

def getAllRegisteredNodesSorted (db : Db) : List ValidatorRow :=
  db.getAllRegisteredNodes.insertionSort fun v w => v.cometAddress.val ≤ w.cometAddress.val

def getAllEthAddressesOfRegisteredNodes (db : Db) : List String :=
  db.getAllRegisteredNodes.map fun v => v.ethAddress.val

/-- `IsRegisteredNodeEthAddress`, jailed nodes included. -/
def isRegisteredNodeEthAddress (sqlLower : PgText → PgText) (ethAddress : String) :
    Query Db Bool := fun db => do
  let a ← PgText.ofString ethAddress
  return db.validators.any fun v => sqlLower v.ethAddress == sqlLower a

/-- `InsertRegisteredNode`; a new node is not jailed. -/
def insertRegisteredNode (pubKey endpoint ethAddress cometAddress cometPubKey ethBlock nodeType
    spId : String) : Stmt Db Unit := fun db => do
  let pubKey ← PgText.ofString pubKey
  let endpoint ← PgText.ofString endpoint
  let ethAddress ← PgText.ofString ethAddress
  let cometAddress ← PgText.ofString cometAddress
  let cometPubKey ← PgText.ofString cometPubKey
  let ethBlock ← PgText.ofString ethBlock
  let nodeType ← PgText.ofString nodeType
  let spId ← PgText.ofString spId
  return ((), { db with validators := db.validators ++
    [⟨pubKey, endpoint, ethAddress, cometAddress, cometPubKey, ethBlock, nodeType, spId, false⟩] })

def deleteRegisteredNode (cometAddress : String) : Stmt Db Unit := fun db => do
  let a ← PgText.ofString cometAddress
  return ((), { db with validators := db.validators.filter fun v => v.cometAddress != a })

/-- Set the flag of every row with the comet address. -/
def setJailed (cometAddress : PgText) (jailed : Bool) (vs : List ValidatorRow) :
    List ValidatorRow :=
  vs.map fun v => if v.cometAddress = cometAddress then { v with jailed := jailed } else v

def jailRegisteredNode (cometAddress : String) : Stmt Db Unit := fun db => do
  let a ← PgText.ofString cometAddress
  return ((), { db with validators := setJailed a true db.validators })

def unjailRegisteredNode (cometAddress : String) : Stmt Db Unit := fun db => do
  let a ← PgText.ofString cometAddress
  return ((), { db with validators := setJailed a false db.validators })

def appendValidatorHistory (endpoint ethAddress cometAddress : String) (spId : Int)
    (serviceType : String) (eventType : ValidatorEvent) (eventTime eventBlock : Int) :
    Stmt Db Unit := fun db => do
  let endpoint ← PgText.ofString endpoint
  let ethAddress ← PgText.ofString ethAddress
  let cometAddress ← PgText.ofString cometAddress
  let serviceType ← PgText.ofString serviceType
  return ((), { db with validatorHistory := db.validatorHistory ++
    [⟨endpoint, ethAddress, cometAddress, spId, serviceType, eventType, eventTime, eventBlock⟩] })

/-! ### The service level audit -/

/-- `GetLatestSlaRollup`: any of the rollups with the latest time. -/
def getLatestSlaRollup (rows : RowChoice) (db : Db) : Option SlaRollupRow :=
  let rollups := db.sla.rollups.entries.map (·.2)
  rows.pick (rollups.filter fun r => rollups.all fun r' => decide (r'.time ≤ r.time))

/-- `GetSlaRollupWithTimestamp`, of which only the presence of a row is used. -/
def hasSlaRollupWithTimestamp (time : Int) (db : Db) : Bool :=
  db.sla.rollups.any fun _ r => r.time == time

def getInProgressRollupReports (db : Db) : List OpenReport :=
  db.sla.openReports.insertionSort fun r r' => r.address.val ≤ r'.address.val

/-- The next value of the serial column `sla_rollups.id`. -/
def nextRollupId (db : Db) : Int := db.sla.rollups.keys.foldl max 0 + 1

def commitSlaRollup (time : Int) (txHash : String) (blockStart blockEnd : Int) : Stmt Db Int :=
  fun db => do
    let h ← PgText.ofString txHash
    let id := db.nextRollupId
    return (id, { db with sla := { db.sla with
      rollups := db.sla.rollups.insert id ⟨h, blockStart, blockEnd, time, ∅⟩ } })

def clearUncommittedSlaNodeReports : Stmt Db Unit := fun db =>
  .ok ((), { db with sla := { db.sla with openReports := [] } })

def commitSlaNodeReport (rollupId : Int) (address : String) (blocksProposed : Int) :
    Stmt Db Unit := fun db => do
  let a ← PgText.ofString address
  match db.sla.rollups.lookup rollupId with
  | none => .error (.foreignKeyViolation "sla_node_reports_sla_rollup_id_fkey")
  | some r =>
    if (r.reports.lookup a).isSome then
      .error (.uniqueViolation "sla_node_reports_address_sla_rollup_id_key")
    else
      let r' := { r with reports := r.reports.insert a blocksProposed }
      return ((), { db with sla := { db.sla with rollups := db.sla.rollups.insert rollupId r' } })

/-- `UpsertSlaRollupReport`: count a proposed block in the open report of the address. -/
def upsertSlaRollupReport (address : String) : Stmt Db Unit := fun db => do
  let a ← PgText.ofString address
  let openReports :=
    if db.sla.openReports.any fun r => r.address == a then
      db.sla.openReports.map fun r =>
        if r.address = a then { r with blocksProposed := r.blocksProposed + 1 } else r
    else db.sla.openReports ++ [⟨a, 1⟩]
  return ((), { db with sla := { db.sla with openReports := openReports } })

/-! ### Proof of storage -/

/-- `GetStorageProof`, of which only the presence of a row is used. -/
def hasStorageProof (blockHeight : Int) (address : String) : Query Db Bool := fun db => do
  let a ← PgText.ofString address
  return (db.storageProofs.lookup (a, blockHeight)).isSome

/-- `GetStorageProofs`: the rows of a height with their addresses. -/
def getStorageProofs (blockHeight : Int) (db : Db) : List (PgText × StorageProofRow) :=
  (db.storageProofs.entries.filter fun e => e.1.2 == blockHeight).map fun e => (e.1.1, e.2)

def insertStorageProof (blockHeight : Int) (address cid proofSignature : String)
    (proverAddresses : List String) : Stmt Db Unit := fun db => do
  let a ← PgText.ofString address
  let cid ← PgText.ofString cid
  let sig ← PgText.ofString proofSignature
  let provers ← bindTexts proverAddresses
  if (db.storageProofs.lookup (a, blockHeight)).isSome then
    .error (.uniqueViolation "storage_proofs_address_block_height_key")
  else
    let row := ⟨some cid, some sig, none, provers, .unresolved⟩
    return ((), { db with storageProofs := db.storageProofs.insert (a, blockHeight) row })

def updateStorageProof (proof : String) (status : ProofStatus) (blockHeight : Int)
    (address : String) : Stmt Db Unit := fun db => do
  let p ← PgText.ofString proof
  let a ← PgText.ofString address
  let change := fun r : StorageProofRow => { r with proof := some p, status := status }
  return ((), { db with storageProofs := db.storageProofs.update (a, blockHeight) change })

def insertFailedStorageProof (blockHeight : Int) (address : String) : Stmt Db Unit :=
  fun db => do
    let a ← PgText.ofString address
    if (db.storageProofs.lookup (a, blockHeight)).isSome then
      .error (.uniqueViolation "storage_proofs_address_block_height_key")
    else
      let row := ⟨none, none, none, [], .fail⟩
      return ((), { db with storageProofs := db.storageProofs.insert (a, blockHeight) row })

/-! ### Rewards -/

/-- A reward with the authorities of its pool, none when it has no pool. -/
structure RewardWithPool where
  reward : RewardRow
  claimAuthorities : List PgText

/-- `GetReward`: any of the rewards at the address of the latest block. -/
def getReward (rows : RowChoice) (address : String) : Query Db (Option RewardWithPool) :=
  fun db => do
    let a ← PgText.ofString address
    let found := db.rewards.rewards.filter fun r => r.address == a
    let latest := found.filter fun r => found.all fun r' => decide (r'.blockHeight ≤ r.blockHeight)
    return (rows.pick latest).map fun r =>
      ⟨r, (r.rewardsManagerPubkey.bind db.rewards.pools.lookup).getD []⟩

/-- `GetRewardPool`, of which only the authorities are used. -/
def getRewardPool (rewardsManagerPubkey : String) : Query Db (Option (List PgText)) :=
  fun db => do
    let rm ← PgText.ofString rewardsManagerPubkey
    return db.rewards.pools.lookup rm

/-- `GetLaunchpadRMByAuthority`: the least reward manager one of the authorities is mapped to. -/
def getLaunchpadRMByAuthority (authorities : List String) : Query Db (Option PgText) :=
  fun db => do
    let as ← bindTexts authorities
    let found := (db.rewards.launchpadAuthorityRm.entries.filter fun e => decide (e.1 ∈ as)).map
      (·.2)
    return (found.insertionSort fun r r' => r.val ≤ r'.val).head?

def insertCoreReward (address txHash : String) (index : Int) (sender rewardId name : String)
    (amount : Int) (rewardsManagerPubkey : Option String) (rawMessage : Bytes)
    (blockHeight : Int) : Stmt Db Unit := fun db => do
  let address ← PgText.ofString address
  let txHash ← PgText.ofString txHash
  let sender ← PgText.ofString sender
  let rewardId ← PgText.ofString rewardId
  let name ← PgText.ofString name
  let rm ← rewardsManagerPubkey.mapM PgText.ofString
  if rm.any fun rm => (db.rewards.pools.lookup rm).isNone then
    .error (.foreignKeyViolation "fk_core_rewards_rewards_manager_pubkey")
  else
    return ((), { db with rewards := { db.rewards with rewards := db.rewards.rewards ++
      [⟨address, txHash, index, sender, rewardId, name, amount, rm, rawMessage, blockHeight⟩] } })

def deleteCoreReward (address : String) : Stmt Db Unit := fun db => do
  let a ← PgText.ofString address
  return ((), { db with rewards := { db.rewards with
    rewards := db.rewards.rewards.filter fun r => r.address != a } })

/-- `trim` of a text: its surrounding spaces. -/
def sqlTrim (t : PgText) : PgText where
  val := String.ofList ((t.val.toList.dropWhile (· = ' ')).reverse.dropWhile (· = ' ')).reverse
  nulFree := by
    unfold NulFree
    rw [String.toList_ofList, List.mem_reverse]
    intro h
    have h₁ := List.dropWhile_subset _ h
    rw [List.mem_reverse] at h₁
    exact t.nulFree (List.dropWhile_subset _ h₁)

/-- `UpsertLegacyReplayRewardPool`: a new pool as given, an existing one with the union of the
authorities, normalized and sorted. -/
def upsertLegacyReplayRewardPool (sqlLower : PgText → PgText) (rewardsManagerPubkey : String)
    (authorities : List String) : Stmt Db Unit := fun db => do
  let rm ← PgText.ofString rewardsManagerPubkey
  let as ← bindTexts authorities
  let merged := match db.rewards.pools.lookup rm with
    | none => as
    | some old =>
      ((((old ++ as).filter fun a => (sqlTrim a).val != "").map fun a => sqlLower (sqlTrim a)).dedup
        ).insertionSort fun a b => a.val ≤ b.val
  return ((), { db with rewards := { db.rewards with pools := db.rewards.pools.insert rm merged } })

def insertRewardPool (rewardsManagerPubkey : String) (authorities : List String) :
    Stmt Db Unit := fun db => do
  let rm ← PgText.ofString rewardsManagerPubkey
  let as ← bindTexts authorities
  if (db.rewards.pools.lookup rm).isSome then .error (.uniqueViolation "core_reward_pools_pkey")
  else
    return ((), { db with rewards := { db.rewards with pools := db.rewards.pools.insert rm as } })

def updateRewardPoolAuthorities (rewardsManagerPubkey : String) (authorities : List String) :
    Stmt Db Unit := fun db => do
  let rm ← PgText.ofString rewardsManagerPubkey
  let as ← bindTexts authorities
  return ((), { db with rewards := { db.rewards with
    pools := db.rewards.pools.update rm fun _ => as } })

/-! ### Uploads and tracks -/

def getCoreUpload (rows : RowChoice) (cid : String) : Query Db (Option UploadRow) := fun db => do
  let c ← PgText.ofString cid
  return rows.pick (db.uploads.filter fun u => u.cid == c || u.transcodedCid == c)

def insertFileUpload (uploaderAddress cid transcodedCid upid uploadSignature validatorAddress
    validatorSignature txHash : String) (blockHeight : Int) : Stmt Db Unit := fun db => do
  let uploaderAddress ← PgText.ofString uploaderAddress
  let cid ← PgText.ofString cid
  let transcodedCid ← PgText.ofString transcodedCid
  let upid ← PgText.ofString upid
  let uploadSignature ← PgText.ofString uploadSignature
  let validatorAddress ← PgText.ofString validatorAddress
  let validatorSignature ← PgText.ofString validatorSignature
  let txHash ← PgText.ofString txHash
  return ((), { db with uploads := db.uploads ++
    [⟨uploaderAddress, cid, transcodedCid, upid, uploadSignature, validatorAddress,
      validatorSignature, txHash, blockHeight⟩] })

def deleteManagementKeysByTrackID (trackId : String) : Stmt Db Unit := fun db => do
  let t ← PgText.ofString trackId
  return ((), { db with tracks := { db.tracks with
    managementKeys := db.tracks.managementKeys.filter fun k => k.trackId != t } })

def deleteSoundRecordingsByTrackID (trackId : String) : Stmt Db Unit := fun db => do
  let t ← PgText.ofString trackId
  return ((), { db with tracks := { db.tracks with
    soundRecordings := db.tracks.soundRecordings.filter fun r => r.trackId != t } })

def insertSoundRecording (soundRecordingId trackId cid : String) : Stmt Db Unit := fun db => do
  let s ← PgText.ofString soundRecordingId
  let t ← PgText.ofString trackId
  let c ← PgText.ofString cid
  return ((), { db with tracks := { db.tracks with
    soundRecordings := db.tracks.soundRecordings ++ [⟨s, t, c⟩] } })

def insertManagementKey (trackId address : String) : Stmt Db Unit := fun db => do
  let t ← PgText.ofString trackId
  let a ← PgText.ofString address
  return ((), { db with tracks := { db.tracks with
    managementKeys := db.tracks.managementKeys ++ [⟨t, a⟩] } })

/-! ### DDEX messages -/

/-- The three message tables. -/
inductive DdexTable where
  | ern | mead | pie
deriving DecidableEq, Repr

/-- `InsertCoreERN`, `InsertCoreMEAD` and `InsertCorePIE`. -/
def insertDdexMessage (table : DdexTable) (address txHash : String) (index : Int) (sender : String)
    (messageControlType : Option MessageControlType) (rawMessage rawAcknowledgment : Bytes)
    (blockHeight : Int) : Stmt Db Unit := fun db => do
  let address ← PgText.ofString address
  let txHash ← PgText.ofString txHash
  let sender ← PgText.ofString sender
  let row : DdexRow := ⟨address, txHash, index, sender, messageControlType, rawMessage,
    rawAcknowledgment, blockHeight⟩
  let ddex := match table with
    | .ern => { db.ddex with erns := db.ddex.erns ++ [row] }
    | .mead => { db.ddex with meads := db.ddex.meads ++ [row] }
    | .pie => { db.ddex with pies := db.ddex.pies ++ [row] }
  return ((), { db with ddex := ddex })

/-- The four tables of the parts of an ERN. -/
inductive ErnEntity where
  | party | resource | release | deal
deriving DecidableEq, Repr

def ErnEntity.text : ErnEntity → String
  | .party => "party"
  | .resource => "resource"
  | .release => "release"
  | .deal => "deal"

def ErnEntity.pkey : ErnEntity → String
  | .party => "core_parties_pkey"
  | .resource => "core_resources_pkey"
  | .release => "core_releases_pkey"
  | .deal => "core_deals_pkey"

def ErnEntity.table (ddex : DdexTables) : ErnEntity → Table PgText ErnEntityRow
  | .party => ddex.parties
  | .resource => ddex.resources
  | .release => ddex.releases
  | .deal => ddex.deals

def ErnEntity.setTable (ddex : DdexTables) (t : Table PgText ErnEntityRow) : ErnEntity → DdexTables
  | .party => { ddex with parties := t }
  | .resource => { ddex with resources := t }
  | .release => { ddex with releases := t }
  | .deal => { ddex with deals := t }

/-- `InsertCoreParty`, `InsertCoreResource`, `InsertCoreRelease` and `InsertCoreDeal`. -/
def insertErnEntity (entity : ErnEntity) (address ernAddress : String) (entityIndex : Int)
    (txHash : String) (blockHeight : Int) : Stmt Db Unit := fun db => do
  let a ← PgText.ofString address
  let ern ← PgText.ofString ernAddress
  let kind ← PgText.ofString entity.text
  let h ← PgText.ofString txHash
  let rows := entity.table db.ddex
  if (rows.lookup a).isSome then .error (.uniqueViolation entity.pkey)
  else
    return ((), { db with
      ddex := entity.setTable db.ddex (rows.insert a ⟨ern, kind, entityIndex, h, blockHeight⟩) })

end OpenAudio.Core.Db
