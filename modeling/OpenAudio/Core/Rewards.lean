import OpenAudio.Lib.GoJson
import OpenAudio.Core.Server

/-!
# Rewards and reward pools

A reward belongs to the pool of a Solana reward manager, and the pool's authorities create and
delete its rewards. Validation decides against the committed pools, finalization against those of
the block in progress. Rewards in the wire format from before the pools are refused by validation
and still applied by finalization, for replay.
-/

namespace OpenAudio.Core

open Prog

/-! ### Authorities -/

/-- `CanonicalAuthorities`: trimmed, lowercased, without empty entries or duplicates, sorted. -/
def canonicalAuthorities (rt : GoRuntime) (authorities : List String) : List String :=
  (((authorities.map fun a => rt.toLower (trimSpace a)).filter (· ≠ "")).dedup).insertionSort (· ≤ ·)

/-- `strings.ToLower(strings.TrimSpace(signer))` -/
def canonicalSigner (rt : GoRuntime) (signer : String) : String := rt.toLower (trimSpace signer)

/-- `common.IsHexAddress` of go-ethereum, which is not part of the repository -/
def isHexAddress (s : String) : Bool :=
  let cs := s.toList
  let digits := match cs with
    | '0' :: 'x' :: rest => rest
    | '0' :: 'X' :: rest => rest
    | cs => cs
  digits.length == 40 && digits.all fun c => (hexDigit c).isSome

def errRewardMessageValidation : String := "reward message validation failed"

def errRewardMessageFinalization : String := "reward message finalization failed"

def errRewardSignatureInvalid : String := "reward signature invalid"

def errRewardExpired : String := "reward transaction expired"

def errRewardUnauthorized : String := "reward transaction unauthorized"

def errRewardPoolOwnerSignatureInvalid : String := "reward pool owner signature invalid"

/-- `fmt.Errorf("%w: …", sentinel, …)` -/
def sentinelError (sentinel msg : String) : GoError := .plain (sentinel ++ ": " ++ msg)

/-- `errors.Join(ErrRewardMessageFinalization, err)` -/
def joinFinalization (e : GoError) : GoError :=
  .plain (errRewardMessageFinalization ++ "\n" ++ e.message)

def validateAuthorityList (rt : GoRuntime) (addrs : List String) : Except GoError Unit :=
  if addrs = [] then
    .error (sentinelError errRewardMessageValidation "at least one authority is required")
  else match addrs.find? fun a => !isHexAddress (trimSpace a) with
    | some a =>
      .error (sentinelError errRewardMessageValidation (rt.quote a ++ " is not a valid eth address"))
    | none => .ok ()

def solanaPubkeyByteLen : Nat := 32

/-- `ed25519.SignatureSize` -/
def ed25519SignatureSize : Nat := 64

def validateRewardsManagerPubkeyShape (ext : Externals) (pubkey : String) : Except GoError Unit := do
  refuseIf (pubkey = "")
    (sentinelError errRewardMessageValidation "rewards_manager_pubkey is required")
  refuseIf (pubkey ≠ trimSpace pubkey)
    (sentinelError errRewardMessageValidation
      "rewards_manager_pubkey must not have surrounding whitespace")
  match ext.base58Decode pubkey with
  | .error e =>
    .error (sentinelError errRewardMessageValidation
      ("rewards_manager_pubkey is not valid base58: " ++ e))
  | .ok bytes =>
    let got := bytes.length
    refuseIf (got ≠ solanaPubkeyByteLen) (sentinelError errRewardMessageValidation
      s!"rewards_manager_pubkey must decode to {solanaPubkeyByteLen} bytes; got {got}")

def verifyRewardPoolOwnerSignature (ext : Externals) (rmPubkey : String)
    (bodyBytes signature : Bytes) : Except GoError Unit := do
  let length := signature.length
  refuseIf (length ≠ ed25519SignatureSize) (sentinelError errRewardPoolOwnerSignatureInvalid
    s!"signature length is {length}, want {ed25519SignatureSize}")
  match ext.base58Decode rmPubkey with
  | .error e =>
    .error (sentinelError errRewardPoolOwnerSignatureInvalid
      ("rewards_manager_pubkey is not valid base58: " ++ e))
  | .ok pubkeyBytes =>
    let got := pubkeyBytes.length
    refuseIf (got ≠ solanaPubkeyByteLen) (sentinelError errRewardPoolOwnerSignatureInvalid
      s!"rewards_manager_pubkey decodes to {got} bytes, want {solanaPubkeyByteLen}")
    refuseIf (ext.ed25519Verify pubkeyBytes bodyBytes signature = false)
      (.plain errRewardPoolOwnerSignatureInvalid)

/-- The verdict on a pool as a lookup found it: it exists and the signer is one of its
authorities. -/
def poolAuthorizes (rt : GoRuntime) (rewardsManagerPubkey signer : String)
    (pool : Option (List PgText)) : Except GoError Unit :=
  match pool with
  | none =>
    .error (sentinelError errRewardMessageValidation s!"pool {rewardsManagerPubkey} not found")
  | some authorities =>
    refuseIf ((authorities.any fun a => a.val == canonicalSigner rt signer) = false)
      (sentinelError errRewardUnauthorized
        s!"signer {signer} not authorized for pool {rewardsManagerPubkey}")

/-- The verdict on a reward as a lookup found it. -/
def rewardAuthorizes (rt : GoRuntime) (address signer : String) (verb : String)
    (reward : Option Db.RewardWithPool) : Except GoError Unit :=
  match reward with
  | none => .error (sentinelError errRewardMessageValidation s!"reward {address} not found")
  | some r =>
    refuseIf ((r.claimAuthorities.any fun a => a.val == canonicalSigner rt signer) = false)
      (sentinelError errRewardUnauthorized (verb ++ s!" to delete reward {address}"))

namespace Server

variable (s : Server)

def recoverDeadlinedSigner (currentHeight deadlineHeight : Int) (msg : ProtoMessage)
    (signature : String) : Except GoError String := do
  refuseIf (deadlineHeight < currentHeight) (sentinelError errRewardExpired
    s!"current height {currentHeight} > deadline {deadlineHeight}")
  (s.ext.protoRecover msg signature).mapError (sentinelError errRewardSignatureInvalid)

def validateRewardsManagerPubkey (pubkey : String) : Except GoError Unit := do
  validateRewardsManagerPubkeyShape s.ext pubkey
  let audioRM := trimSpace s.config.audioRewardsManagerPubkey
  refuseIf (audioRM ≠ "" ∧ pubkey = audioRM) (sentinelError errRewardMessageValidation
    "rewards_manager_pubkey is reserved (AUDIO); pools cannot be created for it")

/-! ### Validation -/

/-- `checkPoolAuthorization` on the committed pools. -/
def checkCommittedPool (rewardsManagerPubkey signer : String) : Except GoError Unit := do
  let pool ← (s.read (Db.getRewardPool rewardsManagerPubkey)).mapError
    (GoError.wrap s!"failed to load pool {rewardsManagerPubkey}")
  poolAuthorizes s.rt rewardsManagerPubkey signer pool

def validateCreateReward (createReward : CreateReward) (signer : String) :
    Except GoError Unit := do
  s.validateRewardsManagerPubkey createReward.rewardsManagerPubkey
  s.checkCommittedPool createReward.rewardsManagerPubkey signer

def validateDeleteReward (deleteReward : DeleteReward) (signer : String) :
    Except GoError Unit := do
  let reward ← (s.read (Db.getReward s.ext.rows deleteReward.address)).mapError
    (GoError.wrap "failed to get existing reward for validation")
  rewardAuthorizes s.rt deleteReward.address signer s!"signer {signer} not authorized" reward

def isValidRewardTransaction (envelope : RewardMessage) (blockHeight : Int) :
    Except GoError Unit :=
  match envelope.body with
  | none =>
    match envelope.legacy with
    | .ok (some _) =>
      .error (sentinelError errRewardMessageValidation
        ("legacy reward wire format is not accepted for new transactions; " ++
          "clients must use the body+signature envelope"))
    | _ => .error (sentinelError errRewardMessageValidation "reward message body is nil")
  | some body => do
    let signer ← (s.recoverDeadlinedSigner blockHeight body.deadlineBlockHeight (.rewardBody body)
      envelope.signature).mapError (GoError.wrap "reward validation failed")
    match body.action with
    | some (.create msg) => s.validateCreateReward msg signer
    | some (.delete msg) => s.validateDeleteReward msg signer
    | none => .error (sentinelError errRewardMessageValidation "unsupported reward action type")

/-- What creating a pool requires of the message itself. -/
def checkPoolMessage (envelope : RewardPoolMessage) (body : RewardPoolBody)
    (msg : CreateRewardPool) (signer : String) : Except GoError Unit := do
  s.validateRewardsManagerPubkey msg.rewardsManagerPubkey
  validateAuthorityList s.rt msg.authorities
  verifyRewardPoolOwnerSignature s.ext msg.rewardsManagerPubkey
    (s.ext.marshal (.rewardPoolBody body)) envelope.rmOwnerSignature
  refuseIf (canonicalSigner s.rt signer ∉ canonicalAuthorities s.rt msg.authorities)
    (sentinelError errRewardUnauthorized s!"signer {signer} not in initial authorities")

def validateCreateRewardPool (envelope : RewardPoolMessage) (body : RewardPoolBody)
    (msg : CreateRewardPool) (signer : String) : Except GoError Unit := do
  s.checkPoolMessage envelope body msg signer
  let rm := msg.rewardsManagerPubkey
  let pool ← (s.read (Db.getRewardPool rm)).mapError
    (GoError.wrap "failed to check pool existence")
  refuseIf (pool.isSome = true)
    (sentinelError errRewardMessageValidation s!"pool {rm} already exists")

def validateSetRewardPoolAuthorities (msg : SetRewardPoolAuthorities) (signer : String) :
    Except GoError Unit := do
  validateRewardsManagerPubkeyShape s.ext msg.rewardsManagerPubkey
  validateAuthorityList s.rt msg.authorities
  s.checkCommittedPool msg.rewardsManagerPubkey signer

def isValidRewardPoolTransaction (envelope : RewardPoolMessage) (blockHeight : Int) :
    Except GoError Unit :=
  match envelope.body with
  | none => .error (sentinelError errRewardMessageValidation "reward pool message body is nil")
  | some body => do
    let signer ← (s.recoverDeadlinedSigner blockHeight body.deadlineBlockHeight
      (.rewardPoolBody body) envelope.signature).mapError
      (GoError.wrap "reward pool validation failed")
    match body.action with
    | some (.create msg) => s.validateCreateRewardPool envelope body msg signer
    | some (.setAuthorities msg) => s.validateSetRewardPoolAuthorities msg signer
    | none =>
      .error (sentinelError errRewardMessageValidation "unsupported reward pool action type")

/-! ### Finalization -/

/-- `checkPoolAuthorization` on the pools of the block in progress. -/
def checkBlockPool (rewardsManagerPubkey signer : String) : BlockProg Unit := do
  let pool ← BlockProg.context s!"failed to load pool {rewardsManagerPubkey}"
    (BlockProg.query (Db.getRewardPool rewardsManagerPubkey))
  ofExcept (poolAuthorizes s.rt rewardsManagerPubkey signer pool)

/-- The address of a reward: the place of its message on the chain. -/
def rewardAddress (txhash : String) (height messageIndex : Int) : Except GoError String :=
  (text "invalid txhash: " (s.ext.hexToBytes txhash)).map fun bytes =>
    s.ext.createAddress bytes s.config.chainID height messageIndex ""

def finalizeCreateReward (req : FinalizeBlockRequest) (txhash : String) (messageIndex : Int)
    (createReward : CreateReward) (signer : String) : BlockProg Unit := do
  s.checkBlockPool createReward.rewardsManagerPubkey signer
  let address ← ofExcept (s.rewardAddress txhash req.height messageIndex)
  BlockProg.context "failed to insert reward"
    (BlockProg.exec (Db.insertCoreReward address txhash messageIndex signer createReward.rewardId
      createReward.name (wrapInt64 createReward.amount) (some createReward.rewardsManagerPubkey)
      (s.ext.marshal (.createReward createReward)) req.height))

/-- A delete of the reward at an address, current or legacy: `lookup`, `verb` and `failure` are the
texts of its errors. -/
def deleteRewardBy (address signer lookup verb failure : String) : BlockProg Unit := do
  let reward ← BlockProg.context lookup (BlockProg.query (Db.getReward s.ext.rows address))
  ofExcept (rewardAuthorizes s.rt address signer verb reward)
  BlockProg.context failure (BlockProg.exec (Db.deleteCoreReward address))

def finalizeDeleteReward (deleteReward : DeleteReward) (signer : String) : BlockProg Unit :=
  s.deleteRewardBy deleteReward.address signer "failed to get reward at finalize"
    s!"signer {signer} no longer authorized" "failed to delete reward"

/-- `LegacyRecoverCreateReward`: the signature covers the digest of a text of the fields. -/
def legacyRecoverCreateReward (cr : LegacyCreateReward) : Except String String :=
  let authorities := (cr.claimAuthorities.map fun a => a.address ++ ":" ++ a.name).insertionSort
    (· ≤ ·)
  let data := cr.rewardId ++ "|" ++ cr.name ++ "|" ++ toString cr.amount ++ "|" ++
    Json.encodeStrings authorities ++ "|" ++ toString cr.deadlineBlockHeight
  (s.ext.ethRecover cr.signature (s.ext.sha256 (textBytes data))).map (·.2)

def legacyRecoverDeleteReward (dr : LegacyDeleteReward) : Except String String :=
  let data := dr.address ++ "|" ++ toString dr.deadlineBlockHeight
  (s.ext.ethRecover dr.signature (s.ext.sha256 (textBytes data))).map (·.2)

/-- The deadline and the signer of a legacy message. -/
def recoverLegacySigner (currentHeight deadline : Int) (recovered : Except String String) :
    Except GoError String := do
  refuseIf (deadline < currentHeight)
    (sentinelError errRewardExpired s!"current height {currentHeight} > deadline {deadline}")
  recovered.mapError (sentinelError errRewardSignatureInvalid)

/-- The pool a legacy reward falls under: that of the least reward manager one of its authorities
is mapped to, which then takes the authorities over. -/
def resolveLegacyPool (authorities : List String) : BlockProg (Option String) :=
  if authorities = [] then pure none
  else do
    let rm ← BlockProg.context "failed to resolve launchpad RM"
      (BlockProg.query (Db.getLaunchpadRMByAuthority authorities))
    match rm with
    | none => pure none
    | some rm => do
      BlockProg.context "failed to upsert reward pool for legacy replay"
        (BlockProg.exec (Db.upsertLegacyReplayRewardPool s.ext.sqlLower rm.val authorities))
      pure (some rm.val)

def finalizeLegacyCreateReward (req : FinalizeBlockRequest) (txhash : String) (messageIndex : Int)
    (cr : LegacyCreateReward) (signer : String) : BlockProg Unit := do
  let address ← ofExcept (s.rewardAddress txhash req.height messageIndex)
  let rm ← s.resolveLegacyPool
    (canonicalAuthorities s.rt (cr.claimAuthorities.map fun a => a.address))
  BlockProg.context "failed to insert legacy reward"
    (BlockProg.exec (Db.insertCoreReward address txhash messageIndex signer cr.rewardId cr.name
      (wrapInt64 cr.amount) rm (s.ext.marshal (.legacyCreateReward cr)) req.height))

def finalizeLegacyDeleteReward (dr : LegacyDeleteReward) (signer : String) : BlockProg Unit :=
  s.deleteRewardBy dr.address signer "legacy delete: failed to get reward"
    s!"legacy signer {signer} no longer authorized" "failed to delete legacy reward"

def finalizeLegacyRewardTransaction (req : FinalizeBlockRequest) (action : LegacyRewardAction)
    (txhash : String) (messageIndex : Int) : BlockProg Unit :=
  mapError joinFinalization (match action with
    | .create cr => do
      let signer ← ofExcept (recoverLegacySigner req.height cr.deadlineBlockHeight
        (s.legacyRecoverCreateReward cr))
      s.finalizeLegacyCreateReward req txhash messageIndex cr signer
    | .delete dr => do
      let signer ← ofExcept (recoverLegacySigner req.height dr.deadlineBlockHeight
        (s.legacyRecoverDeleteReward dr))
      s.finalizeLegacyDeleteReward dr signer)

def finalizeRewards (req : FinalizeBlockRequest) (txhash : String) (messageIndex : Int)
    (envelope : RewardMessage) : BlockProg Unit :=
  match envelope.body with
  | none =>
    match envelope.legacy with
    | .error e => fail (joinFinalization (.plain ("legacy reward: unmarshal: " ++ e)))
    | .ok none =>
      fail (.plain s!"tx: {txhash}, message index: {messageIndex}, reward message body not found")
    | .ok (some action) => s.finalizeLegacyRewardTransaction req action txhash messageIndex
  | some body => do
    let signer ← ofExcept ((s.recoverDeadlinedSigner req.height body.deadlineBlockHeight
      (.rewardBody body) envelope.signature).mapError fun e =>
        joinFinalization (e.wrap "signature validation failed"))
    match body.action with
    | some (.create msg) =>
      mapError joinFinalization (s.finalizeCreateReward req txhash messageIndex msg signer)
    | some (.delete msg) => mapError joinFinalization (s.finalizeDeleteReward msg signer)
    | none =>
      fail (.plain s!"tx: {txhash}, message index: {messageIndex}, unsupported reward action type")

/-- Insert the pool unless an earlier transaction of the block did. -/
def insertNewPool (msg : CreateRewardPool) : BlockProg Unit := do
  let pool ← BlockProg.context "failed to check pool existence at finalize"
    (BlockProg.query (Db.getRewardPool msg.rewardsManagerPubkey))
  if pool.isSome then pure ()
  else
    BlockProg.exec (Db.insertRewardPool msg.rewardsManagerPubkey
      (canonicalAuthorities s.rt msg.authorities))

def finalizeCreateRewardPool (envelope : RewardPoolMessage) (body : RewardPoolBody)
    (msg : CreateRewardPool) (signer : String) : BlockProg Unit := do
  ofExcept (s.checkPoolMessage envelope body msg signer)
  s.insertNewPool msg

def finalizeSetRewardPoolAuthorities (msg : SetRewardPoolAuthorities) (signer : String) :
    BlockProg Unit := do
  ofExcept (validateRewardsManagerPubkeyShape s.ext msg.rewardsManagerPubkey)
  ofExcept (validateAuthorityList s.rt msg.authorities)
  s.checkBlockPool msg.rewardsManagerPubkey signer
  BlockProg.exec (Db.updateRewardPoolAuthorities msg.rewardsManagerPubkey
    (canonicalAuthorities s.rt msg.authorities))

def finalizeRewardPoolTransaction (req : FinalizeBlockRequest) (envelope : RewardPoolMessage)
    (txhash : String) (messageIndex : Int) : BlockProg Unit :=
  match envelope.body with
  | none =>
    fail (.plain
      s!"tx: {txhash}, message index: {messageIndex}, reward pool message body not found")
  | some body => do
    let signer ← ofExcept ((s.recoverDeadlinedSigner req.height body.deadlineBlockHeight
      (.rewardPoolBody body) envelope.signature).mapError fun e =>
        joinFinalization (e.wrap "signer recovery"))
    match body.action with
    | some (.create msg) =>
      mapError joinFinalization (s.finalizeCreateRewardPool envelope body msg signer)
    | some (.setAuthorities msg) =>
      mapError joinFinalization (s.finalizeSetRewardPoolAuthorities msg signer)
    | none =>
      fail (.plain
        s!"tx: {txhash}, message index: {messageIndex}, unsupported reward pool action type")

end Server

end OpenAudio.Core
