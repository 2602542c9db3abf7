import OpenAudio.Core.Abci.Finalize
import OpenAudio.Core.Auth.Invariant

/-!
# The footprint of each transaction

Which parts of the database the finalizer of each kind of transaction writes, and what follows for
a whole block.
-/

namespace OpenAudio.Core

open Prog

def TxBody.parts : TxBody → List Part
  | .plays _ => []
  | .manageEntity _ => [.tracks, .auth]
  | .manageEntityMigration _ => [.tracks, .auth]
  | .attestation _ => [.validators]
  | .validatorRegistration _ => [.validators]
  | .validatorDeregistration _ => [.validators]
  | .slaRollup _ => [.sla]
  | .storageProof _ => [.storageProofs]
  | .storageProofVerification _ => [.storageProofs]
  | .release _ => []
  | .reward _ => [.rewards]
  | .rewardPool _ => [.rewards]
  | .contentAttestation _ => [.auth]
  | .fileUpload _ => [.uploads]
  | .mediorumOperation _ => []

section Tracks

variable (rt : GoRuntime)

theorem footprint_gateTrack (trackID cid : String) (signers : List String) :
    Footprint [.tracks] (gateTrack rt trackID cid signers) := by
  unfold gateTrack
  refine (Footprint.context _ (.exec (Db.writesOnly_deleteSoundRecordingsByTrackID _)
    (by simp))).bind fun _ => ?_
  refine (Footprint.context _ (.exec (Db.writesOnly_deleteManagementKeysByTrackID _)
    (by simp))).bind fun _ => ?_
  refine (Footprint.context _ (.exec (Db.writesOnly_insertSoundRecording _ _ _)
    (by simp))).bind fun _ => ?_
  apply Footprint.forEach
  intro addr
  exact .context _ (.exec (Db.writesOnly_insertManagementKey _ _) (by simp))

theorem footprint_processTrackManageEntity (me : ManageEntityLegacy) :
    Footprint [.tracks] (processTrackManageEntity rt me) := by
  unfold processTrackManageEntity
  cases parseTrackMetadata rt.toCaseTables me.metadata with
  | none => exact .fail _
  | some md =>
    refine .ite ?_ (.ite (.fail _) (footprint_gateTrack rt _ _ _))
    exact .exec (Db.writesOnly_deleteManagementKeysByTrackID _) (by simp)

theorem footprint_projectManageEntityAuthState (tx : AuthTx) (rules : Rules) :
    Footprint [.auth] (projectManageEntityAuthState rt tx rules) :=
  footprint_applyAuthProjection rt tx rules

end Tracks

namespace Server

variable (s : Server)

theorem footprint_finalizeTrackGate (em : ManageEntityLegacy) :
    Footprint [.tracks] (s.finalizeTrackGate em) := by
  unfold finalizeTrackGate
  exact .ite (footprint_processTrackManageEntity s.rt em) (.pure ())

theorem footprint_finalizeManageEntity (em : ManageEntityLegacy) (height : Int) :
    Footprint [.tracks, .auth] (s.finalizeManageEntity em height) := by
  have hgate := s.footprint_finalizeTrackGate em
  have hauth := footprint_projectManageEntityAuthState s.rt (authTxFromManageEntity em)
    (s.rules height)
  exact (hgate.mono (by simp)).bind fun _ => hauth.mono (by simp)

theorem footprint_finalizeMigratedTrackGate (me : ManageEntityLegacyMigration) :
    Footprint [.tracks] (s.finalizeMigratedTrackGate me) := by
  unfold finalizeMigratedTrackGate
  exact .ite (footprint_processTrackManageEntity s.rt _) (.pure ())

theorem footprint_finalizeManageEntityMigration (me : ManageEntityLegacyMigration) :
    Footprint [.tracks, .auth] (s.finalizeManageEntityMigration me) := by
  have hgate := s.footprint_finalizeMigratedTrackGate me
  have hauth := footprint_projectManageEntityAuthState s.rt (authTxFromManageEntityMigration me) {}
  exact (hgate.mono (by simp)).bind fun _ => hauth.mono (by simp)

/-! ### Validators -/

theorem footprint_finalizeRegisterNodeAttestation (tx : SignedTransaction)
    (vr : ValidatorRegistration) :
    Footprint [.validators] (s.finalizeRegisterNodeAttestation tx vr) := by
  unfold finalizeRegisterNodeAttestation
  cases s.ext.ethRecover tx.signature (s.ext.marshal (.signedTransaction tx)) with
  | error e => exact .fail _
  | ok r =>
    obtain ⟨pubKey, address⟩ := r
    refine (Footprint.context _ (.query _)).bind fun existing => ?_
    cases existing with
    | none => exact .exec (Db.writesOnly_insertRegisteredNode _ _ _ _ _ _ _ _) (by simp)
    | some existing =>
      exact .ite (.exec (Db.writesOnly_unjailRegisteredNode _) (by simp)) (.pure ())

theorem footprint_finalizeAttestation (tx : SignedTransaction) (att : Attestation) (height : Int) :
    Footprint [.validators] (s.finalizeAttestation tx att height) := by
  unfold finalizeAttestation
  cases s.isValidAttestation tx att height with
  | error e => exact .fail _
  | ok u =>
    match att.body with
    | none => exact .fail _
    | some (.validatorRegistration vr) => exact s.footprint_finalizeRegisterNodeAttestation tx vr
    | some (.validatorDeregistration dereg) =>
      exact .ite (.exec (Db.writesOnly_deleteRegisteredNode _) (by simp))
        (.exec (Db.writesOnly_jailRegisteredNode _) (by simp))

theorem footprint_finalizeDeregisterMisbehavingNode (tx : SignedTransaction)
    (vd : ValidatorMisbehaviorDeregistration) (misbehavior : List Misbehavior) :
    Footprint [.validators] (s.finalizeDeregisterMisbehavingNode tx vd misbehavior) := by
  unfold finalizeDeregisterMisbehavingNode
  cases s.isValidDeregisterMisbehavingNodeTx tx vd misbehavior with
  | error e => exact .fail _
  | ok u => exact .exec (Db.writesOnly_deleteRegisteredNode _) (by simp)

theorem footprint_finalizeLegacyRegisterNode (tx : SignedTransaction)
    (vr : ValidatorRegistrationLegacy) (height : Int) :
    Footprint [.validators] (s.finalizeLegacyRegisterNode tx vr height) := by
  unfold finalizeLegacyRegisterNode
  refine .ite (.fail _) ?_
  cases s.ext.ethRecover tx.signature (s.ext.marshal (.validatorRegistrationLegacy vr)) with
  | error e => exact .fail _
  | ok r =>
    obtain ⟨pubKey, address⟩ := r
    refine (Footprint.query _).attempt.bind fun existing => ?_
    match existing with
    | .ok none => exact .exec (Db.writesOnly_insertRegisteredNode _ _ _ _ _ _ _ _) (by simp)
    | .ok (some _) => exact .pure ()
    | .error _ => exact .pure ()

/-! ### The audit and proofs of storage -/

theorem footprint_finalizeSlaRollup (rollup : SlaRollup) (txHash : String) :
    Footprint [.sla] (finalizeSlaRollup rollup txHash) := by
  unfold finalizeSlaRollup
  refine (Footprint.context _ (.query _)).bind fun duplicate => ?_
  refine .ite (.pure ()) ?_
  unfold storeSlaRollup
  refine (Footprint.exec (Db.writesOnly_commitSlaRollup _ _ _ _) (by simp)).bind fun id => ?_
  refine (Footprint.exec Db.writesOnly_clearUncommittedSlaNodeReports (by simp)).bind fun _ => ?_
  apply Footprint.forEach
  intro r
  exact .exec (Db.writesOnly_commitSlaNodeReport _ _ _) (by simp)

theorem footprint_finalizeStorageProof (tx : SignedTransaction) (sp : StorageProof) (height : Int) :
    Footprint [.storageProofs] (s.finalizeStorageProof tx sp height) := by
  unfold finalizeStorageProof
  cases s.isValidStorageProofTx tx sp height with
  | error e => exact .fail _
  | ok u =>
    refine (Footprint.query _).attempt.bind fun existing => ?_
    match existing with
    | .ok false => exact .exec (Db.writesOnly_insertStorageProof _ _ _ _ _) (by simp)
    | .ok true => exact .pure ()
    | .error _ => exact .pure ()

theorem footprint_collectConsensus (proof : Bytes) (proofs : List (PgText × StorageProofRow)) :
    Footprint [] (s.collectConsensus proof proofs) := by
  induction proofs with
  | nil => exact .pure _
  | cons p rest ih =>
    obtain ⟨address, p⟩ := p
    have hmatch : Footprint [] (s.proofMatches proof address p) := by
      unfold proofMatches
      refine (Footprint.context _ (.query _)).bind fun node => ?_
      cases node with
      | none => exact .fail _
      | some node =>
        refine (Footprint.rejectIf _ _).bind fun _ => ?_
        dsimp only
        repeat' split
        all_goals first | exact .fail _ | exact .pure _
    refine hmatch.bind fun matched => ?_
    refine ih.bind fun r => ?_
    exact .ite (.pure _) (.pure _)

theorem footprint_resolveChallenge (spv : StorageProofVerification)
    (proofs : List (PgText × StorageProofRow)) (nodes peers : List PgText) :
    Footprint [.storageProofs] (resolveChallenge spv proofs nodes peers) := by
  unfold resolveChallenge
  refine Footprint.bind (.forEach fun p => ?_) fun _ => ?_
  · exact .exec (Db.writesOnly_updateStorageProof _ _ _ _) (by simp)
  · apply Footprint.forEach
    intro peer
    exact .ite (.exec (Db.writesOnly_insertFailedStorageProof _ _) (by simp)) (.pure ())

theorem footprint_finalizeStorageProofVerification (spv : StorageProofVerification)
    (height : Int) :
    Footprint [.storageProofs] (s.finalizeStorageProofVerification spv height) := by
  unfold finalizeStorageProofVerification
  cases s.isValidStorageProofVerificationTx spv height with
  | error e => exact .fail _
  | ok u =>
    refine (Footprint.context _ (.query _)).bind fun proofs => ?_
    unfold settleChallenge
    split
    · refine ((s.footprint_collectConsensus spv.proof proofs).mono (by simp)).bind fun r => ?_
      exact .ite (footprint_resolveChallenge _ _ _ _) (.pure ())
    · exact .pure ()

/-! ### Rewards -/

theorem footprint_finalizeCreateReward (req : FinalizeBlockRequest) (txhash : String) (i : Int)
    (msg : CreateReward) (signer : String) :
    Footprint [.rewards] (s.finalizeCreateReward req txhash i msg signer) := by
  have hpool : Footprint [.rewards] (s.checkBlockPool msg.rewardsManagerPubkey signer) := by
    unfold checkBlockPool
    exact (Footprint.context _ (.query _)).bind fun pool => .ofExcept _
  unfold finalizeCreateReward
  refine hpool.bind fun _ => ?_
  refine (Footprint.ofExcept _).bind fun address => ?_
  exact .context _ (.exec (Db.writesOnly_insertCoreReward _ _ _ _ _ _ _ _ _ _) (by simp))

theorem footprint_deleteRewardBy (address signer lookup verb failure : String) :
    Footprint [.rewards] (s.deleteRewardBy address signer lookup verb failure) := by
  unfold deleteRewardBy
  refine (Footprint.context _ (.query _)).bind fun reward => ?_
  refine (Footprint.ofExcept _).bind fun _ => ?_
  exact .context _ (.exec (Db.writesOnly_deleteCoreReward _) (by simp))

theorem footprint_finalizeLegacyCreateReward (req : FinalizeBlockRequest) (txhash : String)
    (i : Int) (cr : LegacyCreateReward) (signer : String) :
    Footprint [.rewards] (s.finalizeLegacyCreateReward req txhash i cr signer) := by
  have hpool : ∀ authorities, Footprint [.rewards] (s.resolveLegacyPool authorities) := by
    intro authorities
    unfold resolveLegacyPool
    refine .ite (.pure none) ?_
    refine (Footprint.context _ (.query _)).bind fun rm => ?_
    cases rm with
    | none => exact .pure none
    | some rm =>
      refine Footprint.bind (.context _ (.exec
        (Db.writesOnly_upsertLegacyReplayRewardPool _ _ _) (by simp))) fun _ => ?_
      exact .pure _
  unfold finalizeLegacyCreateReward
  refine (Footprint.ofExcept _).bind fun address => ?_
  refine (hpool _).bind fun rm => ?_
  exact .context _ (.exec (Db.writesOnly_insertCoreReward _ _ _ _ _ _ _ _ _ _) (by simp))

theorem footprint_finalizeRewards (req : FinalizeBlockRequest) (txhash : String) (i : Int)
    (msg : RewardMessage) : Footprint [.rewards] (s.finalizeRewards req txhash i msg) := by
  unfold finalizeRewards
  match msg.body with
  | some body =>
    refine (Footprint.ofExcept _).bind fun signer => ?_
    match body.action with
    | none => exact .fail _
    | some (.create m) => exact (s.footprint_finalizeCreateReward req txhash i m signer).mapError _
    | some (.delete m) => exact (s.footprint_deleteRewardBy _ _ _ _ _).mapError _
  | none =>
    match msg.legacy with
    | .error e => exact .fail _
    | .ok none => exact .fail _
    | .ok (some (.create cr)) =>
      refine Footprint.mapError _ ((Footprint.ofExcept _).bind fun signer => ?_)
      exact s.footprint_finalizeLegacyCreateReward req txhash i cr signer
    | .ok (some (.delete dr)) =>
      refine Footprint.mapError _ ((Footprint.ofExcept _).bind fun signer => ?_)
      exact s.footprint_deleteRewardBy _ _ _ _ _

theorem footprint_finalizeCreateRewardPool (envelope : RewardPoolMessage) (body : RewardPoolBody)
    (msg : CreateRewardPool) (signer : String) :
    Footprint [.rewards] (s.finalizeCreateRewardPool envelope body msg signer) := by
  unfold finalizeCreateRewardPool insertNewPool
  refine (Footprint.ofExcept _).bind fun _ => ?_
  refine (Footprint.context _ (.query _)).bind fun pool => ?_
  exact .ite (.pure ()) (.exec (Db.writesOnly_insertRewardPool _ _) (by simp))

theorem footprint_finalizeSetRewardPoolAuthorities (msg : SetRewardPoolAuthorities)
    (signer : String) :
    Footprint [.rewards] (s.finalizeSetRewardPoolAuthorities msg signer) := by
  unfold finalizeSetRewardPoolAuthorities checkBlockPool
  refine (Footprint.ofExcept _).bind fun _ => ?_
  refine (Footprint.ofExcept _).bind fun _ => ?_
  refine Footprint.bind ?_ fun _ => ?_
  · exact (Footprint.context _ (.query _)).bind fun pool => .ofExcept _
  · exact .exec (Db.writesOnly_updateRewardPoolAuthorities _ _) (by simp)

theorem footprint_finalizeRewardPoolTransaction (req : FinalizeBlockRequest)
    (envelope : RewardPoolMessage) (txhash : String) (i : Int) :
    Footprint [.rewards] (s.finalizeRewardPoolTransaction req envelope txhash i) := by
  unfold finalizeRewardPoolTransaction
  match envelope.body with
  | none => exact .fail _
  | some body =>
    refine (Footprint.ofExcept _).bind fun signer => ?_
    match body.action with
    | none => exact .fail _
    | some (.create m) =>
      exact (s.footprint_finalizeCreateRewardPool envelope body m signer).mapError _
    | some (.setAuthorities m) =>
      exact (s.footprint_finalizeSetRewardPoolAuthorities m signer).mapError _

/-! ### Content and DDEX -/

theorem footprint_finalizeContentAttestation (ca : ContentAttestation) (txHash : String)
    (height : Int) : Footprint [.auth] (s.finalizeContentAttestation ca txHash height) := by
  have hproject : Footprint [.auth] (projectContentAttestationCids ca txHash) := by
    unfold projectContentAttestationCids
    refine (Footprint.rejectIf _ _).bind fun _ => ?_
    apply Footprint.forEach
    intro cid
    exact .ite (.pure ()) (footprint_authWrite _)
  unfold finalizeContentAttestation
  refine .ite (.fail _) ?_
  cases s.isValidContentAttestation ca with
  | error e => exact .fail _
  | ok u => exact .context _ (hproject.mapError _)

theorem footprint_finalizeFileUpload (fu : FileUpload) (txHash : String) (height : Int) :
    Footprint [.uploads] (s.finalizeFileUpload fu txHash height) := by
  unfold finalizeFileUpload
  cases s.isValidFileUpload fu with
  | error e => exact .fail _
  | ok u => exact .context _ (.exec (Db.writesOnly_insertFileUpload _ _ _ _ _ _ _ _ _) (by simp))

theorem footprint_insertErnEntities (entity : Db.ErnEntity) (ernAddress txhash : String)
    (height : Int) (addresses : List String) (i : Nat) :
    Footprint [.ddex] (insertErnEntities entity ernAddress txhash height addresses i) := by
  induction addresses generalizing i with
  | nil => exact .pure ()
  | cons address rest ih =>
    refine Footprint.bind ?_ fun _ => ih (i + 1)
    exact .context _ (.exec (Db.writesOnly_insertErnEntity _ _ _ _ _ _) (by simp))

theorem footprint_finalizeERN (req : FinalizeBlockRequest) (txhash : String) (i : Int)
    (ern : NewReleaseMessage) (sender : String) :
    Footprint [.ddex] (s.finalizeERN req txhash i ern sender) := by
  have hnew : ∀ header, Footprint [.ddex] (s.finalizeNewERN req txhash i ern header sender) := by
    intro header
    unfold finalizeNewERN
    cases s.validateERNNewMessage ern with
    | error e => exact .fail _
    | ok u =>
      refine Footprint.mapError _ ?_
      unfold finalizeERNNewMessage
      refine (Footprint.ofExcept _).bind fun bytes => ?_
      refine Footprint.bind (.context _ (.exec (Db.writesOnly_insertDdexMessage _ _ _ _ _ _ _ _ _)
        (by simp))) fun _ => ?_
      refine (footprint_insertErnEntities _ _ _ _ _ _).bind fun _ => ?_
      refine (footprint_insertErnEntities _ _ _ _ _ _).bind fun _ => ?_
      refine (footprint_insertErnEntities _ _ _ _ _ _).bind fun _ => ?_
      exact footprint_insertErnEntities _ _ _ _ _ _
  unfold finalizeERN
  dsimp only
  repeat' split
  all_goals first | exact .fail _ | exact .pure _ | exact hnew _

theorem footprint_finalizeDdex (table : Db.DdexTable) (name : String)
    (ack : String → ProtoMessage) (req : FinalizeBlockRequest) (txhash : String) (i : Int)
    (raw : Bytes) (sender : String) :
    Footprint [.ddex] (s.finalizeDdex table name ack req txhash i raw sender) := by
  unfold finalizeDdex
  refine Footprint.mapError _ ((Footprint.ofExcept _).bind fun bytes => ?_)
  exact .context _ (.exec (Db.writesOnly_insertDdexMessage _ _ _ _ _ _ _ _ _) (by simp))

theorem footprint_finalizeV2Messages (req : FinalizeBlockRequest) (txhash sender : String)
    (messages : List V2Message) (i : Int) :
    Footprint [.ddex] (s.finalizeV2Messages req txhash sender messages i) := by
  induction messages generalizing i with
  | nil => exact .pure ()
  | cons msg rest ih =>
    unfold finalizeV2Messages
    cases msg with
    | ern ern =>
      exact ((s.footprint_finalizeERN req txhash i ern sender).context _).bind fun _ => ih (i + 1)
    | mead raw =>
      exact ((s.footprint_finalizeDdex _ _ _ req txhash i raw sender).context _).bind
        fun _ => ih (i + 1)
    | pie raw =>
      exact ((s.footprint_finalizeDdex _ _ _ req txhash i raw sender).context _).bind
        fun _ => ih (i + 1)
    | empty => exact (Footprint.pure ()).bind fun _ => ih (i + 1)

/-! ### One transaction of a block -/

theorem footprint_finalizeTransaction (req : FinalizeBlockRequest) (stx : SignedTransaction)
    (txHash : String) :
    Footprint (stx.transaction.elim [] TxBody.parts) (s.finalizeTransaction req stx txHash) := by
  unfold finalizeTransaction
  match stx.transaction with
  | none => exact .fail _
  | some (.plays _) => exact .pure ()
  | some (.manageEntity em) => exact s.footprint_finalizeManageEntity em req.height
  | some (.manageEntityMigration me) => exact s.footprint_finalizeManageEntityMigration me
  | some (.attestation att) => exact s.footprint_finalizeAttestation stx att req.height
  | some (.validatorRegistration vr) =>
    exact s.footprint_finalizeLegacyRegisterNode stx vr req.height
  | some (.validatorDeregistration vd) =>
    exact s.footprint_finalizeDeregisterMisbehavingNode stx vd req.misbehavior
  | some (.slaRollup rollup) => exact footprint_finalizeSlaRollup rollup txHash
  | some (.storageProof sp) => exact s.footprint_finalizeStorageProof stx sp req.height
  | some (.storageProofVerification spv) =>
    exact s.footprint_finalizeStorageProofVerification spv req.height
  | some (.release _) => exact .pure ()
  | some (.reward msg) => exact s.footprint_finalizeRewards req txHash 0 msg
  | some (.rewardPool msg) => exact s.footprint_finalizeRewardPoolTransaction req msg txHash 0
  | some (.contentAttestation ca) =>
    exact s.footprint_finalizeContentAttestation ca txHash req.height
  | some (.fileUpload fu) => exact s.footprint_finalizeFileUpload fu txHash req.height
  | some (.mediorumOperation op) => exact .ofExcept _

theorem footprint_deregistrationNeedsValidatorUpdate (stx : SignedTransaction) :
    Footprint [] (s.deregistrationNeedsValidatorUpdate stx) := by
  unfold deregistrationNeedsValidatorUpdate
  refine .ite (.pure false) ?_
  refine (Footprint.query _).attempt.bind fun node => ?_
  match node with
  | .ok (some node) => exact .pure _
  | .ok none => exact .pure _
  | .error _ => exact .pure _

theorem footprint_registeredNodeValidatorUpdate (cometAddress : String) (pubKey : Bytes)
    (power : Int) : Footprint [] (s.registeredNodeValidatorUpdate cometAddress pubKey power) := by
  unfold registeredNodeValidatorUpdate
  refine .ite (.pure none) ?_
  exact (Footprint.query _).attempt.bind fun node => .pure _

theorem footprint_registrationEffect (vr : ValidatorRegistration) (req : FinalizeBlockRequest) :
    Footprint [.validatorHistory] (s.registrationEffect vr req) := by
  have happend : Footprint [.validatorHistory] (s.appendRegistrationToValidatorHistory vr req) := by
    unfold appendRegistrationToValidatorHistory
    cases parseInt64 vr.spId with
    | none => exact .fail _
    | some spId => exact .exec (Db.writesOnly_appendValidatorHistory _ _ _ _ _ _ _ _) (by simp)
  unfold registrationEffect
  refine Footprint.bind ((s.footprint_registeredNodeValidatorUpdate _ _ _).mono (by simp))
    fun update => ?_
  match update with
  | none => exact .pure _
  | some (address, u) => exact (Footprint.logged happend).bind fun _ => .pure _

theorem footprint_appendDeregistrationToValidatorHistory (dereg : ValidatorDeregistration)
    (req : FinalizeBlockRequest) :
    Footprint [.validatorHistory] (s.appendDeregistrationToValidatorHistory dereg req) := by
  unfold appendDeregistrationToValidatorHistory
  split
  · exact .fail _
  · split
    · exact .fail _
    · exact .exec (Db.writesOnly_appendValidatorHistory _ _ _ _ _ _ _ _) (by simp)

theorem footprint_validatorEffect (req : FinalizeBlockRequest) (body : Option TxBody)
    (emit : Bool) : Footprint [.validatorHistory] (s.validatorEffect req body emit) := by
  unfold validatorEffect
  split
  · refine Footprint.bind ?_ fun update => .pure _
    exact (s.footprint_registeredNodeValidatorUpdate _ _ _).mono (by simp)
  · split
    · exact s.footprint_registrationEffect _ req
    · refine Footprint.bind (.logged ?_) fun _ => .pure _
      exact s.footprint_appendDeregistrationToValidatorHistory _ req
    · exact .pure _
  · exact .pure _
  · exact .pure _

theorem footprint_outcomeEffect (req : FinalizeBlockRequest) (body : Option TxBody) (emit : Bool)
    (outcome : Except GoError Unit) :
    Footprint [.validatorHistory] (s.outcomeEffect req body emit outcome) := by
  unfold outcomeEffect
  cases outcome with
  | error e => exact .pure _
  | ok u => exact s.footprint_validatorEffect req body emit

theorem footprint_storeTx (req : FinalizeBlockRequest) (index : Nat) (tx : Bytes) :
    Footprint [.chain] (s.storeTx req index tx) :=
  .logged (.exec (Db.writesOnly_storeTransaction _ _ _ _ _) (by simp))

theorem footprint_persistTxStat (req : FinalizeBlockRequest) (txType : Option String)
    (txhash : String) : Footprint [.chain] (persistTxStat req txType txhash) := by
  unfold persistTxStat
  cases txType with
  | none => exact .pure ()
  | some name => exact .logged (.exec (Db.writesOnly_insertTxStat _ _ _ _) (by simp))

/-- What executing a transaction may write: its finalizer's parts, its own record and the history
of the validators. -/
def txParts (tx : Bytes) : List Part :=
  match s.ext.unmarshalSigned tx with
  | some stx => .chain :: .validatorHistory :: stx.transaction.elim [] TxBody.parts
  | none => [.chain, .ddex]

theorem footprint_executeSigned (req : FinalizeBlockRequest) (index : Nat) (tx : Bytes)
    (stx : SignedTransaction) :
    Footprint (.chain :: .validatorHistory :: stx.transaction.elim [] TxBody.parts)
      (s.executeSigned req index tx stx) := by
  unfold executeSigned
  refine Footprint.bind ((s.footprint_deregistrationNeedsValidatorUpdate stx).mono (by simp))
    fun emit => ?_
  refine Footprint.bind (.attempt ((s.footprint_finalizeTransaction req stx _).mono ?_))
    fun outcome => ?_
  · exact fun p hp => List.mem_cons_of_mem _ (List.mem_cons_of_mem _ hp)
  refine Footprint.bind ((s.footprint_outcomeEffect req _ emit outcome).mono (by simp))
    fun effect => ?_
  refine Footprint.bind ((s.footprint_storeTx req index tx).mono (by simp)) fun _ => ?_
  refine Footprint.bind ((footprint_persistTxStat req _ _).mono (by simp)) fun _ => ?_
  exact .pure _

theorem footprint_finalizeV2Transaction (req : FinalizeBlockRequest) (envelope : Envelope)
    (header : EnvelopeHeader) (txhash : String) :
    Footprint [.ddex] (s.finalizeV2Transaction req envelope header txhash) := by
  unfold finalizeV2Transaction
  refine (Footprint.rejectIf _ _).bind fun _ => ?_
  refine (Footprint.rejectIf _ _).bind fun _ => ?_
  exact s.footprint_finalizeV2Messages req _ _ _ _

theorem footprint_executeV2 (req : FinalizeBlockRequest) (index : Nat) (tx : Bytes)
    (envelope : Envelope) (header : EnvelopeHeader) :
    Footprint [.chain, .ddex] (s.executeV2 req index tx envelope header) := by
  unfold executeV2
  refine Footprint.bind (.attempt (.savepoint _ _
    ((s.footprint_finalizeV2Transaction req envelope header _).mono (by simp)))) fun outcome => ?_
  refine Footprint.bind ((s.footprint_storeTx req index tx).mono (by simp)) fun _ => ?_
  exact .pure _

theorem footprint_executeTx (req : FinalizeBlockRequest) (index : Nat) (tx : Bytes) :
    Footprint (s.txParts tx) (s.executeTx req index tx) := by
  unfold executeTx txParts
  cases s.ext.unmarshalSigned tx with
  | some stx => exact s.footprint_executeSigned req index tx stx
  | none =>
    cases s.isValidV2Transaction tx with
    | error e => exact .pure _
    | ok r => exact s.footprint_executeV2 req index tx r.2.1 r.2.2

end Server

end OpenAudio.Core
