import OpenAudio.Core.Auth.Projection
import OpenAudio.Core.Server

/-!
# ManageEntity transactions

Enforcement recovers the signer and runs the projection on a throwaway overlay; finalization writes
the tables that gate a track and runs the projection on the block's transaction.
-/

namespace OpenAudio.Core

open Prog

/-! ### Signatures -/

/-- `toBytes`: what decodes before the first bad digit. -/
def toBytes (str : String) : Bytes := hexPrefixBytes (trimPrefix str "0x").toList

def typedManageEntity (em : ManageEntityLegacy) : TypedManageEntity where
  userId := toString em.userId
  entityType := em.entityType
  entityId := toString em.entityId
  action := em.action
  metadata := em.metadata
  nonce := (toBytes em.nonce ++ List.replicate 32 0).take 32

/-- The recovery id of an Ethereum signature is 27 above the one the library expects. -/
def adjustRecoveryId (signature : Bytes) : Bytes :=
  if 64 < signature.length then signature.set 64 (signature.getD 64 0 - 27) else signature

/-- `RecoverPubkeyFromCoreTx`, of which the address is used. -/
def recoverPubkeyFromCoreTx (ext : Externals) (config : Config) (em : ManageEntityLegacy) :
    Except String String := do
  let sighash ← ext.typedDataHash config.acdcChainID config.acdcEntityManagerAddress
    (typedManageEntity em)
  let pubKey ← ext.sigToPub sighash (adjustRecoveryId (toBytes em.signature))
  return ext.checksumHex (ext.pubkeyToAddress pubKey)

/-! ### Enforcement -/

/-- A rule rejection of the projection is an authorization rejection; a store failure stays one. -/
def liftAuthError : AuthError → GoError
  | .validation msg => .authRejection msg
  | .store e => .store e

namespace Server

variable (s : Server)

def newProposalAuthOverlay : Overlay := newOverlay s.committed.auth

def enforceTrackContentAuth (rules : Rules) (tx : AuthTx) : Prog Overlay GoError Unit :=
  if rules.contentAuthEnforced then (validateTrackContentAuth s.rt tx rules).mapError liftAuthError
  else pure ()

def validateManageEntityAuth (rules : Rules) (em : ManageEntityLegacy) :
    Prog Overlay GoError Unit :=
  match recoverPubkeyFromCoreTx s.ext s.config em with
  | .error e => fail (.authRejection ("signer not recoverable: " ++ e))
  | .ok recovered => do
    let signer := em.signer
    rejectIf (s.rt.equalFold recovered signer = false)
      (.authRejection s!"signer {signer} does not match recovered address {recovered}")
    s.enforceTrackContentAuth rules (authTxFromManageEntity em)
    (applyAuthProjection s.rt (authTxFromManageEntity em) rules).mapError liftAuthError

end Server

/-! ### Finalization -/

/-- `trackMetadata` -/
structure TrackMetadata where
  cid : String := ""
  accessAuthorities : Json.Slice := {}
  trackCid : String := ""
deriving DecidableEq, Repr

/-- The field of `trackMetadata.Data` a key names. -/
def trackDataField (u : CaseTables) (key : String) :
    Option (Json.Value → TrackMetadata → Option TrackMetadata) :=
  if u.equalFold key "track_cid" then
    some fun v m => (Json.decodeString v m.trackCid).map fun c => { m with trackCid := c }
  else none

/-- The field of `trackMetadata` a key names, in any case. -/
def trackField (u : CaseTables) (key : String) :
    Option (Json.Value → TrackMetadata → Option TrackMetadata) :=
  if u.equalFold key "cid" then
    some fun v m => (Json.decodeString v m.cid).map fun c => { m with cid := c }
  else if u.equalFold key "access_authorities" then
    some fun v m => (Json.decodeStrings v m.accessAuthorities).map
      fun a => { m with accessAuthorities := a }
  else if u.equalFold key "data" then some (Json.decodeStruct (trackDataField u))
  else none

def parseTrackMetadata (u : CaseTables) (metadata : String) : Option TrackMetadata :=
  Json.unmarshalStruct (trackField u) metadata {}

/-- Gate a track: replace its recording and its management keys. -/
def gateTrack (rt : GoRuntime) (trackID cid : String) (signers : List String) : BlockProg Unit := do
  BlockProg.context "delete sound_recordings"
    (BlockProg.exec (Db.deleteSoundRecordingsByTrackID trackID))
  BlockProg.context "delete management_keys"
    (BlockProg.exec (Db.deleteManagementKeysByTrackID trackID))
  BlockProg.context "insert sound_recording"
    (BlockProg.exec (Db.insertSoundRecording ("sr_" ++ trackID) trackID cid))
  forEach signers fun addr => BlockProg.context "insert management_key"
    (BlockProg.exec (Db.insertManagementKey trackID (rt.toLower addr)))

/-- `processTrackManageEntity`; without access authorities the track is ungated. -/
def processTrackManageEntity (rt : GoRuntime) (me : ManageEntityLegacy) : BlockProg Unit :=
  match parseTrackMetadata rt.toCaseTables me.metadata with
  | none => fail (.plain "parse track metadata")
  | some md =>
    let trackID := toString me.entityId
    if md.accessAuthorities.items = [] then
      BlockProg.context "delete management_keys"
        (BlockProg.exec (Db.deleteManagementKeysByTrackID trackID))
    else if md.trackCid = "" then fail (.plain "track metadata missing track_cid in data")
    else gateTrack rt trackID md.trackCid md.accessAuthorities.items

/-- `projectManageEntityAuthState`: a rejection or a failure is only logged. -/
def projectManageEntityAuthState (rt : GoRuntime) (tx : AuthTx) (rules : Rules) :
    BlockProg Unit :=
  BlockProg.logged ((applyAuthProjection rt tx rules).mapError liftAuthError)

/-- The transaction creates or updates a track, in any spelling. -/
def gatesTrack (rt : GoRuntime) (em : ManageEntityLegacy) : Bool :=
  rt.equalFold em.entityType "Track" &&
    (rt.equalFold em.action "Create" || rt.equalFold em.action "Update")

namespace Server

variable (s : Server)

/-- The track tables of a create or update; an error is only logged. -/
def finalizeTrackGate (em : ManageEntityLegacy) : BlockProg Unit :=
  if gatesTrack s.rt em then BlockProg.logged (processTrackManageEntity s.rt em) else pure ()

def finalizeManageEntity (em : ManageEntityLegacy) (blockHeight : Int) : BlockProg Unit := do
  s.finalizeTrackGate em
  projectManageEntityAuthState s.rt (authTxFromManageEntity em) (s.rules blockHeight)

/-- The legacy message a migrated track create is processed as. -/
def migratedTrack (me : ManageEntityLegacyMigration) : ManageEntityLegacy where
  userId := me.userId
  entityType := me.entityType
  entityId := me.entityId
  action := me.action
  metadata := me.metadata

def finalizeMigratedTrackGate (me : ManageEntityLegacyMigration) : BlockProg Unit :=
  if s.rt.equalFold me.entityType "Track" && s.rt.equalFold me.action "Create" then
    BlockProg.logged (processTrackManageEntity s.rt (migratedTrack me))
  else pure ()

def finalizeManageEntityMigration (me : ManageEntityLegacyMigration) : BlockProg Unit := do
  s.finalizeMigratedTrackGate me
  projectManageEntityAuthState s.rt (authTxFromManageEntityMigration me) {}

end Server

/-! ### Recorded transactions -/

def Server.firstUserDb : Db :=
  { Db.empty with auth := { Db.empty.auth with
      users := AList.insert 1 ⟨firstWallet, none, false⟩ ∅ } }

end OpenAudio.Core
