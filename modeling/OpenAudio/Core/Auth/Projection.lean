import OpenAudio.Lib.GoJson
import OpenAudio.Core.Config
import OpenAudio.Core.Auth.Store

/-!
# The authorization projection

The projection validates a ManageEntity transaction against the auth state and, when it passes,
applies its authorization effects. It is written once, over any `AuthStore`: proposal validation
runs it on an overlay, `FinalizeBlock` on the block's transaction.
-/

namespace OpenAudio.Core

open Prog AuthStore

/-- The entity types the projection understands. -/
inductive AuthEntityType where
  | user | track | playlist | grant | developerApp
deriving DecidableEq, Repr

def AuthEntityType.text : AuthEntityType → String
  | .user => "User"
  | .track => "Track"
  | .playlist => "Playlist"
  | .grant => "Grant"
  | .developerApp => "DeveloperApp"

/-- The actions the projection understands. -/
inductive AuthAction where
  | create | update | delete | approve | reject
deriving DecidableEq, Repr

def AuthAction.text : AuthAction → String
  | .create => "Create"
  | .update => "Update"
  | .delete => "Delete"
  | .approve => "Approve"
  | .reject => "Reject"

def authPlaylistIDOffset : Int := 400000

def authTrackIDOffset : Int := 2000000

def trackCidMetadataKeys : List String := ["track_cid", "preview_cid", "orig_file_cid"]

/-- The projection's view of a ManageEntity transaction. -/
structure AuthTx where
  userId : Int
  entityType : String
  entityId : Int
  action : String
  signer : String
  migration : Bool
  /-- the metadata map; a nil map is empty -/
  metadata : List (String × Json.Value)

/-- Parse the metadata and unwrap its `data` envelope; unparseable metadata reads as empty. -/
def parseAuthMetadata (raw : String) : List (String × Json.Value) :=
  if raw = "" then []
  else match Json.unmarshalMap raw with
    | none => []
    | some members =>
      match Json.lastMember members "data" with
      | some (.obj data) => data
      | _ => members

theorem parseAuthMetadata_of_read {raw : String} {members : List (String × Json.Value)}
    (h : (Json.parse raw, Json.numbersInRange raw) = (some (.obj members), true))
    (hdata : Json.lastMember members "data" = none) : parseAuthMetadata raw = members := by
  rw [parseAuthMetadata, if_neg (Json.ne_empty_of_parse (congrArg Prod.fst h)),
    Json.unmarshalMap_of_read h]
  dsimp only
  rw [hdata]

def authTxFromManageEntity (em : ManageEntityLegacy) : AuthTx where
  userId := em.userId
  entityType := em.entityType
  entityId := em.entityId
  action := em.action
  signer := em.signer
  migration := false
  metadata := parseAuthMetadata em.metadata

def authTxFromManageEntityMigration (em : ManageEntityLegacyMigration) : AuthTx where
  userId := em.userId
  entityType := em.entityType
  entityId := em.entityId
  action := em.action
  signer := em.signer
  migration := true
  metadata := parseAuthMetadata em.metadata

namespace AuthTx

def metaString (tx : AuthTx) (key : String) : String :=
  match Json.lastMember tx.metadata key with
  | some (.str s) => s
  | _ => ""

def metaInt64 (rt : GoRuntime) (tx : AuthTx) (key : String) : Option Int :=
  match Json.lastMember tx.metadata key with
  | some (.num d) => some (rt.int64OfFloat d.truncated)
  | _ => none

def metaBool (tx : AuthTx) (key : String) : Option Bool :=
  match Json.lastMember tx.metadata key with
  | some (.bool b) => some b
  | _ => none

def metaBoolOr (tx : AuthTx) (key : String) (default : Bool) : Bool :=
  (tx.metaBool key).getD default

end AuthTx

def canonicalAuthEntityType (rt : GoRuntime) (s : String) : Option AuthEntityType :=
  [.user, .track, .playlist, .grant, .developerApp].find? fun t => rt.equalFold s t.text

def canonicalAuthAction (rt : GoRuntime) (s : String) : Option AuthAction :=
  [.create, .update, .delete, .approve, .reject].find? fun a => rt.equalFold s a.text

section Projection

variable {σ : Type} [AuthStore σ] (rt : GoRuntime)

def invalid {α : Type} (msg : String) : Prog σ AuthError α := fail (.validation msg)

def invalidIf (c : Prop) [Decidable c] (msg : String) : Prog σ AuthError Unit :=
  rejectIf c (.validation msg)

/-- The signer holds a grant from the user and is still a live app or an active user. -/
def validateGrantedSigner (userId : Int) (signer : String) : Prog σ AuthError Unit := do
  let grantee := rt.toLower signer
  invalidIf (grantee = "") s!"no signer for user {userId}"
  let g ← getGrant grantee userId
  let g := g.getD ⟨none, true⟩
  invalidIf (g.revoked = true) s!"signer {signer} is not authorized for user {userId}"
  let app ← getApp grantee
  let isApp := app.any fun a => !a.deleted
  let isUser ← activeWalletExists grantee
  invalidIf (isApp = false ∧ isUser = false)
    s!"signer {signer} is no longer a valid developer app or active user"
  invalidIf (isApp = false ∧ g.approved ≠ some true)
    s!"signer {signer} grant for user {userId} is not approved"

/-- The signer is the user's own wallet, or holds an active grant from the user. -/
def validateAuthSigner (userId : Int) (signer : String) : Prog σ AuthError Unit := do
  match ← getUser userId with
  | none => invalid s!"user {userId} does not exist"
  | some u =>
    invalidIf (u.wallet = "") s!"user {userId} does not exist"
    if rt.equalFold u.wallet signer then return ()
    else validateGrantedSigner rt userId signer

/-- What a live user create checks besides the user id: wallet, app and handle collisions. -/
def validateNewUser (wallet handleLC : String) : Prog σ AuthError Unit := do
  let used ← walletExists wallet
  invalidIf (used = true) s!"wallet {wallet} already in use"
  let app ← getApp wallet
  invalidIf (app.any fun a => !a.deleted) s!"developer app {wallet} cannot create user"
  if handleLC = "" then return ()
  else do
    let taken ← handleExists handleLC
    let quoted := rt.quote handleLC
    invalidIf (taken = true) s!"handle {quoted} already exists"

def projectUserCreate (tx : AuthTx) : Prog σ AuthError Unit := do
  let existing ← getUser tx.userId
  let id := tx.userId
  invalidIf (existing.isSome = true) s!"user {id} already exists"
  let wallet := rt.toLower tx.signer
  invalidIf (wallet = "") s!"user {id} create has no signer"
  let handleLC := rt.toLower (tx.metaString "handle")
  if tx.migration then pure () else validateNewUser rt wallet handleLC
  insertUser tx.userId wallet handleLC (tx.metaBoolOr "is_deactivated" false)

def projectUserUpdate (tx : AuthTx) : Prog σ AuthError Unit := do
  validateAuthSigner rt tx.userId tx.signer
  let handle := tx.metaString "handle"
  if handle = "" then pure () else setUserHandle tx.userId (rt.toLower handle)
  match tx.metaBool "is_deactivated" with
  | some deactivated => setUserDeactivated tx.userId deactivated
  | none => pure ()

def entityIDOffset : AuthEntityType → Int
  | .track => authTrackIDOffset
  | _ => authPlaylistIDOffset

def projectEntityCreate (tx : AuthTx) (entityType : AuthEntityType) : Prog σ AuthError Unit := do
  let name := entityType.text
  let id := tx.entityId
  let offset := entityIDOffset entityType
  invalidIf (tx.migration = false ∧ id < offset) s!"{name} id {id} below offset {offset}"
  invalidIf (entityType = .track ∧ tx.metaInt64 rt "owner_id" ≠ some tx.userId)
    s!"track {id} metadata owner_id missing or mismatched"
  validateAuthSigner rt tx.userId tx.signer
  let existing ← getEntity name id
  invalidIf (existing.isSome = true) s!"{name} {id} already exists"
  insertEntity name id tx.userId (tx.migration && tx.metaBoolOr "is_delete" false)

def projectEntityDelete (tx : AuthTx) (entityType : AuthEntityType) : Prog σ AuthError Unit := do
  let name := entityType.text
  let id := tx.entityId
  let user := tx.userId
  validateAuthSigner rt user tx.signer
  match ← getEntity name id with
  | none => invalid s!"{name} {id} does not exist"
  | some existing =>
    invalidIf (existing.ownerId ≠ user) s!"{name} {id} does not belong to user {user}"
    setEntityDeleted name id

/-- The source row of a migrated grant is its final state. -/
def projectMigratedGrantCreate (tx : AuthTx) (grantee : String) (isApp : Bool) :
    Prog σ AuthError Unit :=
  let approved := match tx.metaBool "is_approved" with
    | some v => some v
    | none => if isApp then some true else none
  upsertGrant grantee tx.userId approved (tx.metaBoolOr "is_revoked" false)

def projectGrantCreate (tx : AuthTx) : Prog σ AuthError Unit := do
  let grantee := rt.toLower (tx.metaString "grantee_address")
  let user := tx.userId
  invalidIf (grantee = "") "grantee_address is required for grant creation"
  validateAuthSigner rt user tx.signer
  let app ← getApp grantee
  let isApp := app.any fun a => !a.deleted
  if tx.migration then projectMigratedGrantCreate tx grantee isApp
  else do
    let isUser ← walletExists grantee
    invalidIf (isApp = false ∧ isUser = false)
      s!"grantee {grantee} is not a developer app or user wallet"
    let existing ← getGrant grantee user
    invalidIf (existing.any fun g => !g.revoked)
      s!"active grant already exists for grantee {grantee} from user {user}"
    upsertGrant grantee user (if isApp then some true else none) false

/-- Whether `validateAuthSigner` passes; a store failure stays a failure. -/
def signerAuthorized (userId : Int) (signer : String) : Prog σ AuthError Bool := do
  match ← attempt (validateAuthSigner rt userId signer) with
  | .ok () => return true
  | .error (.validation _) => return false
  | .error (.store e) => fail (.store e)

/-- The grantor may revoke, and for a user-to-user grant the grantee may. -/
def mayRevoke (tx : AuthTx) (grantee : String) : Prog σ AuthError Bool := do
  if ← signerAuthorized rt tx.userId tx.signer then return true
  else
    match ← getUserIDByWallet grantee with
    | some granteeUserId => signerAuthorized rt granteeUserId tx.signer
    | none => return false

def projectGrantDelete (tx : AuthTx) : Prog σ AuthError Unit := do
  let grantee := rt.toLower (tx.metaString "grantee_address")
  let user := tx.userId
  let signer := tx.signer
  invalidIf (grantee = "") "grantee_address is required for grant revoke"
  let existing ← getGrant grantee user
  let existing := existing.getD ⟨none, true⟩
  invalidIf (existing.revoked = true) s!"no active grant for grantee {grantee} from user {user}"
  let authorized ← mayRevoke rt tx grantee
  invalidIf (authorized = false)
    s!"signer {signer} is not authorized to revoke the grant for grantee {grantee} from user {user}"
  upsertGrant grantee user existing.approved true

def projectGrantApproveReject (tx : AuthTx) (approve : Bool) : Prog σ AuthError Unit := do
  let grantee := rt.toLower (tx.metaString "grantee_address")
  invalidIf (grantee = "") "grantee_address is required for grant approve/reject"
  validateAuthSigner rt tx.userId tx.signer
  match tx.metaInt64 rt "grantor_user_id" with
  | none => invalid "grantor_user_id is required for grant approve/reject"
  | some grantor =>
    match ← getGrant grantee grantor with
    | none => invalid s!"grant not found for grantee {grantee} from user {grantor}"
    | some existing =>
      invalidIf (existing.revoked = true) "grant is already revoked"
      invalidIf (existing.approved = some true) "grant is already approved"
      upsertGrant grantee grantor (some approve) (!approve)

def projectAppCreate (tx : AuthTx) : Prog σ AuthError Unit := do
  validateAuthSigner rt tx.userId tx.signer
  let address := rt.toLower (tx.metaString "address")
  invalidIf (address = "") "address is required for developer app"
  let existing ← getApp address
  invalidIf (existing.any fun a => !a.deleted) s!"developer app {address} already exists"
  let walletUsed ← walletExists address
  invalidIf (walletUsed = true) s!"address {address} is already a user wallet"
  upsertApp address tx.userId
  if tx.migration && tx.metaBoolOr "is_delete" false then setAppDeleted address else pure ()

def projectAppDelete (tx : AuthTx) : Prog σ AuthError Unit := do
  validateAuthSigner rt tx.userId tx.signer
  let address := rt.toLower (tx.metaString "address")
  let user := tx.userId
  invalidIf (address = "") "address is required for developer app delete"
  match ← getApp address with
  | none => invalid s!"developer app {address} does not exist"
  | some existing =>
    invalidIf (existing.deleted = true) s!"developer app {address} does not exist"
    invalidIf (existing.ownerId ≠ user)
      s!"developer app {address} does not belong to user {user}"
    setAppDeleted address

/-! ### Content claims -/

/-- Run `f` on every cid the metadata names. -/
def forEachTrackCid (tx : AuthTx) (f : String → String → Prog σ AuthError Unit) :
    Prog σ AuthError Unit :=
  forEach trackCidMetadataKeys fun key =>
    let cid := tx.metaString key
    if cid = "" then pure () else f key cid

/-- The owner of a migrated track is recorded as claimant of its cids. -/
def projectMigratedTrackCids (tx : AuthTx) : Prog σ AuthError Unit :=
  if tx.migration = false ∨ tx.entityType ≠ AuthEntityType.track.text ∨ rt.toLower tx.signer = ""
  then pure ()
  else forEachTrackCid tx fun _ cid => insertCid cid tx.userId ""

/-- First assertion wins: a cid nobody holds is recorded to the writer. -/
def projectAssertedTrackCids (tx : AuthTx) (rules : Rules) : Prog σ AuthError Unit :=
  if tx.migration = true ∨ rules.contentAuthEnforced = false ∨ rules.contentAuthStrict = true ∨
      tx.entityType ≠ AuthEntityType.track.text then pure ()
  else forEachTrackCid tx fun _ cid => do
    let known ← cidIsClaimed cid
    if known then pure () else insertCid cid tx.userId ""

/-- The enforcement check of asserted cids; active under `ContentAuthEnforced`. -/
def validateTrackContentAuth (tx : AuthTx) (rules : Rules) : Prog σ AuthError Unit :=
  if tx.migration = true ∨ tx.entityType ≠ AuthEntityType.track.text ∨
      (tx.action ≠ AuthAction.create.text ∧ tx.action ≠ AuthAction.update.text) then pure ()
  else forEachTrackCid tx fun key cid => do
    let claimed ← isCidClaimedByUser cid tx.userId
    if claimed then pure ()
    else do
      let known ← cidIsClaimed cid
      let quoted := rt.quote cid
      let user := tx.userId
      invalidIf (known = true) s!"{key} {quoted} was not uploaded for user {user}"
      invalidIf (rules.contentAuthStrict = true) s!"{key} {quoted} is not attested to any uploader"

/-! ### Dispatch -/

/-- A create of a track or playlist, with its cids. -/
def projectCreate (tx : AuthTx) (rules : Rules) (entityType : AuthEntityType) :
    Prog σ AuthError Unit := do
  projectEntityCreate rt tx entityType
  projectMigratedTrackCids rt tx
  projectAssertedTrackCids tx rules

/-- An update of a track is tracked only while first assertions are recorded. -/
def projectTrackUpdate (tx : AuthTx) (rules : Rules) : Prog σ AuthError Unit :=
  if tx.migration = true ∨ rules.contentAuthEnforced = false ∨ rules.contentAuthStrict = true
  then pure ()
  else do
    validateAuthSigner rt tx.userId tx.signer
    projectAssertedTrackCids tx rules

def applyAuthProjection (tx : AuthTx) (rules : Rules) : Prog σ AuthError Unit :=
  match canonicalAuthEntityType rt tx.entityType, canonicalAuthAction rt tx.action with
  | some .user, some .create => projectUserCreate rt tx
  | some .user, some .update => projectUserUpdate rt tx
  | some .track, some .create => projectCreate rt tx rules .track
  | some .playlist, some .create => projectCreate rt tx rules .playlist
  | some .track, some .update => projectTrackUpdate rt tx rules
  | some .track, some .delete => projectEntityDelete rt tx .track
  | some .playlist, some .delete => projectEntityDelete rt tx .playlist
  | some .grant, some .create => projectGrantCreate rt tx
  | some .grant, some .delete => projectGrantDelete rt tx
  | some .grant, some .approve => projectGrantApproveReject rt tx true
  | some .grant, some .reject => projectGrantApproveReject rt tx false
  | some .developerApp, some .create => projectAppCreate rt tx
  | some .developerApp, some .delete => projectAppDelete rt tx
  | _, _ => pure ()

end Projection

end OpenAudio.Core
