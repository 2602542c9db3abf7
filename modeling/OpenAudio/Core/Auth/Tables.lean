import OpenAudio.Core.Db.Schema

/-!
# Reads and writes of the core_auth_* tables

The sqlc queries behind `dbAuthStore`, on the five tables alone. A read returns the row as the
projection sees it; a write returns the tables after it.
-/

namespace OpenAudio.Core

/-- A user row as the projection reads it. An absent handle reads as the empty text. -/
structure AuthUserRow where
  wallet : String
  handleLC : String
  deactivated : Bool
deriving DecidableEq, Repr

/-- A grant row; `approved = none` is a pending user-to-user grant. -/
structure AuthGrantRow where
  approved : Option Bool
  revoked : Bool
deriving DecidableEq, Repr

structure AuthAppRow where
  ownerId : Int
  deleted : Bool
deriving DecidableEq, Repr

structure AuthEntityRow where
  ownerId : Int
  deleted : Bool
deriving DecidableEq, Repr

def AuthUserRecord.row (r : AuthUserRecord) : AuthUserRow :=
  ⟨r.wallet.val, match r.handleLc with | some h => h.val | none => "", r.isDeactivated⟩

def AuthGrantRecord.row (r : AuthGrantRecord) : AuthGrantRow := ⟨r.isApproved, r.isRevoked⟩

def AuthAppRecord.row (r : AuthAppRecord) : AuthAppRow := ⟨r.userId, r.isDeleted⟩

def AuthEntityRecord.row (r : AuthEntityRecord) : AuthEntityRow := ⟨r.ownerUserId, r.isDeleted⟩

namespace AuthTables

variable (t : AuthTables)

/-! ### Reads -/

/-- `GetAuthUser` -/
def getUser (userId : Int) : Option AuthUserRow := (t.users.lookup userId).map (·.row)

/-- `GetAuthUserIDByWallet` -/
def getUserIDByWallet (wallet : String) : Except PgError (Option Int) := do
  let w ← PgText.ofString wallet
  return t.users.leastKey fun _ u => u.wallet == w && !u.isDeactivated

/-- `AuthWalletExists` -/
def walletExists (wallet : String) : Except PgError Bool := do
  let w ← PgText.ofString wallet
  return t.users.any fun _ u => u.wallet == w

/-- `AuthActiveWalletExists` -/
def activeWalletExists (wallet : String) : Except PgError Bool := do
  let w ← PgText.ofString wallet
  return t.users.any fun _ u => u.wallet == w && !u.isDeactivated

/-- `AuthHandleExists`: a NULL handle equals nothing. -/
def handleExists (handleLC : String) : Except PgError Bool := do
  let h ← PgText.ofString handleLC
  return t.users.any fun _ u => u.handleLc == some h

/-- `GetAuthGrant` -/
def getGrant (grantee : String) (userId : Int) : Except PgError (Option AuthGrantRow) := do
  let g ← PgText.ofString grantee
  return (t.grants.lookup (g, userId)).map (·.row)

/-- `GetAuthDeveloperApp` -/
def getApp (address : String) : Except PgError (Option AuthAppRow) := do
  let a ← PgText.ofString address
  return (t.apps.lookup a).map (·.row)

/-- `GetAuthEntity` -/
def getEntity (entityType : String) (entityId : Int) : Except PgError (Option AuthEntityRow) := do
  let e ← PgText.ofString entityType
  return (t.entities.lookup (e, entityId)).map (·.row)

def isCidClaimedByUser (cid : String) (userId : Int) : Except PgError Bool := do
  let c ← PgText.ofString cid
  return (t.cids.lookup (c, userId)).isSome

def cidIsClaimed (cid : String) : Except PgError Bool := do
  let c ← PgText.ofString cid
  return t.cids.any fun k _ => k.1 == c

/-! ### Writes -/

/-- `InsertAuthUser`; `dbAuthStore` passes an empty handle as NULL. -/
def insertUser (userId : Int) (wallet handleLC : String) (deactivated : Bool) :
    Except PgError AuthTables := do
  let w ← PgText.ofString wallet
  let h ← PgText.ofString handleLC
  return { t with
    users := t.users.insertNew userId ⟨w, if handleLC = "" then none else some h, deactivated⟩ }

/-- `SetAuthUserHandle` -/
def setUserHandle (userId : Int) (handleLC : String) : Except PgError AuthTables := do
  let h ← PgText.ofString handleLC
  return { t with users := t.users.update userId fun u => { u with handleLc := some h } }

/-- `SetAuthUserDeactivated` -/
def setUserDeactivated (userId : Int) (deactivated : Bool) : Except PgError AuthTables :=
  return { t with users := t.users.update userId fun u => { u with isDeactivated := deactivated } }

/-- `UpsertAuthGrant` -/
def upsertGrant (grantee : String) (userId : Int) (approved : Option Bool) (revoked : Bool) :
    Except PgError AuthTables := do
  let g ← PgText.ofString grantee
  return { t with grants := t.grants.insert (g, userId) ⟨approved, revoked⟩ }

/-- `UpsertAuthDeveloperApp` -/
def upsertApp (address : String) (ownerId : Int) : Except PgError AuthTables := do
  let a ← PgText.ofString address
  return { t with apps := t.apps.insert a ⟨ownerId, false⟩ }

/-- `SetAuthDeveloperAppDeleted` -/
def setAppDeleted (address : String) : Except PgError AuthTables := do
  let a ← PgText.ofString address
  return { t with apps := t.apps.update a fun r => { r with isDeleted := true } }

/-- `InsertAuthEntity` -/
def insertEntity (entityType : String) (entityId ownerId : Int) (deleted : Bool) :
    Except PgError AuthTables := do
  let e ← PgText.ofString entityType
  return { t with entities := t.entities.insertNew (e, entityId) ⟨ownerId, deleted⟩ }

/-- `SetAuthEntityDeleted` -/
def setEntityDeleted (entityType : String) (entityId : Int) : Except PgError AuthTables := do
  let e ← PgText.ofString entityType
  return { t with
    entities := t.entities.update (e, entityId) fun r => { r with isDeleted := true } }

/-- `InsertAuthCid` -/
def insertCid (cid : String) (userId : Int) (txHash : String) : Except PgError AuthTables := do
  let c ← PgText.ofString cid
  let h ← PgText.ofString txHash
  return { t with cids := t.cids.insertNew (c, userId) h }

end AuthTables

end OpenAudio.Core
