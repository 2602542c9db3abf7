import OpenAudio.Core.Auth.Tables

/-!
# The two stores the projection runs against

`authStore` is one interface with two backing stores: `dbAuthStore` on the block's transaction,
and an `overlayAuthStore` that keeps its writes in memory over committed tables it never changes.
-/

namespace OpenAudio.Core

/-- An error out of the projection: a rule rejection (`authValidationError`) or a store failure. -/
inductive AuthError where
  | validation (msg : String)
  | store (e : PgError)
deriving DecidableEq, Repr

/-- `isAuthValidationError` -/
def AuthError.isValidation : AuthError → Bool
  | .validation _ => true
  | .store _ => false

/-- `authStore`: the reads and writes of the projection. -/
class AuthStore (σ : Type) where
  getUser : Int → Prog σ AuthError (Option AuthUserRow)
  getUserIDByWallet : String → Prog σ AuthError (Option Int)
  walletExists : String → Prog σ AuthError Bool
  activeWalletExists : String → Prog σ AuthError Bool
  handleExists : String → Prog σ AuthError Bool
  getGrant : String → Int → Prog σ AuthError (Option AuthGrantRow)
  getApp : String → Prog σ AuthError (Option AuthAppRow)
  getEntity : String → Int → Prog σ AuthError (Option AuthEntityRow)
  isCidClaimedByUser : String → Int → Prog σ AuthError Bool
  cidIsClaimed : String → Prog σ AuthError Bool
  insertUser : Int → String → String → Bool → Prog σ AuthError Unit
  setUserHandle : Int → String → Prog σ AuthError Unit
  setUserDeactivated : Int → Bool → Prog σ AuthError Unit
  upsertGrant : String → Int → Option Bool → Bool → Prog σ AuthError Unit
  upsertApp : String → Int → Prog σ AuthError Unit
  setAppDeleted : String → Prog σ AuthError Unit
  insertEntity : String → Int → Int → Bool → Prog σ AuthError Unit
  setEntityDeleted : String → Int → Prog σ AuthError Unit
  insertCid : String → Int → String → Prog σ AuthError Unit

/-! ### `dbAuthStore` -/

/-- A read of the auth tables on the block's transaction. -/
def authQuery {α : Type} (q : AuthTables → Except PgError α) : Prog (Txn Db) AuthError α :=
  (Txn.exec fun db => (q db.auth).map fun a => (a, db)).mapError .store

/-- A write of the auth tables on the block's transaction. -/
def authWrite (w : AuthTables → Except PgError AuthTables) : Prog (Txn Db) AuthError Unit :=
  (Txn.exec fun db => (w db.auth).map fun a => ((), { db with auth := a })).mapError .store

instance dbAuthStore : AuthStore (Txn Db) where
  getUser id := authQuery fun t => .ok (t.getUser id)
  getUserIDByWallet w := authQuery (·.getUserIDByWallet w)
  walletExists w := authQuery (·.walletExists w)
  activeWalletExists w := authQuery (·.activeWalletExists w)
  handleExists h := authQuery (·.handleExists h)
  getGrant g id := authQuery (·.getGrant g id)
  getApp a := authQuery (·.getApp a)
  getEntity e id := authQuery (·.getEntity e id)
  isCidClaimedByUser c id := authQuery (·.isCidClaimedByUser c id)
  cidIsClaimed c := authQuery (·.cidIsClaimed c)
  insertUser id w h d := authWrite (·.insertUser id w h d)
  setUserHandle id h := authWrite (·.setUserHandle id h)
  setUserDeactivated id d := authWrite (·.setUserDeactivated id d)
  upsertGrant g id a r := authWrite (·.upsertGrant g id a r)
  upsertApp a id := authWrite (·.upsertApp a id)
  setAppDeleted a := authWrite (·.setAppDeleted a)
  insertEntity e id o d := authWrite (·.insertEntity e id o d)
  setEntityDeleted e id := authWrite (·.setEntityDeleted e id)
  insertCid c id h := authWrite (·.insertCid c id h)

/-! ### `overlayAuthStore` -/

/-- Rows written since the overlay was opened, over the committed tables. -/
structure Overlay where
  base : AuthTables
  users : Table Int AuthUserRow
  grants : Table (String × Int) AuthGrantRow
  apps : Table String AuthAppRow
  entities : Table (String × Int) AuthEntityRow
  cids : Table (String × Int) Unit

/-- `newOverlayAuthStore` -/
def newOverlay (base : AuthTables) : Overlay := ⟨base, ∅, ∅, ∅, ∅, ∅⟩

namespace Overlay

variable (o : Overlay)

def getUser (userId : Int) : Option AuthUserRow := (o.users.lookup userId).or (o.base.getUser userId)

/-- The least overlay user with the wallet, or what the base says when the overlay has none. -/
def getUserIDByWallet (wallet : String) : Except PgError (Option Int) :=
  match o.users.leastKey fun _ u => u.wallet == wallet && !u.deactivated with
  | some id => .ok (some id)
  | none => o.base.getUserIDByWallet wallet

def walletExists (wallet : String) : Except PgError Bool :=
  if o.users.any fun _ u => u.wallet == wallet then .ok true else o.base.walletExists wallet

/-- An overlay row with the wallet hides the base's answer, also when it is deactivated. -/
def activeWalletExists (wallet : String) : Except PgError Bool :=
  if o.users.any fun _ u => u.wallet == wallet && !u.deactivated then .ok true
  else if o.users.any fun _ u => u.wallet == wallet then .ok false
  else o.base.activeWalletExists wallet

def handleExists (handleLC : String) : Except PgError Bool :=
  if o.users.any fun _ u => u.handleLC == handleLC then .ok true else o.base.handleExists handleLC

def getGrant (grantee : String) (userId : Int) : Except PgError (Option AuthGrantRow) :=
  match o.grants.lookup (grantee, userId) with
  | some g => .ok (some g)
  | none => o.base.getGrant grantee userId

def getApp (address : String) : Except PgError (Option AuthAppRow) :=
  match o.apps.lookup address with
  | some a => .ok (some a)
  | none => o.base.getApp address

def getEntity (entityType : String) (entityId : Int) : Except PgError (Option AuthEntityRow) :=
  match o.entities.lookup (entityType, entityId) with
  | some e => .ok (some e)
  | none => o.base.getEntity entityType entityId

def isCidClaimedByUser (cid : String) (userId : Int) : Except PgError Bool :=
  if (o.cids.lookup (cid, userId)).isSome then .ok true else o.base.isCidClaimedByUser cid userId

def cidIsClaimed (cid : String) : Except PgError Bool :=
  if o.cids.any fun k _ => k.1 == cid then .ok true else o.base.cidIsClaimed cid

def insertUser (userId : Int) (wallet handleLC : String) (deactivated : Bool) : Overlay :=
  { o with users := o.users.insertNew userId ⟨wallet, handleLC, deactivated⟩ }

/-- Copy the user's row into the overlay and change it there; an absent user is left absent
(`materializeUser`). -/
def changeUser (userId : Int) (f : AuthUserRow → AuthUserRow) : Overlay :=
  match o.getUser userId with
  | some u => { o with users := o.users.insert userId (f u) }
  | none => o

def setUserHandle (userId : Int) (handleLC : String) : Overlay :=
  o.changeUser userId fun u => { u with handleLC := handleLC }

def setUserDeactivated (userId : Int) (deactivated : Bool) : Overlay :=
  o.changeUser userId fun u => { u with deactivated := deactivated }

def upsertGrant (grantee : String) (userId : Int) (approved : Option Bool) (revoked : Bool) :
    Overlay :=
  { o with grants := o.grants.insert (grantee, userId) ⟨approved, revoked⟩ }

def upsertApp (address : String) (ownerId : Int) : Overlay :=
  { o with apps := o.apps.insert address ⟨ownerId, false⟩ }

def setAppDeleted (address : String) : Except PgError Overlay := do
  match ← o.getApp address with
  | some a => return { o with apps := o.apps.insert address { a with deleted := true } }
  | none => return o

def insertEntity (entityType : String) (entityId ownerId : Int) (deleted : Bool) : Overlay :=
  { o with entities := o.entities.insertNew (entityType, entityId) ⟨ownerId, deleted⟩ }

def setEntityDeleted (entityType : String) (entityId : Int) : Except PgError Overlay := do
  match ← o.getEntity entityType entityId with
  | some e =>
    return { o with entities := o.entities.insert (entityType, entityId) { e with deleted := true } }
  | none => return o

def insertCid (cid : String) (userId : Int) : Overlay :=
  { o with cids := o.cids.insert (cid, userId) () }

end Overlay

def overlayRead {α : Type} (q : Overlay → Except PgError α) : Prog Overlay AuthError α :=
  Prog.reads fun o => (q o).mapError .store

/-- A write of the overlay, whose reads of the base may fail. -/
def overlayWrite (w : Overlay → Except PgError Overlay) : Prog Overlay AuthError Unit := fun o =>
  match w o with
  | .ok o' => (.ok (), o')
  | .error e => (.error (.store e), o)

instance overlayAuthStore : AuthStore Overlay where
  getUser id := overlayRead fun o => .ok (o.getUser id)
  getUserIDByWallet w := overlayRead (·.getUserIDByWallet w)
  walletExists w := overlayRead (·.walletExists w)
  activeWalletExists w := overlayRead (·.activeWalletExists w)
  handleExists h := overlayRead (·.handleExists h)
  getGrant g id := overlayRead (·.getGrant g id)
  getApp a := overlayRead (·.getApp a)
  getEntity e id := overlayRead (·.getEntity e id)
  isCidClaimedByUser c id := overlayRead (·.isCidClaimedByUser c id)
  cidIsClaimed c := overlayRead (·.cidIsClaimed c)
  insertUser id w h d := overlayWrite fun o => .ok (o.insertUser id w h d)
  setUserHandle id h := overlayWrite fun o => .ok (o.setUserHandle id h)
  setUserDeactivated id d := overlayWrite fun o => .ok (o.setUserDeactivated id d)
  upsertGrant g id a r := overlayWrite fun o => .ok (o.upsertGrant g id a r)
  upsertApp a id := overlayWrite fun o => .ok (o.upsertApp a id)
  setAppDeleted a := overlayWrite (·.setAppDeleted a)
  insertEntity e id o d := overlayWrite fun s => .ok (s.insertEntity e id o d)
  setEntityDeleted e id := overlayWrite (·.setEntityDeleted e id)
  insertCid c id _ := overlayWrite fun o => .ok (o.insertCid c id)

end OpenAudio.Core
