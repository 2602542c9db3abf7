import OpenAudio.Core.Auth.Projection

/-!
# The ETL's entity manager

The indexer keeps its own tables of users, grants and developer apps, and a handler checks a
ManageEntity transaction against them before it writes. The checks here are the ones that several
handlers make: about the signer and about which users, grants and apps exist.
-/

namespace OpenAudio.Etl

open OpenAudio.Core

/-- A value of an `integer` column. -/
structure Int4 where
  val : Int
  bounds : -2 ^ 31 ≤ val ∧ val < 2 ^ 31
deriving DecidableEq

/-- An error out of a handler. -/
inductive EtlError where
  /-- `ValidationError` -/
  | validation (msg : String)
  /-- the server refuses a text parameter -/
  | query (e : PgError)
  /-- the driver cannot encode the number as an `integer` -/
  | encode (n : Int)
  /-- `pgx.ErrNoRows` -/
  | noRows
deriving DecidableEq, Repr

/-- Bind a number to an `integer` parameter. -/
def Int4.ofInt (n : Int) : Except EtlError Int4 :=
  if h : -2 ^ 31 ≤ n ∧ n < 2 ^ 31 then .ok ⟨n, h⟩ else .error (.encode n)

def bindText (s : String) : Except EtlError PgText := (PgText.ofString s).mapError .query

/-- `users` -/
structure UserRow where
  userId : Int4
  wallet : PgText
  handleLc : Option PgText
  isDeactivated : Bool
  isCurrent : Bool
deriving DecidableEq

/-- `grants` -/
structure GrantRow where
  granteeAddress : PgText
  userId : Int4
  isRevoked : Bool
  isApproved : Option Bool
  isCurrent : Bool
deriving DecidableEq

/-- `developer_apps` -/
structure AppRow where
  address : PgText
  userId : Int4
  isDelete : Bool
deriving DecidableEq

/-- The indexer's tables, in the order a scan meets their rows. -/
structure EtlDb where
  users : List UserRow
  grants : List GrantRow
  developerApps : List AppRow

/-- `Params`: a transaction as the handlers read it. -/
structure Params where
  userId : Int
  entityId : Int
  entityType : String
  action : String
  signer : String
  /-- a nil map is empty -/
  metadata : List (String × Json.Value)

/-- `NewParams`, whose reading of the metadata is the projection's. -/
def newParams (tx : ManageEntityLegacy) : Params where
  userId := tx.userId
  entityId := tx.entityId
  entityType := tx.entityType
  action := tx.action
  signer := tx.signer
  metadata := parseAuthMetadata tx.metadata

/-- `params.Metadata == nil`: there is no metadata, or it is not an object. -/
def metadataIsNil (tx : ManageEntityLegacy) : Bool :=
  match Json.unmarshalMap tx.metadata, Json.parse tx.metadata with
  | none, _ => true
  | some _, some .null => true
  | some _, _ => false

namespace Params

variable (p : Params)

def metadataString (key : String) : String :=
  match Json.lastMember p.metadata key with
  | some (.str s) => s
  | _ => ""

def metadataInt64 (rt : GoRuntime) (key : String) : Option Int :=
  match Json.lastMember p.metadata key with
  | some (.num d) => some (rt.int64OfFloat d.truncated)
  | _ => none

end Params

/-! ### Queries -/

namespace EtlDb

variable (rt : GoRuntime) (db : EtlDb)

def getUserWallet (userId : Int) : String :=
  match Int4.ofInt userId with
  | .error _ => ""
  | .ok id =>
    match db.users.find? fun r => r.userId == id && r.isCurrent with
    | some r => r.wallet.val
    | none => ""

def userExists (userId : Int) : Except EtlError Bool := do
  let id ← Int4.ofInt userId
  return db.users.any fun r => r.userId == id && r.isCurrent

def activeUserWalletExists (wallet : String) : Except EtlError Bool := do
  let w ← bindText (rt.toLower wallet)
  return db.users.any fun r => r.wallet == w && r.isCurrent && !r.isDeactivated

def getActiveGrant (granteeAddress : String) (userId : Int) :
    Except EtlError (Option GrantRow) := do
  let g ← bindText granteeAddress
  let id ← Int4.ofInt userId
  return db.grants.find? fun r => r.granteeAddress == g && r.userId == id && r.isCurrent

def developerAppExists (address : String) : Except EtlError Bool := do
  let a ← bindText (rt.toLower address)
  return db.developerApps.any fun r => r.address == a && !r.isDelete

end EtlDb

/-! ### What the handlers check -/

section Checks

variable (rt : GoRuntime) (db : EtlDb) (p : Params)

def invalidIf (c : Prop) [Decidable c] (msg : String) : Except EtlError Unit :=
  refuseIf c (.validation msg)

/-- The signer holds a grant of the user and is still a live app or an active user. -/
def validateGrant (userId : Int) : Except EtlError Unit := do
  let signer := rt.toLower p.signer
  let name := p.signer
  match ← db.getActiveGrant signer userId with
  | none => .error (.validation s!"signer {name} is not authorized for user {userId}")
  | some grant =>
    invalidIf (grant.isRevoked = true) s!"signer {name} grant for user {userId} is revoked"
    let isApp ← db.developerAppExists rt signer
    let isUser ← db.activeUserWalletExists rt signer
    invalidIf (isApp = false ∧ isUser = false)
      s!"signer {name} is no longer a valid developer app or active user"
    invalidIf (isApp = false ∧ grant.isApproved ≠ some true)
      s!"signer {name} grant for user {userId} is not approved"

def validateSignerForUser (userId : Int) : Except EtlError Unit := do
  let wallet := db.getUserWallet userId
  invalidIf (wallet = "") s!"user {userId} does not exist"
  if rt.equalFold wallet p.signer then return ()
  else validateGrant rt db p userId

def validateSigner : Except EtlError Unit := validateSignerForUser rt db p p.userId

end Checks

/-! ### The savepoint of a transaction -/

/-- What a handler wrote is kept when it returns or rejects the transaction, and rolled back on
every other error. -/
def keepsSavepoint : Except EtlError Unit → Bool
  | .ok _ => true
  | .error (.validation _) => true
  | .error _ => false

/-- The store after a handler that ran from `s`. -/
def settle {σ : Type} (s : σ) (out : Except EtlError Unit × σ) : σ :=
  if keepsSavepoint out.1 then out.2 else s

/-! ### Tables that agree -/

theorem Int4.ext {a b : Int4} (h : a.val = b.val) : a = b := by
  obtain ⟨a, ha⟩ := a
  obtain ⟨b, hb⟩ := b
  cases h
  rfl

theorem Int4.ofInt_val (i : Int4) : Int4.ofInt i.val = .ok i := dif_pos i.bounds

theorem Int4.ofInt_eq_ok {n : Int} {i : Int4} (h : Int4.ofInt n = .ok i) : i.val = n := by
  unfold Int4.ofInt at h
  split at h
  · cases h
    rfl
  · cases h

theorem invalidIf_bind_eq_ok {β : Type} {c : Prop} [Decidable c] {msg : String}
    {f : Unit → Except EtlError β} {b : β} :
    (invalidIf c msg >>= f) = .ok b ↔ ¬ c ∧ f () = .ok b := refuseIf_bind_eq_ok

theorem invalidIf_eq_ok {c : Prop} [Decidable c] {msg : String} :
    invalidIf c msg = .ok () ↔ ¬ c := refuseIf_eq_ok

end OpenAudio.Etl
