import OpenAudio.Core.Auth.Projection
import OpenAudio.Core.Db.Parts

/-!
# Invariants of the projection

The projection reaches its store only through the methods of `AuthStore`. A relation that every
method keeps is kept by the projection of every transaction.
-/

namespace OpenAudio.Core

open Prog AuthStore

/-- Every read of the store moves it along `R`. -/
structure ReadsKeep {σ : Type} [AuthStore σ] (R : σ → σ → Prop) : Prop where
  getUser : ∀ id, Keeps R (getUser id : Prog σ AuthError _)
  getUserIDByWallet : ∀ w, Keeps R (getUserIDByWallet w : Prog σ AuthError _)
  walletExists : ∀ w, Keeps R (walletExists w : Prog σ AuthError _)
  activeWalletExists : ∀ w, Keeps R (activeWalletExists w : Prog σ AuthError _)
  handleExists : ∀ l, Keeps R (handleExists l : Prog σ AuthError _)
  getGrant : ∀ g id, Keeps R (getGrant g id : Prog σ AuthError _)
  getApp : ∀ a, Keeps R (getApp a : Prog σ AuthError _)
  getEntity : ∀ e id, Keeps R (getEntity e id : Prog σ AuthError _)
  isCidClaimedByUser : ∀ c id, Keeps R (isCidClaimedByUser c id : Prog σ AuthError _)
  cidIsClaimed : ∀ c, Keeps R (cidIsClaimed c : Prog σ AuthError _)

/-- Every method of the store but the one that records a cid moves it along `R`. -/
structure StoreKeeps {σ : Type} [AuthStore σ] (R : σ → σ → Prop) : Prop extends ReadsKeep R where
  insertUser : ∀ id w l d, Keeps R (insertUser id w l d : Prog σ AuthError _)
  setUserHandle : ∀ id l, Keeps R (setUserHandle id l : Prog σ AuthError _)
  setUserDeactivated : ∀ id d, Keeps R (setUserDeactivated id d : Prog σ AuthError _)
  upsertGrant : ∀ g id a r, Keeps R (upsertGrant g id a r : Prog σ AuthError _)
  upsertApp : ∀ a id, Keeps R (upsertApp a id : Prog σ AuthError _)
  setAppDeleted : ∀ a, Keeps R (setAppDeleted a : Prog σ AuthError _)
  insertEntity : ∀ e id o d, Keeps R (insertEntity e id o d : Prog σ AuthError _)
  setEntityDeleted : ∀ e id, Keeps R (setEntityDeleted e id : Prog σ AuthError _)

/-- Recording a cid moves the store along `R`. -/
def CidsKeep {σ : Type} [AuthStore σ] (R : σ → σ → Prop) : Prop :=
  ∀ c id l, Keeps R (insertCid c id l : Prog σ AuthError _)

/-- The transactions whose projection records cids: migrations, and every transaction while first
assertions are recorded. -/
def recordsCids (tx : AuthTx) (rules : Rules) : Prop :=
  tx.migration = true ∨ (rules.contentAuthEnforced = true ∧ rules.contentAuthStrict = false)

theorem keeps_invalidIf {σ : Type} {R : σ → σ → Prop} [IsPreorder σ R] (c : Prop) [Decidable c]
    (msg : String) : Keeps R (invalidIf c msg : Prog σ AuthError Unit) := keeps_rejectIf c _

namespace ReadsKeep

variable {σ : Type} [AuthStore σ] {R : σ → σ → Prop} [IsPreorder σ R] (h : ReadsKeep R)
  (rt : GoRuntime) (tx : AuthTx) (rules : Rules)

include h

theorem validateGrantedSigner (id : Int) (signer : String) :
    Keeps R (validateGrantedSigner rt id signer : Prog σ AuthError Unit) := by
  unfold Core.validateGrantedSigner
  refine (keeps_invalidIf _ _).bind fun _ => ?_
  refine (h.getGrant _ _).bind fun g => ?_
  refine (keeps_invalidIf _ _).bind fun _ => ?_
  refine (h.getApp _).bind fun app => ?_
  refine (h.activeWalletExists _).bind fun isUser => ?_
  refine (keeps_invalidIf _ _).bind fun _ => ?_
  exact keeps_invalidIf _ _

theorem validateAuthSigner (id : Int) (signer : String) :
    Keeps R (validateAuthSigner rt id signer : Prog σ AuthError Unit) := by
  unfold Core.validateAuthSigner
  refine (h.getUser id).bind fun found => ?_
  cases found with
  | none => exact keeps_fail _
  | some u =>
    refine (keeps_invalidIf _ _).bind fun _ => ?_
    exact .ite (keeps_pure ()) (h.validateGrantedSigner rt id signer)

theorem validateNewUser (wallet handleLC : String) :
    Keeps R (validateNewUser rt wallet handleLC : Prog σ AuthError Unit) := by
  unfold Core.validateNewUser
  refine (h.walletExists _).bind fun used => ?_
  refine (keeps_invalidIf _ _).bind fun _ => ?_
  refine (h.getApp _).bind fun app => ?_
  refine (keeps_invalidIf _ _).bind fun _ => ?_
  refine .ite (keeps_pure ()) ?_
  refine (h.handleExists _).bind fun taken => ?_
  exact keeps_invalidIf _ _

theorem signerAuthorized (id : Int) (signer : String) :
    Keeps R (signerAuthorized rt id signer : Prog σ AuthError Bool) := by
  unfold Core.signerAuthorized
  refine (h.validateAuthSigner rt id signer).attempt.bind fun r => ?_
  match r with
  | .ok () => exact keeps_pure true
  | .error (.validation _) => exact keeps_pure false
  | .error (.store e) => exact keeps_fail _

theorem mayRevoke (grantee : String) :
    Keeps R (mayRevoke rt tx grantee : Prog σ AuthError Bool) := by
  unfold Core.mayRevoke
  refine (h.signerAuthorized rt _ _).bind fun own => ?_
  refine .ite (keeps_pure true) ?_
  refine (h.getUserIDByWallet _).bind fun found => ?_
  cases found with
  | none => exact keeps_pure false
  | some id => exact h.signerAuthorized rt _ _

end ReadsKeep

namespace StoreKeeps

variable {σ : Type} [AuthStore σ] {R : σ → σ → Prop} [IsPreorder σ R] (h : StoreKeeps R)
  (rt : GoRuntime) (tx : AuthTx) (rules : Rules)

include h

theorem projectUserCreate : Keeps R (projectUserCreate rt tx : Prog σ AuthError Unit) := by
  unfold Core.projectUserCreate
  refine (h.getUser _).bind fun existing => ?_
  refine (keeps_invalidIf _ _).bind fun _ => ?_
  refine (keeps_invalidIf _ _).bind fun _ => ?_
  have hinsert := h.insertUser tx.userId (rt.toLower tx.signer)
    (rt.toLower (tx.metaString "handle")) (tx.metaBoolOr "is_deactivated" false)
  apply Keeps.ite
  · exact (keeps_pure ()).bind fun _ => hinsert
  · exact (h.validateNewUser rt _ _).bind fun _ => hinsert

theorem projectUserUpdate : Keeps R (projectUserUpdate rt tx : Prog σ AuthError Unit) := by
  unfold Core.projectUserUpdate
  refine (h.validateAuthSigner rt _ _).bind fun _ => ?_
  cases tx.metaBool "is_deactivated" with
  | none =>
    apply Keeps.ite
    · exact (keeps_pure ()).bind fun _ => keeps_pure ()
    · exact (h.setUserHandle _ _).bind fun _ => keeps_pure ()
  | some d =>
    apply Keeps.ite
    · exact (keeps_pure ()).bind fun _ => h.setUserDeactivated _ _
    · exact (h.setUserHandle _ _).bind fun _ => h.setUserDeactivated _ _

theorem projectEntityCreate (e : AuthEntityType) :
    Keeps R (projectEntityCreate rt tx e : Prog σ AuthError Unit) := by
  unfold Core.projectEntityCreate
  refine (keeps_invalidIf _ _).bind fun _ => ?_
  refine (keeps_invalidIf _ _).bind fun _ => ?_
  refine (h.validateAuthSigner rt _ _).bind fun _ => ?_
  refine (h.getEntity _ _).bind fun existing => ?_
  refine (keeps_invalidIf _ _).bind fun _ => ?_
  exact h.insertEntity _ _ _ _

theorem projectEntityDelete (e : AuthEntityType) :
    Keeps R (projectEntityDelete rt tx e : Prog σ AuthError Unit) := by
  unfold Core.projectEntityDelete
  refine (h.validateAuthSigner rt _ _).bind fun _ => ?_
  refine (h.getEntity _ _).bind fun existing => ?_
  cases existing with
  | none => exact keeps_fail _
  | some row =>
    refine (keeps_invalidIf _ _).bind fun _ => ?_
    exact h.setEntityDeleted _ _

theorem projectGrantCreate : Keeps R (projectGrantCreate rt tx : Prog σ AuthError Unit) := by
  unfold Core.projectGrantCreate
  refine (keeps_invalidIf _ _).bind fun _ => ?_
  refine (h.validateAuthSigner rt _ _).bind fun _ => ?_
  refine (h.getApp _).bind fun app => ?_
  refine .ite (h.upsertGrant _ _ _ _) ?_
  refine (h.walletExists _).bind fun isUser => ?_
  refine (keeps_invalidIf _ _).bind fun _ => ?_
  refine (h.getGrant _ _).bind fun existing => ?_
  refine (keeps_invalidIf _ _).bind fun _ => ?_
  exact h.upsertGrant _ _ _ _

theorem projectGrantDelete : Keeps R (projectGrantDelete rt tx : Prog σ AuthError Unit) := by
  unfold Core.projectGrantDelete
  refine (keeps_invalidIf _ _).bind fun _ => ?_
  refine (h.getGrant _ _).bind fun existing => ?_
  refine (keeps_invalidIf _ _).bind fun _ => ?_
  refine (h.mayRevoke rt tx _).bind fun authorized => ?_
  refine (keeps_invalidIf _ _).bind fun _ => ?_
  exact h.upsertGrant _ _ _ _

theorem projectGrantApproveReject (approve : Bool) :
    Keeps R (projectGrantApproveReject rt tx approve : Prog σ AuthError Unit) := by
  unfold Core.projectGrantApproveReject
  refine (keeps_invalidIf _ _).bind fun _ => ?_
  refine (h.validateAuthSigner rt _ _).bind fun _ => ?_
  cases tx.metaInt64 rt "grantor_user_id" with
  | none => exact keeps_fail _
  | some grantor =>
    refine (h.getGrant _ _).bind fun existing => ?_
    cases existing with
    | none => exact keeps_fail _
    | some g =>
      refine (keeps_invalidIf _ _).bind fun _ => ?_
      refine (keeps_invalidIf _ _).bind fun _ => ?_
      exact h.upsertGrant _ _ _ _

theorem projectAppCreate : Keeps R (projectAppCreate rt tx : Prog σ AuthError Unit) := by
  unfold Core.projectAppCreate
  refine (h.validateAuthSigner rt _ _).bind fun _ => ?_
  refine (keeps_invalidIf _ _).bind fun _ => ?_
  refine (h.getApp _).bind fun existing => ?_
  refine (keeps_invalidIf _ _).bind fun _ => ?_
  refine (h.walletExists _).bind fun used => ?_
  refine (keeps_invalidIf _ _).bind fun _ => ?_
  refine (h.upsertApp _ _).bind fun _ => ?_
  exact .ite (h.setAppDeleted _) (keeps_pure ())

theorem projectAppDelete : Keeps R (projectAppDelete rt tx : Prog σ AuthError Unit) := by
  unfold Core.projectAppDelete
  refine (h.validateAuthSigner rt _ _).bind fun _ => ?_
  refine (keeps_invalidIf _ _).bind fun _ => ?_
  refine (h.getApp _).bind fun existing => ?_
  cases existing with
  | none => exact keeps_fail _
  | some app =>
    refine (keeps_invalidIf _ _).bind fun _ => ?_
    refine (keeps_invalidIf _ _).bind fun _ => ?_
    exact h.setAppDeleted _

omit h in
theorem projectMigratedTrackCids (hcid : recordsCids tx rules → CidsKeep R) :
    Keeps R (projectMigratedTrackCids rt tx : Prog σ AuthError Unit) := by
  unfold Core.projectMigratedTrackCids
  split
  · exact keeps_pure ()
  · rename_i hcond
    simp only [not_or, Bool.not_eq_false] at hcond
    apply Keeps.forEach
    intro key
    exact .ite (keeps_pure ()) (hcid (.inl hcond.1) _ _ _)

theorem projectAssertedTrackCids (hcid : recordsCids tx rules → CidsKeep R) :
    Keeps R (projectAssertedTrackCids tx rules : Prog σ AuthError Unit) := by
  unfold Core.projectAssertedTrackCids
  split
  · exact keeps_pure ()
  · rename_i hcond
    simp only [not_or, Bool.not_eq_false, Bool.not_eq_true] at hcond
    apply Keeps.forEach
    intro key
    refine .ite (keeps_pure ()) ?_
    refine (h.cidIsClaimed _).bind fun known => ?_
    exact .ite (keeps_pure ()) (hcid (.inr ⟨hcond.2.1, hcond.2.2.1⟩) _ _ _)

theorem projectCreate (hcid : recordsCids tx rules → CidsKeep R) (e : AuthEntityType) :
    Keeps R (projectCreate rt tx rules e : Prog σ AuthError Unit) := by
  unfold Core.projectCreate
  refine (h.projectEntityCreate rt tx e).bind fun _ => ?_
  refine (projectMigratedTrackCids rt tx rules hcid).bind fun _ => ?_
  exact h.projectAssertedTrackCids tx rules hcid

theorem projectTrackUpdate (hcid : recordsCids tx rules → CidsKeep R) :
    Keeps R (projectTrackUpdate rt tx rules : Prog σ AuthError Unit) := by
  unfold Core.projectTrackUpdate
  refine .ite (keeps_pure ()) ?_
  refine (h.validateAuthSigner rt _ _).bind fun _ => ?_
  exact h.projectAssertedTrackCids tx rules hcid

theorem applyAuthProjection (hcid : recordsCids tx rules → CidsKeep R) :
    Keeps R (applyAuthProjection rt tx rules : Prog σ AuthError Unit) := by
  unfold Core.applyAuthProjection
  split
  · exact h.projectUserCreate rt tx
  · exact h.projectUserUpdate rt tx
  · exact h.projectCreate rt tx rules hcid .track
  · exact h.projectCreate rt tx rules hcid .playlist
  · exact h.projectTrackUpdate rt tx rules hcid
  · exact h.projectEntityDelete rt tx .track
  · exact h.projectEntityDelete rt tx .playlist
  · exact h.projectGrantCreate rt tx
  · exact h.projectGrantDelete rt tx
  · exact h.projectGrantApproveReject rt tx true
  · exact h.projectGrantApproveReject rt tx false
  · exact h.projectAppCreate rt tx
  · exact h.projectAppDelete rt tx
  · exact keeps_pure ()

end StoreKeeps

/-! ### The block's transaction -/

theorem writesOnly_authWrite (w : AuthTables → Except PgError AuthTables) :
    WritesOnly .auth fun db : Db => (w db.auth).map fun a => ((), { db with auth := a }) := by
  intro db
  change ReplacesPart .auth db ((w db.auth).map _)
  cases w db.auth with
  | error e => exact replacesPart_error e
  | ok a => exact replacesPart_ok (p := .auth) () a

theorem writesOnly_authQuery {α : Type} (q : AuthTables → Except PgError α) :
    WritesOnly .auth fun db : Db => (q db.auth).map fun a => (a, db) := by
  intro db
  change ReplacesPart .auth db ((q db.auth).map _)
  cases q db.auth with
  | error e => exact replacesPart_error e
  | ok a => exact replacesPart_ok (p := .auth) a db.auth

theorem storeKeeps_txn {R : Txn Db → Txn Db → Prop}
    (hq : ∀ {α : Type} (q : AuthTables → Except PgError α), Keeps R (authQuery q))
    (hw : ∀ w, Keeps R (authWrite w)) : StoreKeeps R where
  getUser _ := hq _
  getUserIDByWallet _ := hq _
  walletExists _ := hq _
  activeWalletExists _ := hq _
  handleExists _ := hq _
  getGrant _ _ := hq _
  getApp _ := hq _
  getEntity _ _ := hq _
  isCidClaimedByUser _ _ := hq _
  cidIsClaimed _ := hq _
  insertUser _ _ _ _ := hw _
  setUserHandle _ _ := hw _
  setUserDeactivated _ _ := hw _
  upsertGrant _ _ _ _ := hw _
  upsertApp _ _ := hw _
  setAppDeleted _ := hw _
  insertEntity _ _ _ _ := hw _
  setEntityDeleted _ _ := hw _

theorem footprint_authWrite (w : AuthTables → Except PgError AuthTables) :
    Footprint [.auth] (authWrite w) :=
  fun _ _ _ hw => hw .auth List.mem_cons_self _ (writesOnly_authWrite w)

theorem footprint_applyAuthProjection (rt : GoRuntime) (tx : AuthTx) (rules : Rules) :
    Footprint [.auth] (applyAuthProjection rt tx rules : Prog (Txn Db) AuthError Unit) := by
  intro R _ hq hw
  have hread : ∀ {α : Type} (q : AuthTables → Except PgError α), Keeps R (authQuery q) :=
    fun q => hw .auth List.mem_cons_self _ (writesOnly_authQuery q)
  have hstore : StoreKeeps R := storeKeeps_txn hread fun w => footprint_authWrite w R hq hw
  exact hstore.applyAuthProjection rt tx rules fun _ _ _ _ => footprint_authWrite _ R hq hw

end OpenAudio.Core
