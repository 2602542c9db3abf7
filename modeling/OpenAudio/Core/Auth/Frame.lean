import Mathlib.Logic.Relation
import OpenAudio.Core.Auth.Rows

/-!
# Who writes which auth rows

A live transaction that changes the rows of a store creates its user, or acts for a user its signer
is authorized for and changes that user's rows only. The one row keyed by metadata is the grant that
an approval or a rejection decides, and nothing ties the signer to its grantee. On the overlay a
grantee that was deactivated there is still found by its wallet in the base.
-/

namespace OpenAudio.Core

open Prog AuthStore

def AuthTx.Decides (rt : GoRuntime) (tx : AuthTx) : Prop :=
  tx.Is rt .grant .approve ∨ tx.Is rt .grant .reject

instance (rt : GoRuntime) (tx : AuthTx) : Decidable (tx.Decides rt) :=
  inferInstanceAs (Decidable (_ ∨ _))

theorem AuthTx.Is.unique {rt : GoRuntime} {tx : AuthTx} {e e' : AuthEntityType} {a a' : AuthAction}
    (h : tx.Is rt e a) (h' : tx.Is rt e' a') : e = e' ∧ a = a' :=
  ⟨Option.some.inj (h.1.symm.trans h'.1), Option.some.inj (h.2.symm.trans h'.2)⟩

theorem not_decides {rt : GoRuntime} {tx : AuthTx} {e : AuthEntityType} {a : AuthAction}
    (h : tx.Is rt e a) (hne : a ≠ .approve ∧ a ≠ .reject) : ¬ tx.Decides rt := by
  rintro (hd | hd)
  · exact hne.1 (h.unique hd).2
  · exact hne.2 (h.unique hd).2

theorem decides_of_is {rt : GoRuntime} {tx : AuthTx} {approve : Bool}
    (h : tx.Is rt .grant (if approve then .approve else .reject)) : tx.Decides rt := by
  cases approve with
  | true => exact .inl h
  | false => exact .inr h

namespace ClaimsOnly

variable {rules : Rules} {tx : AuthTx} {S S' : AuthTables} (h : ClaimsOnly rules tx S S')

include h

theorem users_eq : S'.users = S.users := by rw [h.others]

theorem grants_eq : S'.grants = S.grants := by rw [h.others]

theorem apps_eq : S'.apps = S.apps := by rw [h.others]

end ClaimsOnly

/-! ### The frame -/

/-- The transaction creates a user the rows lack, and the row of that user is all that changes. -/
structure CreatesUser (rt : GoRuntime) (tx : AuthTx) (S S' : AuthRows) : Prop where
  create : tx.Is rt .user .create
  absent : S.users tx.userId = none
  row : ∃ u : AuthUserRow, u.wallet = rt.toLower tx.signer ∧ S' = S.setUser tx.userId u

/-- The grants a transaction may change: those its user has issued, or the one it decides. -/
def OwnGrant (rt : GoRuntime) (tx : AuthTx) (k : String × Int) : Prop :=
  (¬ tx.Decides rt ∧ k.2 = tx.userId) ∨
  (tx.Decides rt ∧ k.1 = rt.toLower (tx.metaString "grantee_address") ∧
    tx.metaInt64 rt "grantor_user_id" = some k.2)

/-- Every row that changes belongs to the user of the transaction, or is the grant it decides. -/
structure OwnRowsOnly (rt : GoRuntime) (tx : AuthTx) (S S' : AuthRows) : Prop where
  users : ∀ id, S'.users id ≠ S.users id → id = tx.userId ∧
    ∃ u u', S.users id = some u ∧ S'.users id = some u' ∧ u'.wallet = u.wallet
  grants : ∀ k, S'.grants k ≠ S.grants k → OwnGrant rt tx k
  entities : ∀ k, S'.entities k ≠ S.entities k → k.2 = tx.entityId ∧
    (∃ ty, canonicalAuthEntityType rt tx.entityType = some ty ∧ k.1 = ty.text) ∧
    (∃ r', S'.entities k = some r' ∧ r'.ownerId = tx.userId) ∧
    ∀ r, S.entities k = some r → r.ownerId = tx.userId
  apps : ∀ a, S'.apps a ≠ S.apps a → (∃ r', S'.apps a = some r' ∧ r'.ownerId = tx.userId) ∧
    ∀ r, S.apps a = some r → r.deleted = true ∨ r.ownerId = tx.userId
  cids : ∀ k, S'.cids k ≠ S.cids k → k.2 = tx.userId ∧ S.cids k = none

/-- No row is removed. -/
structure KeepsRows (S S' : AuthRows) : Prop where
  users : ∀ k, (S.users k).isSome = true → (S'.users k).isSome = true
  grants : ∀ k, (S.grants k).isSome = true → (S'.grants k).isSome = true
  entities : ∀ k, (S.entities k).isSome = true → (S'.entities k).isSome = true
  apps : ∀ k, (S.apps k).isSome = true → (S'.apps k).isSome = true
  cids : ∀ k, (S.cids k).isSome = true → (S'.cids k).isSome = true

/-- One row that a transaction sets, with what its checks have found out about it. -/
inductive RowStep (rt : GoRuntime) (tx : AuthTx) (S : AuthRows) : AuthRows → Prop
  | user {u u' : AuthUserRow} : S.users tx.userId = some u → u'.wallet = u.wallet →
      RowStep rt tx S (S.setUser tx.userId u')
  | grant {k : String × Int} {g : AuthGrantRow} : OwnGrant rt tx k → RowStep rt tx S (S.setGrant k g)
  | entity {ty : AuthEntityType} {r : AuthEntityRow} :
      canonicalAuthEntityType rt tx.entityType = some ty →
      (∀ old, S.entities (ty.text, tx.entityId) = some old → old.ownerId = tx.userId) →
      r.ownerId = tx.userId → RowStep rt tx S (S.setEntity (ty.text, tx.entityId) r)
  | app {a : String} {r : AuthAppRow} : r.ownerId = tx.userId →
      (∀ old, S.apps a = some old → old.deleted = true ∨ old.ownerId = tx.userId) →
      RowStep rt tx S (S.setApp a r)
  | cid {c : String} : S.cids (c, tx.userId) = none → RowStep rt tx S (S.claim (c, tx.userId))

/-- The rows a transaction sets, one after the other. -/
abbrev RowSteps (rt : GoRuntime) (tx : AuthTx) : AuthRows → AuthRows → Prop :=
  Relation.ReflTransGen (RowStep rt tx)

section Steps

variable {rt : GoRuntime} {tx : AuthTx} {S S₁ S₂ : AuthRows}

private theorem isSome_update {κ ρ : Type} [DecidableEq κ] {f : κ → Option ρ} {k : κ} {row : ρ}
    (j : κ) (h : (f j).isSome = true) : (Function.update f k (some row) j).isSome = true := by
  rw [Function.update_apply]
  split
  · rfl
  · exact h

private theorem eq_of_update_ne {κ ρ : Type} [DecidableEq κ] {f : κ → Option ρ} {k j : κ}
    {row : Option ρ} (h : Function.update f k row j ≠ f j) : j = k := by
  by_contra hne
  exact h (Function.update_of_ne hne _ _)

theorem KeepsRows.trans (h : KeepsRows S S₁) (h' : KeepsRows S₁ S₂) : KeepsRows S S₂ :=
  ⟨fun k hk => h'.users k (h.users k hk), fun k hk => h'.grants k (h.grants k hk),
    fun k hk => h'.entities k (h.entities k hk), fun k hk => h'.apps k (h.apps k hk),
    fun k hk => h'.cids k (h.cids k hk)⟩

theorem RowStep.keepsRows (h : RowStep rt tx S S₁) : KeepsRows S S₁ := by
  cases h with
  | user => exact ⟨isSome_update, fun _ h => h, fun _ h => h, fun _ h => h, fun _ h => h⟩
  | grant => exact ⟨fun _ h => h, isSome_update, fun _ h => h, fun _ h => h, fun _ h => h⟩
  | entity => exact ⟨fun _ h => h, fun _ h => h, isSome_update, fun _ h => h, fun _ h => h⟩
  | app => exact ⟨fun _ h => h, fun _ h => h, fun _ h => h, isSome_update, fun _ h => h⟩
  | cid => exact ⟨fun _ h => h, fun _ h => h, fun _ h => h, fun _ h => h, isSome_update⟩

/-- A step after own rows only: what it finds is as it was, or own already. -/
theorem OwnRowsOnly.step (h : OwnRowsOnly rt tx S S₁) (hstep : RowStep rt tx S₁ S₂) :
    OwnRowsOnly rt tx S S₂ := by
  cases hstep with
  | @user u u' hu hwallet =>
    refine ⟨fun id hne => ?_, h.grants, h.entities, h.apps, h.cids⟩
    by_cases hid : id = tx.userId
    · subst hid
      refine ⟨rfl, ?_⟩
      have hnew : (S₁.setUser tx.userId u').users tx.userId = some u' := Function.update_self _ _ _
      by_cases hsame : S₁.users tx.userId = S.users tx.userId
      · exact ⟨u, u', hsame.symm.trans hu, hnew, hwallet⟩
      · obtain ⟨-, v, v', hv, hv', hvw⟩ := h.users _ hsame
        obtain rfl : u = v' := Option.some.inj (hu.symm.trans hv')
        exact ⟨v, u', hv, hnew, hwallet.trans hvw⟩
    · have hkept : (S₁.setUser tx.userId u').users id = S₁.users id := Function.update_of_ne hid _ _
      rw [hkept] at hne ⊢
      exact h.users id hne
  | @grant k g hown =>
    refine ⟨h.users, fun j hne => ?_, h.entities, h.apps, h.cids⟩
    by_cases hj : j = k
    · rwa [hj]
    · have hkept : (S₁.setGrant k g).grants j = S₁.grants j := Function.update_of_ne hj _ _
      rw [hkept] at hne
      exact h.grants j hne
  | @entity ty r hty hold hr =>
    refine ⟨h.users, h.grants, fun j hne => ?_, h.apps, h.cids⟩
    by_cases hj : j = (ty.text, tx.entityId)
    · subst hj
      have hnew : (S₁.setEntity (ty.text, tx.entityId) r).entities (ty.text, tx.entityId) = some r :=
        Function.update_self _ _ _
      refine ⟨rfl, ⟨ty, hty, rfl⟩, ⟨r, hnew, hr⟩, ?_⟩
      by_cases hsame : S₁.entities (ty.text, tx.entityId) = S.entities (ty.text, tx.entityId)
      · rwa [← hsame]
      · exact (h.entities _ hsame).2.2.2
    · have hkept : (S₁.setEntity (ty.text, tx.entityId) r).entities j = S₁.entities j :=
        Function.update_of_ne hj _ _
      rw [hkept] at hne ⊢
      exact h.entities j hne
  | @app a r hr hold =>
    refine ⟨h.users, h.grants, h.entities, fun b hne => ?_, h.cids⟩
    by_cases hb : b = a
    · subst hb
      refine ⟨⟨r, Function.update_self _ _ _, hr⟩, ?_⟩
      by_cases hsame : S₁.apps b = S.apps b
      · rwa [← hsame]
      · exact (h.apps _ hsame).2
    · have hkept : (S₁.setApp a r).apps b = S₁.apps b := Function.update_of_ne hb _ _
      rw [hkept] at hne ⊢
      exact h.apps b hne
  | @cid c hnone =>
    refine ⟨h.users, h.grants, h.entities, h.apps, fun j hne => ?_⟩
    by_cases hsame : S₁.cids j = S.cids j
    · have hj : j = (c, tx.userId) := eq_of_update_ne (hsame ▸ hne)
      rw [← hsame, hj]
      exact ⟨rfl, hnone⟩
    · exact h.cids j hsame

/-- The steps of a transaction change own rows only and remove none. -/
theorem frame_of_steps (h : RowSteps rt tx S S₁) :
    OwnRowsOnly rt tx S S₁ ∧ KeepsRows S S₁ := by
  induction h with
  | refl =>
    exact ⟨⟨fun _ h => absurd rfl h, fun _ h => absurd rfl h, fun _ h => absurd rfl h,
      fun _ h => absurd rfl h, fun _ h => absurd rfl h⟩,
      ⟨fun _ h => h, fun _ h => h, fun _ h => h, fun _ h => h, fun _ h => h⟩⟩
  | tail _ hstep ih => exact ⟨ih.1.step hstep, ih.2.trans hstep.keepsRows⟩

end Steps

/-! ### The branches -/

/-- What the projection has found out about the signer: it is authorized for the user of the
transaction or, in a revocation, for the user found by the wallet of the grantee. -/
def Admitted {σ : Type} [AuthStore σ] (rt : GoRuntime) (tx : AuthTx) (s : σ) : Prop :=
  SignerAuthorized rt s tx.userId tx.signer ∨ tx.Is rt .grant .delete ∧ ∃ id,
    (getUserIDByWallet (rt.toLower (tx.metaString "grantee_address")) s).1 = .ok (some id) ∧
    SignerAuthorized rt s id tx.signer

theorem signerAuthorized_of_true {σ : Type} [AuthStore σ] {rt : GoRuntime} {s s' : σ} {id : Int}
    {signer : String} (hrun : signerAuthorized rt id signer s = (.ok true, s')) :
    SignerAuthorized rt s id signer := by
  unfold signerAuthorized at hrun
  obtain ⟨r, s₁, hr, hrun⟩ := Prog.bind_eq_ok hrun
  have hr : (validateAuthSigner rt id signer s).1 = r := Except.ok.inj (congrArg Prod.fst hr)
  match r, hr, hrun with
  | .ok (), hr, _ => exact hr

namespace RowStore

variable {σ : Type} [AuthStore σ] {rows : σ → AuthRows} (h : RowStore rows) {rt : GoRuntime}
  {rules : Rules} {tx : AuthTx} {s s' : σ}

include h

theorem authorized_bind {β : Type} {id : Int} {signer : String} {f : Unit → Prog σ AuthError β} {b : β}
    (hrun : (validateAuthSigner rt id signer >>= f) s = (.ok b, s')) :
    SignerAuthorized rt s id signer ∧ (∃ u, (rows s).users id = some u) ∧ f () s = (.ok b, s') := by
  obtain ⟨_, hvalid, hf⟩ := Quiet.bind_eq_ok (h.rejects.validateAuthSigner rt id signer) hrun
  refine ⟨congrArg Prod.fst hvalid, ?_, hf⟩
  unfold validateAuthSigner at hvalid
  obtain ⟨found, hfound, hvalid⟩ := Quiet.bind_eq_ok (h.rejects.getUser id) hvalid
  cases found with
  | none => cases hvalid
  | some u => exact ⟨u, (h.getUser hfound).symm⟩

theorem createsUser (his : tx.Is rt .user .create) (hlive : tx.migration = false)
    (hrun : projectUserCreate rt tx s = (.ok (), s')) : CreatesUser rt tx (rows s) (rows s') := by
  unfold projectUserCreate at hrun
  obtain ⟨found, hfound, hrun⟩ := Quiet.bind_eq_ok (h.rejects.getUser _) hrun
  obtain ⟨habsent, hrun⟩ := rejectIf_bind_eq_ok hrun
  obtain ⟨-, hrun⟩ := rejectIf_bind_eq_ok hrun
  simp only [hlive, Bool.false_eq_true, if_false] at hrun
  obtain ⟨_, -, hrun⟩ := Quiet.bind_eq_ok (h.rejects.validateNewUser rt _ _) hrun
  have hnone : (rows s).users tx.userId = none := by
    rw [← h.getUser hfound]
    simpa using habsent
  exact ⟨his, hnone, _, rfl, h.insertUser hrun hnone⟩

theorem handleUpdate {rest : Prog σ AuthError Unit} {u : AuthUserRow}
    (hu : (rows s).users tx.userId = some u)
    (hrun : (do
      if tx.metaString "handle" = "" then pure ()
      else AuthStore.setUserHandle tx.userId (rt.toLower (tx.metaString "handle"))
      rest) s = (.ok (), s')) :
    ∃ s₁ u₁, RowSteps rt tx (rows s) (rows s₁) ∧ (rows s₁).users tx.userId = some u₁ ∧
      rest s₁ = (.ok (), s') := by
  split at hrun
  · exact ⟨s, u, .refl, hu, hrun⟩
  · obtain ⟨_, s₁, hhandle, hrest⟩ := Prog.bind_eq_ok hrun
    have hrows := h.setUserHandle hhandle hu
    refine ⟨s₁, { u with handleLC := rt.toLower (tx.metaString "handle") }, .single ?_, ?_, hrest⟩
    · rw [hrows]
      exact .user hu rfl
    · rw [hrows]
      exact Function.update_self _ _ _

theorem userUpdate (hrun : projectUserUpdate rt tx s = (.ok (), s')) :
    SignerAuthorized rt s tx.userId tx.signer ∧ RowSteps rt tx (rows s) (rows s') := by
  unfold projectUserUpdate at hrun
  obtain ⟨hauth, ⟨u, hu⟩, hrun⟩ := h.authorized_bind hrun
  obtain ⟨s₁, u₁, hhandle, hu₁, hrun⟩ := h.handleUpdate hu hrun
  refine ⟨hauth, hhandle.trans ?_⟩
  cases hflag : tx.metaBool "is_deactivated" with
  | none =>
    rw [hflag] at hrun
    cases hrun
    exact .refl
  | some deactivated =>
    rw [hflag] at hrun
    refine .single ?_
    rw [h.setUserDeactivated hrun hu₁]
    exact .user hu₁ rfl

theorem assertedCids (hrun : projectAssertedTrackCids tx rules s = (.ok (), s')) :
    RowSteps rt tx (rows s) (rows s') := by
  unfold projectAssertedTrackCids at hrun
  split at hrun
  · cases hrun
    exact .refl
  · unfold forEachTrackCid at hrun
    generalize trackCidMetadataKeys = keys at hrun
    induction keys generalizing s with
    | nil =>
      cases hrun
      exact .refl
    | cons key keys ih =>
      obtain ⟨_, s₁, hkey, hrest⟩ := Prog.bind_eq_ok hrun
      refine Relation.ReflTransGen.trans ?_ (ih hrest)
      dsimp only at hkey
      split at hkey
      · cases hkey
        exact .refl
      · obtain ⟨known, hknown, hkey⟩ := Quiet.bind_eq_ok (h.rejects.cidIsClaimed _) hkey
        cases known with
        | true =>
          cases hkey
          exact .refl
        | false =>
          refine .single ?_
          rw [h.insertCid hkey]
          exact .cid (h.cidIsClaimed hknown tx.userId)

theorem create {e : AuthEntityType} (his : tx.Is rt e .create) (hlive : tx.migration = false)
    (hrun : projectCreate rt tx rules e s = (.ok (), s')) :
    SignerAuthorized rt s tx.userId tx.signer ∧ RowSteps rt tx (rows s) (rows s') := by
  unfold projectCreate at hrun
  obtain ⟨_, s₁, hcreate, hcids⟩ := Prog.bind_eq_ok hrun
  obtain ⟨_, s₂, hmigrated, hasserted⟩ := Prog.bind_eq_ok hcids
  rw [projectMigratedTrackCids, if_pos (.inl hlive)] at hmigrated
  cases hmigrated
  unfold projectEntityCreate at hcreate
  obtain ⟨-, hcreate⟩ := rejectIf_bind_eq_ok hcreate
  obtain ⟨-, hcreate⟩ := rejectIf_bind_eq_ok hcreate
  obtain ⟨hauth, -, hcreate⟩ := h.authorized_bind hcreate
  obtain ⟨found, hfound, hcreate⟩ := Quiet.bind_eq_ok (h.rejects.getEntity _ _) hcreate
  obtain ⟨habsent, hcreate⟩ := rejectIf_bind_eq_ok hcreate
  have hnone : (rows s).entities (e.text, tx.entityId) = none := by
    rw [← h.getEntity hfound]
    simpa using habsent
  have hrows := h.insertEntity hcreate hnone
  refine ⟨hauth, Relation.ReflTransGen.head ?_ (h.assertedCids hasserted)⟩
  rw [hrows]
  refine .entity his.1 (fun old hold => ?_) rfl
  rw [hnone] at hold
  cases hold

theorem entityDelete {e : AuthEntityType} (his : tx.Is rt e .delete)
    (hrun : projectEntityDelete rt tx e s = (.ok (), s')) :
    SignerAuthorized rt s tx.userId tx.signer ∧ RowSteps rt tx (rows s) (rows s') := by
  unfold projectEntityDelete at hrun
  obtain ⟨hauth, -, hrun⟩ := h.authorized_bind hrun
  obtain ⟨found, hfound, hrun⟩ := Quiet.bind_eq_ok (h.rejects.getEntity _ _) hrun
  cases found with
  | none => cases hrun
  | some r =>
    obtain ⟨howner, hrun⟩ := rejectIf_bind_eq_ok hrun
    have hr := (h.getEntity hfound).symm
    refine ⟨hauth, .single ?_⟩
    rw [h.setEntityDeleted hrun hr]
    refine .entity his.1 (fun old hold => ?_) (not_not.mp howner)
    obtain rfl : r = old := Option.some.inj (hr.symm.trans hold)
    exact not_not.mp howner

theorem grantCreate (his : tx.Is rt .grant .create) (hlive : tx.migration = false)
    (hrun : projectGrantCreate rt tx s = (.ok (), s')) :
    SignerAuthorized rt s tx.userId tx.signer ∧ RowSteps rt tx (rows s) (rows s') := by
  unfold projectGrantCreate at hrun
  obtain ⟨-, hrun⟩ := rejectIf_bind_eq_ok hrun
  obtain ⟨hauth, -, hrun⟩ := h.authorized_bind hrun
  obtain ⟨app, -, hrun⟩ := Quiet.bind_eq_ok (h.rejects.getApp _) hrun
  simp only [hlive, Bool.false_eq_true, if_false] at hrun
  obtain ⟨isUser, -, hrun⟩ := Quiet.bind_eq_ok (h.rejects.walletExists _) hrun
  obtain ⟨-, hrun⟩ := rejectIf_bind_eq_ok hrun
  obtain ⟨existing, -, hrun⟩ := Quiet.bind_eq_ok (h.rejects.getGrant _ _) hrun
  obtain ⟨-, hrun⟩ := rejectIf_bind_eq_ok hrun
  refine ⟨hauth, .single ?_⟩
  rw [h.upsertGrant hrun]
  exact .grant (.inl ⟨not_decides his (by decide), rfl⟩)

theorem grantDelete (his : tx.Is rt .grant .delete)
    (hrun : projectGrantDelete rt tx s = (.ok (), s')) :
    Admitted rt tx s ∧ RowSteps rt tx (rows s) (rows s') := by
  unfold projectGrantDelete at hrun
  obtain ⟨-, hrun⟩ := rejectIf_bind_eq_ok hrun
  obtain ⟨existing, -, hrun⟩ := Quiet.bind_eq_ok (h.rejects.getGrant _ _) hrun
  obtain ⟨-, hrun⟩ := rejectIf_bind_eq_ok hrun
  obtain ⟨authorized, hmay, hrun⟩ := Quiet.bind_eq_ok (h.rejects.mayRevoke rt tx _) hrun
  obtain ⟨hauthorized, hrun⟩ := rejectIf_bind_eq_ok hrun
  obtain rfl : authorized = true := by simpa using hauthorized
  constructor
  · unfold mayRevoke at hmay
    obtain ⟨own, hown, hmay⟩ := Quiet.bind_eq_ok (h.rejects.signerAuthorized rt _ _) hmay
    cases own with
    | true => exact .inl (signerAuthorized_of_true hown)
    | false =>
      obtain ⟨found, hfound, hmay⟩ := Quiet.bind_eq_ok (h.rejects.getUserIDByWallet _) hmay
      cases found with
      | none => cases hmay
      | some id => exact .inr ⟨his, id, congrArg Prod.fst hfound, signerAuthorized_of_true hmay⟩
  · refine .single ?_
    rw [h.upsertGrant hrun]
    exact .grant (.inl ⟨not_decides his (by decide), rfl⟩)

/-- What the code asks of a decision on a grant: it is named by the metadata, open and not yet
approved, and the signer may act for the user of the transaction, whoever that is. -/
theorem grantDecide {approve : Bool} (hrun : projectGrantApproveReject rt tx approve s = (.ok (), s')) :
    SignerAuthorized rt s tx.userId tx.signer ∧ ∃ grantor r,
      rt.toLower (tx.metaString "grantee_address") ≠ "" ∧
      tx.metaInt64 rt "grantor_user_id" = some grantor ∧
      (AuthStore.getGrant (rt.toLower (tx.metaString "grantee_address")) grantor s).1 = .ok (some r) ∧
      r.revoked = false ∧ r.approved ≠ some true ∧
      rows s' = (rows s).setGrant (rt.toLower (tx.metaString "grantee_address"), grantor)
        ⟨some approve, !approve⟩ := by
  unfold projectGrantApproveReject at hrun
  obtain ⟨hne, hrun⟩ := rejectIf_bind_eq_ok hrun
  obtain ⟨hauth, -, hrun⟩ := h.authorized_bind hrun
  cases hgrantor : tx.metaInt64 rt "grantor_user_id" with
  | none =>
    rw [hgrantor] at hrun
    cases hrun
  | some grantor =>
    rw [hgrantor] at hrun
    obtain ⟨found, hfound, hrun⟩ := Quiet.bind_eq_ok (h.rejects.getGrant _ _) hrun
    cases found with
    | none => cases hrun
    | some r =>
      obtain ⟨hopen, hrun⟩ := rejectIf_bind_eq_ok hrun
      obtain ⟨hpending, hrun⟩ := rejectIf_bind_eq_ok hrun
      exact ⟨hauth, grantor, r, hne, rfl, congrArg Prod.fst hfound, by simpa using hopen, hpending,
        h.upsertGrant hrun⟩

theorem appCreate (hlive : tx.migration = false) (hrun : projectAppCreate rt tx s = (.ok (), s')) :
    SignerAuthorized rt s tx.userId tx.signer ∧ RowSteps rt tx (rows s) (rows s') := by
  unfold projectAppCreate at hrun
  obtain ⟨hauth, -, hrun⟩ := h.authorized_bind hrun
  obtain ⟨-, hrun⟩ := rejectIf_bind_eq_ok hrun
  obtain ⟨existing, hexisting, hrun⟩ := Quiet.bind_eq_ok (h.rejects.getApp _) hrun
  obtain ⟨hfree, hrun⟩ := rejectIf_bind_eq_ok hrun
  obtain ⟨used, -, hrun⟩ := Quiet.bind_eq_ok (h.rejects.walletExists _) hrun
  obtain ⟨-, hrun⟩ := rejectIf_bind_eq_ok hrun
  obtain ⟨_, s₁, hwrite, hrun⟩ := Prog.bind_eq_ok hrun
  simp only [hlive, Bool.false_and, Bool.false_eq_true, if_false] at hrun
  cases hrun
  refine ⟨hauth, .single ?_⟩
  rw [h.upsertApp hwrite]
  refine .app rfl fun old hold => .inl ?_
  rw [h.getApp hexisting, hold] at hfree
  simpa using hfree

theorem appDelete (hrun : projectAppDelete rt tx s = (.ok (), s')) :
    SignerAuthorized rt s tx.userId tx.signer ∧ RowSteps rt tx (rows s) (rows s') := by
  unfold projectAppDelete at hrun
  obtain ⟨hauth, -, hrun⟩ := h.authorized_bind hrun
  obtain ⟨-, hrun⟩ := rejectIf_bind_eq_ok hrun
  obtain ⟨existing, hexisting, hrun⟩ := Quiet.bind_eq_ok (h.rejects.getApp _) hrun
  cases existing with
  | none => cases hrun
  | some r =>
    obtain ⟨-, hrun⟩ := rejectIf_bind_eq_ok hrun
    obtain ⟨howner, hrun⟩ := rejectIf_bind_eq_ok hrun
    have hr := (h.getApp hexisting).symm
    refine ⟨hauth, .single ?_⟩
    rw [h.setAppDeleted hrun hr]
    refine .app (not_not.mp howner) fun old hold => .inr ?_
    obtain rfl : r = old := Option.some.inj (hr.symm.trans hold)
    exact not_not.mp howner

/-- Every live transaction that passes: it leaves the rows, or creates its user, or sets rows after
its signer was authorized. -/
theorem cases_of_ok (hlive : tx.migration = false)
    (hrun : applyAuthProjection rt tx rules s = (.ok (), s')) :
    rows s' = rows s ∨ CreatesUser rt tx (rows s) (rows s') ∨
      Admitted rt tx s ∧ RowSteps rt tx (rows s) (rows s') := by
  have hown : SignerAuthorized rt s tx.userId tx.signer ∧ RowSteps rt tx (rows s) (rows s') →
      rows s' = rows s ∨ CreatesUser rt tx (rows s) (rows s') ∨
        Admitted rt tx s ∧ RowSteps rt tx (rows s) (rows s') :=
    fun hacts => .inr (.inr ⟨.inl hacts.1, hacts.2⟩)
  have hdecide : ∀ approve, tx.Is rt .grant (if approve then .approve else .reject) →
      projectGrantApproveReject rt tx approve s = (.ok (), s') →
      SignerAuthorized rt s tx.userId tx.signer ∧ RowSteps rt tx (rows s) (rows s') := by
    intro approve his hrun
    obtain ⟨hauth, grantor, r, -, hgrantor, -, -, -, hrows⟩ := h.grantDecide hrun
    refine ⟨hauth, .single ?_⟩
    rw [hrows]
    exact .grant (.inr ⟨decides_of_is his, rfl, hgrantor⟩)
  generalize hprog : (applyAuthProjection rt tx rules : Prog σ AuthError Unit) = run at hrun
  unfold applyAuthProjection at hprog
  -- one case for each row of the dispatch table, in its order
  split at hprog <;> subst hprog
  · exact .inr (.inl (h.createsUser ⟨‹_›, ‹_›⟩ hlive hrun))
  · exact hown (h.userUpdate hrun)
  · exact hown (h.create ⟨‹_›, ‹_›⟩ hlive hrun)
  · exact hown (h.create ⟨‹_›, ‹_›⟩ hlive hrun)
  · unfold projectTrackUpdate at hrun
    split at hrun
    · cases hrun
      exact .inl rfl
    · obtain ⟨hauth, -, hrun⟩ := h.authorized_bind hrun
      exact hown ⟨hauth, h.assertedCids hrun⟩
  · exact hown (h.entityDelete ⟨‹_›, ‹_›⟩ hrun)
  · exact hown (h.entityDelete ⟨‹_›, ‹_›⟩ hrun)
  · exact hown (h.grantCreate ⟨‹_›, ‹_›⟩ hlive hrun)
  · exact .inr (.inr (h.grantDelete ⟨‹_›, ‹_›⟩ hrun))
  · exact hown (hdecide true ⟨‹_›, ‹_›⟩ hrun)
  · exact hown (hdecide false ⟨‹_›, ‹_›⟩ hrun)
  · exact hown (h.appCreate hlive hrun)
  · exact hown (h.appDelete hrun)
  · cases hrun
    exact .inl rfl

end RowStore

/-! ### Both stores -/

section Frame

variable {σ : Type} [AuthStore σ] (rows : σ → AuthRows) (rt : GoRuntime) (tx : AuthTx)

/-- The signer is authorized for the user of the transaction, or, to revoke a grant, for an active
user whose wallet is the grantee. -/
def MayAct (s : σ) : Prop :=
  SignerAuthorized rt s tx.userId tx.signer ∨ tx.Is rt .grant .delete ∧ ∃ id u,
    (rows s).users id = some u ∧ u.wallet = rt.toLower (tx.metaString "grantee_address") ∧
    u.deactivated = false ∧ SignerAuthorized rt s id tx.signer

/-- The transaction creates its user, or acts for a user its signer may act for and changes no other
user's rows; and it removes no row. -/
def Framed (s s' : σ) : Prop :=
  (CreatesUser rt tx (rows s) (rows s') ∨
    MayAct rows rt tx s ∧ OwnRowsOnly rt tx (rows s) (rows s')) ∧ KeepsRows (rows s) (rows s')

variable {rows rt tx}

/-- A transaction that changes rows is framed, unless it revokes through the wallet of the grantee
and the user found by it is not one it may act for. -/
theorem RowStore.framed (h : RowStore rows) {rules : Rules} {s s' : σ} (hlive : tx.migration = false)
    (hrun : applyAuthProjection rt tx rules s = (.ok (), s')) (hchanged : rows s' ≠ rows s)
    (hmay : ∀ id, tx.Is rt .grant .delete →
      (getUserIDByWallet (rt.toLower (tx.metaString "grantee_address")) s).1 = .ok (some id) →
      SignerAuthorized rt s id tx.signer → MayAct rows rt tx s) : Framed rows rt tx s s' := by
  rcases h.cases_of_ok hlive hrun with hsame | hcreate | ⟨hauth, hsteps⟩
  · exact absurd hsame hchanged
  · refine ⟨.inl hcreate, ?_⟩
    obtain ⟨u, -, hrows⟩ := hcreate.row
    rw [hrows]
    exact ⟨isSome_update, fun _ h => h, fun _ h => h, fun _ h => h, fun _ h => h⟩
  · obtain ⟨hown, hkeeps⟩ := frame_of_steps hsteps
    refine ⟨.inr ⟨?_, hown⟩, hkeeps⟩
    rcases hauth with hauth | ⟨his, id, hfound, hauth⟩
    · exact .inl hauth
    · exact hmay id his hfound hauth

end Frame

/-- A revocation in the overlay whose grantee is found through a row that is no longer there: no row
of the overlay is an active user with the wallet of the grantee, so the base is asked, and the user
it finds has a newer row in the overlay. -/
structure RevokesThroughHiddenRow (rt : GoRuntime) (tx : AuthTx) (o : Overlay) : Prop where
  revokes : tx.Is rt .grant .delete
  unseen : ∀ id u, o.users.lookup id = some u →
    u.wallet = rt.toLower (tx.metaString "grantee_address") → u.deactivated = true
  hidden : ∃ id newer, o.users.lookup id = some newer ∧
    o.base.getUserIDByWallet (rt.toLower (tx.metaString "grantee_address")) = .ok (some id)

/-- A user the overlay finds by the wallet of a grantee is an active user with that wallet, unless
its row is hidden. -/
theorem Overlay.rows_of_getUserIDByWallet {rt : GoRuntime} {tx : AuthTx} {o : Overlay} {id : Int}
    (his : tx.Is rt .grant .delete) (hvisible : ¬ RevokesThroughHiddenRow rt tx o)
    (h : o.getUserIDByWallet (rt.toLower (tx.metaString "grantee_address")) = .ok (some id)) :
    ∃ u, o.rows.users id = some u ∧ u.wallet = rt.toLower (tx.metaString "grantee_address") ∧
      u.deactivated = false := by
  unfold Overlay.getUserIDByWallet at h
  split at h
  · rename_i found hleast
    obtain rfl : found = id := by simpa using h
    obtain ⟨⟨u, hu, hmatch⟩, -⟩ := (Table.leastKey_eq_some_iff _ _ _).mp hleast
    refine ⟨u, ?_, by simpa using hmatch⟩
    change (o.users.lookup found).or _ = some u
    rw [hu]
    rfl
  · rename_i hnone
    cases hrow : o.users.lookup id with
    | none =>
      obtain ⟨u, hu, hactive⟩ := AuthTables.getUserIDByWallet_rows h
      refine ⟨u, ?_, hactive⟩
      change (o.users.lookup id).or _ = some u
      rw [hrow]
      exact hu
    | some newer =>
      refine absurd ⟨his, fun id u hu hwallet => ?_, id, newer, hrow, h⟩ hvisible
      have hunmatched := Table.unmatched_of_leastKey_eq_none _ _ hnone hu
      simpa [hwallet] using hunmatched

/-- A live transaction that returns and changes the rows of the durable store is framed. On the
overlay it is framed exactly if, should it revoke a grant through a hidden row, its signer may act
all the same. -/
theorem applyAuthProjection_framed_iff (rt : GoRuntime) (rules : Rules) (tx : AuthTx)
    (hlive : tx.migration = false) :
    (∀ t t' : Txn Db, applyAuthProjection rt tx rules t = (.ok (), t') → Txn.rows t' ≠ Txn.rows t →
      Framed Txn.rows rt tx t t') ∧
    ∀ o o' : Overlay, applyAuthProjection rt tx rules o = (.ok (), o') → o'.rows ≠ o.rows →
      (Framed Overlay.rows rt tx o o' ↔
        (RevokesThroughHiddenRow rt tx o → MayAct Overlay.rows rt tx o)) := by
  constructor
  · intro t t' hrun hchanged
    refine rowStore_db.framed hlive hrun hchanged fun id his hfound hauth => .inr ⟨his, id, ?_⟩
    obtain ⟨u, hu, hwallet, hactive⟩ :=
      AuthTables.getUserIDByWallet_rows (authQuery_eq_ok (eq_mk_of_fst hfound)).2.1
    exact ⟨u, hu, hwallet, hactive, hauth⟩
  · intro o o' hrun hchanged
    constructor
    · rintro ⟨hcreate | ⟨hmay, -⟩, -⟩ hhidden
      · cases (hcreate.create.unique hhidden.revokes).1
      · exact hmay
    · intro hmay
      refine rowStore_overlay.framed hlive hrun hchanged fun id his hfound hauth => ?_
      by_cases hhidden : RevokesThroughHiddenRow rt tx o
      · exact hmay hhidden
      · obtain ⟨u, hu, hwallet, hactive⟩ :=
          Overlay.rows_of_getUserIDByWallet his hhidden (except_mapError_eq_ok.mp hfound)
        exact .inr ⟨his, id, u, hu, hwallet, hactive, hauth⟩

/-- Two users, and a grant of the first to the second that is not decided yet. -/
def pendingGrantTables : AuthTables :=
  { Db.empty.auth with
    users := AList.insert 2 ⟨⟨"0xb2", by decide⟩, some ⟨"bob", by decide⟩, false⟩
      (AList.insert 1 aliceRow ∅)
    grants := AList.insert (⟨"0xb2", by decide⟩, 1) ⟨none, false⟩ ∅ }

def granteeApproves : AuthTx :=
  authTxFromManageEntity
    { userId := 2, entityType := "Grant", entityId := 0, action := "Approve", signer := "0xb2",
      metadata := "\x7b\"grantee_address\":\"0xb2\",\"grantor_user_id\":1\x7d" }

def granteeRevokes : AuthTx :=
  authTxFromManageEntity
    { userId := 1, entityType := "Grant", entityId := 0, action := "Delete", signer := "0xb2",
      metadata := "\x7b\"grantee_address\":\"0xb2\"\x7d" }

def granteeLeaves : AuthTx :=
  authTxFromManageEntity
    { userId := 2, entityType := "User", entityId := 2, action := "Update", signer := "0xb2",
      metadata := "\x7b\"is_deactivated\":true\x7d" }

theorem pendingGrantTables_users {id : Int} {u : AuthUserRow}
    (h : pendingGrantTables.getUser id = some u) : id = 1 ∨ id = 2 := by
  by_contra hne
  obtain ⟨hone, htwo⟩ := not_or.mp hne
  rw [AuthTables.getUser, pendingGrantTables, Table.lookup_insert_eq, if_neg htwo,
    Table.lookup_insert_eq, if_neg hone] at h
  cases h

theorem grantee_framed :
    Framed Txn.rows .amd64 granteeRevokes pendingGrantTables.store
      (applyAuthProjection .amd64 granteeRevokes {} pendingGrantTables.store).2 ∧
    Framed Overlay.rows .amd64 granteeRevokes (newOverlay pendingGrantTables)
      (applyAuthProjection .amd64 granteeRevokes {} (newOverlay pendingGrantTables)).2 := by
  have hframed := applyAuthProjection_framed_iff .amd64 {} granteeRevokes rfl
  refine ⟨hframed.1 _ _ (eq_mk_of_fst (by decide +kernel)) fun hsame => ?_,
    (hframed.2 _ _ (eq_mk_of_fst (by decide +kernel)) fun hsame => ?_).mpr ?_⟩
  · exact absurd (congrFun (congrArg AuthRows.grants hsame) ("0xb2", 1)) (by decide +kernel)
  · exact absurd (congrFun (congrArg AuthRows.grants hsame) ("0xb2", 1)) (by decide +kernel)
  · rintro ⟨-, -, id, newer, hrow, -⟩
    cases hrow

/-- In one proposal the grantee deactivates its user and then revokes the grant: no active user has
its wallet any more. -/
theorem deactivated_grantee_revokes :
    let o := (applyAuthProjection .amd64 granteeLeaves {} (newOverlay pendingGrantTables)).2
    let o' := (applyAuthProjection .amd64 granteeRevokes {} o).2
    (applyAuthProjection .amd64 granteeRevokes {} o).1 = .ok () ∧ o'.rows ≠ o.rows ∧
      (∀ id u, o.rows.users id = some u → u.wallet = "0xb2" → u.deactivated = true) ∧
      ¬ Framed Overlay.rows .amd64 granteeRevokes o o' := by
  intro o o'
  have hinactive : ∀ id u, o.rows.users id = some u → u.wallet = "0xb2" → u.deactivated = true := by
    intro id u hu hwallet
    have hid : id = 1 ∨ id = 2 := by
      cases hrow : o.users.lookup id with
      | some newer =>
        have hmem : id ∈ o.users.keys := AList.lookup_isSome.mp (Option.isSome_of_eq_some hrow)
        have hkeys : o.users.keys = [2] := by decide +kernel
        rw [hkeys] at hmem
        exact .inr (List.mem_singleton.mp hmem)
      | none =>
        change (o.users.lookup id).or (pendingGrantTables.getUser id) = some u at hu
        rw [hrow] at hu
        exact pendingGrantTables_users hu
    rcases hid with rfl | rfl
    · obtain rfl : u = (o.rows.users 1).get (by decide +kernel) := by simp [hu]
      exact absurd hwallet (by decide +kernel)
    · obtain rfl : u = (o.rows.users 2).get (by decide +kernel) := by simp [hu]
      decide +kernel
  refine ⟨by decide +kernel, fun hsame => ?_, hinactive, ?_⟩
  · exact absurd (congrFun (congrArg AuthRows.grants hsame) ("0xb2", 1)) (by decide +kernel)
  · rintro ⟨hcreate | ⟨hown | ⟨-, id, u, hu, hwallet, hactive, -⟩, -⟩, -⟩
    · exact absurd hcreate.create (by decide +kernel)
    · exact absurd hown (by unfold SignerAuthorized; decide +kernel)
    · rw [hinactive id u hu (hwallet.trans (by decide +kernel))] at hactive
      cases hactive

/-! ### Who decides a grant -/

section Decisions

variable {σ : Type} [AuthStore σ] (rows : σ → AuthRows) (rt : GoRuntime)

/-- The signer is authorized for a user with the wallet. -/
def ActsForWallet (s : σ) (wallet signer : String) : Prop :=
  ∃ id u, (rows s).users id = some u ∧ u.wallet = wallet ∧ SignerAuthorized rt s id signer

/-- A grant that the transaction changes is decided by someone who acts for its grantee. -/
def GranteeDecides (rules : Rules) (tx : AuthTx) (s : σ) : Prop :=
  ∀ g grantor, (applyAuthProjection rt tx rules s).1 = .ok () →
    (rows (applyAuthProjection rt tx rules s).2).grants (g, grantor) ≠ (rows s).grants (g, grantor) →
    ActsForWallet rows rt s g tx.signer

/-- The grant can be decided: it is neither revoked nor approved, and a decision can name it. -/
structure Pending (s : σ) (g : String) (grantor : Int) : Prop where
  nonempty : g ≠ ""
  row : ∃ r, (AuthStore.getGrant g grantor s).1 = .ok (some r) ∧ r.revoked = false ∧
    r.approved ≠ some true
  named : ∃ tx : AuthTx, tx.Decides rt ∧ rt.toLower (tx.metaString "grantee_address") = g ∧
    tx.metaInt64 rt "grantor_user_id" = some grantor

variable {rows rt}

theorem applyAuthProjection_of_decides {tx : AuthTx} (rules : Rules) (h : tx.Decides rt) :
    ∃ approve, (applyAuthProjection rt tx rules : Prog σ AuthError Unit) =
      projectGrantApproveReject rt tx approve := by
  rcases h with h | h
  · refine ⟨true, ?_⟩
    unfold applyAuthProjection
    simp only [h.1, h.2]
  · refine ⟨false, ?_⟩
    unfold applyAuthProjection
    simp only [h.1, h.2]

namespace RowStore

variable (h : RowStore rows) {s : σ}

include h

theorem decided_of_changed {rules : Rules} {tx : AuthTx} (hdecides : tx.Decides rt) {g : String}
    {grantor : Int} (hok : (applyAuthProjection rt tx rules s).1 = .ok ())
    (hne : (rows (applyAuthProjection rt tx rules s).2).grants (g, grantor) ≠
      (rows s).grants (g, grantor)) :
    SignerAuthorized rt s tx.userId tx.signer ∧
      g = rt.toLower (tx.metaString "grantee_address") ∧
      tx.metaInt64 rt "grantor_user_id" = some grantor ∧ g ≠ "" ∧
      ∃ r, (AuthStore.getGrant g grantor s).1 = .ok (some r) ∧ r.revoked = false ∧
        r.approved ≠ some true := by
  obtain ⟨approve, happly⟩ := applyAuthProjection_of_decides (σ := σ) rules hdecides
  rw [happly] at hok hne
  obtain ⟨hauth, grantor', r, hnonempty, hgrantor, hr, hopen, hpending, hrows⟩ :=
    h.grantDecide (eq_mk_of_fst hok)
  have hkey : (g, grantor) = (rt.toLower (tx.metaString "grantee_address"), grantor') := by
    by_contra hkey
    rw [hrows] at hne
    exact hne (Function.update_of_ne hkey _ _)
  obtain ⟨rfl, rfl⟩ := Prod.mk.inj hkey
  exact ⟨hauth, rfl, hgrantor, hnonempty, r, hr, hopen, hpending⟩

/-- An open decision goes through for whoever is authorized for the user of the transaction. -/
theorem changed_of_pending (rules : Rules) (tx : AuthTx) (hdecides : tx.Decides rt) {g : String}
    {grantor : Int} (hg : rt.toLower (tx.metaString "grantee_address") = g)
    (hgrantor : tx.metaInt64 rt "grantor_user_id" = some grantor) (hpending : Pending rt s g grantor)
    (hauth : SignerAuthorized rt s tx.userId tx.signer) :
    (applyAuthProjection rt tx rules s).1 = .ok () ∧
      (rows (applyAuthProjection rt tx rules s).2).grants (g, grantor) ≠
        (rows s).grants (g, grantor) := by
  obtain ⟨approve, happly⟩ := applyAuthProjection_of_decides (σ := σ) rules hdecides
  obtain ⟨hne, ⟨r, hr, hopen, hundecided⟩, -⟩ := hpending
  obtain ⟨s', hwrite⟩ := h.writable hr (some approve) (!approve)
  have hget := (h.rejects.getGrant g grantor).eq_mk hr
  have hvalid := (h.rejects.validateAuthSigner rt tx.userId tx.signer).eq_mk hauth
  have hrun : projectGrantApproveReject rt tx approve s = (.ok (), s') := by
    unfold projectGrantApproveReject
    rw [hg, hgrantor]
    refine (bind_of_ok (invalidIf_of_not hne _)).trans ?_
    refine (bind_of_ok hvalid).trans ?_
    refine (bind_of_ok hget).trans ?_
    refine (bind_of_ok (invalidIf_of_not (by simp [hopen]) _)).trans ?_
    exact (bind_of_ok (invalidIf_of_not hundecided _)).trans hwrite
  rw [happly, hrun]
  refine ⟨rfl, fun hsame => ?_⟩
  rw [h.upsertGrant hwrite, ← h.getGrant hget] at hsame
  have hnew : ((rows s).setGrant (g, grantor) ⟨some approve, !approve⟩).grants (g, grantor) =
      some ⟨some approve, !approve⟩ := Function.update_self _ _ _
  obtain rfl := Option.some.inj (hnew.symm.trans hsame)
  cases approve with
  | true => exact hundecided rfl
  | false => cases hopen

/-- The grants of a state are decided by their grantees alone exactly if, as long as one is open,
whoever is authorized for any user is authorized for a user with the wallet of its grantee. -/
theorem granteesDecide_iff : (∀ rules (tx : AuthTx), tx.migration = false → tx.Decides rt →
      GranteeDecides rows rt rules tx s) ↔
    ∀ g grantor, Pending rt s g grantor → ∀ id signer, SignerAuthorized rt s id signer →
      ActsForWallet rows rt s g signer := by
  constructor
  · intro hall g grantor hpending id signer hauth
    obtain ⟨tx, hdecides, hg, hgrantor⟩ := hpending.named
    let signed : AuthTx := { tx with userId := id, signer := signer, migration := false }
    have hchanged := h.changed_of_pending {} signed hdecides hg hgrantor hpending hauth
    exact hall {} signed rfl hdecides g grantor hchanged.1 hchanged.2
  · intro hall rules tx hlive hdecides g grantor hok hne
    obtain ⟨hauth, hg, hgrantor, hnonempty, hrow⟩ := h.decided_of_changed hdecides hok hne
    exact hall g grantor ⟨hnonempty, hrow, tx, hdecides, hg.symm, hgrantor⟩ tx.userId tx.signer hauth

theorem granteeDecides_of_wallet {rules : Rules} {tx : AuthTx} (hdecides : tx.Decides rt)
    {u : AuthUserRow} (hu : (rows s).users tx.userId = some u)
    (hwallet : u.wallet = rt.toLower (tx.metaString "grantee_address")) :
    GranteeDecides rows rt rules tx s := by
  intro g grantor hok hne
  obtain ⟨hauth, hg, -⟩ := h.decided_of_changed hdecides hok hne
  exact ⟨tx.userId, u, hu, hwallet.trans hg.symm, hauth⟩

end RowStore

end Decisions

/-- On either store the grants of a state are decided by their grantees alone exactly if, as long as
one is open, whoever is authorized for any user is authorized for a user with the wallet of its
grantee. A decision in the name of the grantee's own user is always the grantee's. -/
theorem grantees_decide_iff (rt : GoRuntime) :
    (∀ t : Txn Db, (∀ rules (tx : AuthTx), tx.migration = false → tx.Decides rt →
        GranteeDecides Txn.rows rt rules tx t) ↔
      ∀ g grantor, Pending rt t g grantor → ∀ id signer, SignerAuthorized rt t id signer →
        ActsForWallet Txn.rows rt t g signer) ∧
    (∀ o : Overlay, (∀ rules (tx : AuthTx), tx.migration = false → tx.Decides rt →
        GranteeDecides Overlay.rows rt rules tx o) ↔
      ∀ g grantor, Pending rt o g grantor → ∀ id signer, SignerAuthorized rt o id signer →
        ActsForWallet Overlay.rows rt o g signer) ∧
    ∀ rules (tx : AuthTx), tx.Decides rt →
      (∀ t u, (Txn.rows t).users tx.userId = some u →
        u.wallet = rt.toLower (tx.metaString "grantee_address") →
        GranteeDecides Txn.rows rt rules tx t) ∧
      ∀ (o : Overlay) u, o.rows.users tx.userId = some u →
        u.wallet = rt.toLower (tx.metaString "grantee_address") →
        GranteeDecides Overlay.rows rt rules tx o := by
  refine ⟨fun t => rowStore_db.granteesDecide_iff, fun o => rowStore_overlay.granteesDecide_iff,
    fun rules tx hdecides => ⟨fun t u hu hwallet => ?_, fun o u hu hwallet => ?_⟩⟩
  · exact rowStore_db.granteeDecides_of_wallet hdecides hu hwallet
  · exact rowStore_overlay.granteeDecides_of_wallet hdecides hu hwallet

theorem granteeApproves_decides :
    GranteeDecides Txn.rows .amd64 {} granteeApproves pendingGrantTables.store ∧
    GranteeDecides Overlay.rows .amd64 {} granteeApproves (newOverlay pendingGrantTables) := by
  have hdecides := (grantees_decide_iff .amd64).2.2 {} granteeApproves (by decide)
  exact ⟨hdecides.1 _ ⟨"0xb2", "bob", false⟩ (by decide +kernel) (by decide +kernel),
    hdecides.2 _ ⟨"0xb2", "bob", false⟩ (by decide +kernel) (by decide +kernel)⟩

def grantorApproves : AuthTx :=
  authTxFromManageEntity
    { userId := 1, entityType := "Grant", entityId := 0, action := "Approve", signer := "0xa1",
      metadata := "\x7b\"grantee_address\":\"0xb2\",\"grantor_user_id\":1\x7d" }

/-- Only the second user has the wallet of the grantee. -/
theorem pendingGrantTables_grantee {id : Int} {u : AuthUserRow}
    (h : pendingGrantTables.getUser id = some u) (hwallet : u.wallet = "0xb2") : id = 2 := by
  rcases pendingGrantTables_users h with rfl | rfl
  · cases h
    exact absurd hwallet (by decide)
  · rfl

/-- On either store a grantor can approve the pending grant it made to another user. -/
theorem grantor_approves_own_grant :
    grantorApproves.migration = false ∧ grantorApproves.Decides .amd64 ∧
    ¬ GranteeDecides Txn.rows .amd64 {} grantorApproves pendingGrantTables.store ∧
    ¬ GranteeDecides Overlay.rows .amd64 {} grantorApproves (newOverlay pendingGrantTables) := by
  refine ⟨rfl, by decide, fun h => ?_, fun h => ?_⟩
  · obtain ⟨id, u, hu, hwallet, hauth⟩ := h "0xb2" 1 (by decide +kernel) (by decide +kernel)
    obtain rfl := pendingGrantTables_grantee hu hwallet
    exact absurd hauth (by unfold SignerAuthorized; decide +kernel)
  · obtain ⟨id, u, hu, hwallet, hauth⟩ := h "0xb2" 1 (by decide +kernel) (by decide +kernel)
    obtain rfl := pendingGrantTables_grantee hu hwallet
    exact absurd hauth (by unfold SignerAuthorized; decide +kernel)

end OpenAudio.Core
