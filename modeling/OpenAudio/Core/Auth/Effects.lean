import OpenAudio.Core.Auth.Agreement
import OpenAudio.Core.Auth.Projection
import OpenAudio.Core.Auth.Invariant

/-!
# What a transaction does to the auth tables

`AuthStep` says once, for every row of the dispatch table, which facts a live transaction that
passes has established about the tables it found and which rows it sets. The invariants of runs
follow from it.
-/

namespace OpenAudio.Core

open Prog AuthStore

/-! ### The projection -/

/-- The signer may act for the user, as `validateAuthSigner` judges it on the store. -/
def SignerAuthorized {σ : Type} [AuthStore σ] (rt : GoRuntime) (s : σ) (userId : Int)
    (signer : String) : Prop :=
  (validateAuthSigner rt userId signer s).1 = .ok ()

/-- Run the projection over the transactions in order; one that is refused is skipped. -/
def projectAll {σ : Type} [AuthStore σ] (rt : GoRuntime) (rules : Rules) :
    List AuthTx → σ → List (Except AuthError Unit) × σ
  | [], s => ([], s)
  | tx :: txs, s =>
    let r := applyAuthProjection rt tx rules s
    let rest := projectAll rt rules txs r.2
    (r.1 :: rest.1, rest.2)

/-- The transaction dispatches on the entity type and the action. -/
def AuthTx.Is (rt : GoRuntime) (tx : AuthTx) (e : AuthEntityType) (a : AuthAction) : Prop :=
  canonicalAuthEntityType rt tx.entityType = some e ∧ canonicalAuthAction rt tx.action = some a

instance (rt : GoRuntime) (tx : AuthTx) (e : AuthEntityType) (a : AuthAction) :
    Decidable (tx.Is rt e a) := inferInstanceAs (Decidable (_ ∧ _))

def aliceRow : AuthUserRecord := ⟨⟨"0xa1", by decide⟩, some ⟨"alice", by decide⟩, false⟩

def aliceDb : Db :=
  { Db.empty with auth := { Db.empty.auth with users := AList.insert 1 aliceRow ∅ } }

/-! ### Facts about the tables -/

namespace AuthTables

variable (S : AuthTables)

def HasWallet (w : PgText) : Prop := ∃ id u, S.users.lookup id = some u ∧ u.wallet = w

def ActiveWallet (w : PgText) : Prop :=
  ∃ id u, S.users.lookup id = some u ∧ u.wallet = w ∧ u.isDeactivated = false

/-- The address is a developer app that is not deleted. -/
def LiveApp (a : PgText) : Prop := ∃ r, S.apps.lookup a = some r ∧ r.isDeleted = false

def HandleTaken (h : PgText) : Prop := ∃ id u, S.users.lookup id = some u ∧ u.handleLc = some h

def CidClaimed (c : PgText) : Prop := ∃ id, (S.cids.lookup (c, id)).isSome = true

/-- The address holds a grant of the user that lets it sign: the grant is not revoked and the
address is a live app, or an active user whose grant was approved. -/
structure HoldsGrant (userId : Int) (g : PgText) : Prop where
  nonempty : g.val ≠ ""
  row : ∃ r, S.grants.lookup (g, userId) = some r ∧ r.isRevoked = false ∧
    (S.LiveApp g ∨ (S.ActiveWallet g ∧ r.isApproved = some true))

/-- The signer may act for the user: it is the user's wallet, or holds a grant of the user. -/
def Authorizes (rt : GoRuntime) (userId : Int) (signer : String) : Prop :=
  ∃ u, S.users.lookup userId = some u ∧ u.wallet.val ≠ "" ∧
    (rt.equalFold u.wallet.val signer = true ∨
      ∃ g : PgText, g.val = rt.toLower signer ∧ S.HoldsGrant userId g)

theorem ActiveWallet.hasWallet {S : AuthTables} {w : PgText} (h : S.ActiveWallet w) :
    S.HasWallet w := by
  obtain ⟨id, u, hu, hw, -⟩ := h
  exact ⟨id, u, hu, hw⟩

/-! ### What an answer says about the tables -/

variable {S}

theorem getGrant_eq_ok {g : String} {id : Int} {r : Option AuthGrantRow}
    (h : S.getGrant g id = .ok r) :
    ∃ p : PgText, p.val = g ∧ r = (S.grants.lookup (p, id)).map (·.row) := by
  obtain ⟨p, hp, hr⟩ := except_bind_eq_ok.mp h
  cases hr
  exact ⟨p, PgText.val_of_ofString hp, rfl⟩

theorem getApp_eq_ok {a : String} {r : Option AuthAppRow} (h : S.getApp a = .ok r) :
    ∃ p : PgText, p.val = a ∧ r = (S.apps.lookup p).map (·.row) := by
  obtain ⟨p, hp, hr⟩ := except_bind_eq_ok.mp h
  cases hr
  exact ⟨p, PgText.val_of_ofString hp, rfl⟩

theorem getEntity_eq_ok {e : String} {id : Int} {r : Option AuthEntityRow}
    (h : S.getEntity e id = .ok r) :
    ∃ p : PgText, p.val = e ∧ r = (S.entities.lookup (p, id)).map (·.row) := by
  obtain ⟨p, hp, hr⟩ := except_bind_eq_ok.mp h
  cases hr
  exact ⟨p, PgText.val_of_ofString hp, rfl⟩

theorem any_live_iff {p : PgText} :
    (((S.apps.lookup p).map (·.row)).any fun a => !a.deleted) = true ↔ S.LiveApp p := by
  unfold LiveApp
  cases hr : S.apps.lookup p with
  | none => simp
  | some r => simp [AuthAppRecord.row]

theorem any_live_eq_false_iff {p : PgText} :
    (((S.apps.lookup p).map (·.row)).any fun a => !a.deleted) = false ↔ ¬ S.LiveApp p := by
  rw [← any_live_iff, Bool.not_eq_true]

theorem walletExists_eq_ok {w : String} {b : Bool} (h : S.walletExists w = .ok b) :
    ∃ p : PgText, p.val = w ∧ (b = true ↔ S.HasWallet p) := by
  obtain ⟨p, hp, hb⟩ := except_bind_eq_ok.mp h
  cases hb
  refine ⟨p, PgText.val_of_ofString hp, ?_⟩
  simp [Table.any_iff, HasWallet]

theorem activeWalletExists_eq_ok {w : String} {b : Bool} (h : S.activeWalletExists w = .ok b) :
    ∃ p : PgText, p.val = w ∧ (b = true ↔ S.ActiveWallet p) := by
  obtain ⟨p, hp, hb⟩ := except_bind_eq_ok.mp h
  cases hb
  refine ⟨p, PgText.val_of_ofString hp, ?_⟩
  simp [Table.any_iff, ActiveWallet]

theorem handleExists_eq_ok {l : String} {b : Bool} (h : S.handleExists l = .ok b) :
    ∃ p : PgText, p.val = l ∧ (b = true ↔ S.HandleTaken p) := by
  obtain ⟨p, hp, hb⟩ := except_bind_eq_ok.mp h
  cases hb
  refine ⟨p, PgText.val_of_ofString hp, ?_⟩
  simp [Table.any_iff, HandleTaken]

theorem cidIsClaimed_eq_ok {c : String} {b : Bool} (h : S.cidIsClaimed c = .ok b) :
    ∃ p : PgText, p.val = c ∧ (b = true ↔ S.CidClaimed p) := by
  obtain ⟨p, hp, hb⟩ := except_bind_eq_ok.mp h
  cases hb
  refine ⟨p, PgText.val_of_ofString hp, ?_⟩
  simp only [Table.any_iff, CidClaimed, Option.isSome_iff_exists]
  constructor
  · rintro ⟨⟨c', id⟩, row, hrow, hc⟩
    have hc : c' = p := by simpa using hc
    subst hc
    exact ⟨id, row, hrow⟩
  · rintro ⟨id, row, hrow⟩
    exact ⟨(p, id), row, hrow, by simp⟩

theorem getUserIDByWallet_eq_ok {w : String} {id : Int}
    (h : S.getUserIDByWallet w = .ok (some id)) :
    ∃ p u, p.val = w ∧ S.users.lookup id = some u ∧ u.wallet = p ∧ u.isDeactivated = false := by
  obtain ⟨p, hp, hleast⟩ := except_bind_eq_ok.mp h
  have hleast : (S.users.leastKey fun _ u => u.wallet == p && !u.isDeactivated) = some id := by
    simpa [pure, Except.pure] using hleast
  obtain ⟨⟨u, hu, hmatch⟩, -⟩ := (Table.leastKey_eq_some_iff _ _ _).mp hleast
  have hmatch : u.wallet = p ∧ u.isDeactivated = false := by simpa using hmatch
  exact ⟨p, u, PgText.val_of_ofString hp, hu, hmatch.1, hmatch.2⟩

end AuthTables

def AuthTables.store (S : AuthTables) : Txn Db := Txn.begin { Db.empty with auth := S }

/-! ### Peeling the block's transaction -/

section Peel

variable {α β : Type} {t t' : Txn Db}

theorem authQuery_eq_ok {q : AuthTables → Except PgError α} {a : α}
    (h : authQuery q t = (.ok a, t')) : t.aborted = false ∧ q t.view.auth = .ok a ∧ t' = t := by
  have hexec := mapError_eq_ok h
  by_cases hlive : t.aborted = true
  · rw [Txn.exec_of_aborted _ hlive] at hexec
    simp at hexec
  · rw [Bool.not_eq_true] at hlive
    cases hq : q t.view.auth with
    | error e =>
      rw [Txn.exec_of_error (e := e) hlive (by rw [hq]; rfl)] at hexec
      simp at hexec
    | ok b =>
      rw [Txn.exec_of_ok (a := b) (d := t.view) hlive (by rw [hq]; rfl)] at hexec
      simp only [Prod.mk.injEq, Except.ok.injEq] at hexec
      obtain ⟨rfl, rfl⟩ := hexec
      refine ⟨hlive, rfl, ?_⟩
      rw [← hlive]

theorem authQuery_of_ok {q : AuthTables → Except PgError α} {a : α} (hlive : t.aborted = false)
    (hq : q t.view.auth = .ok a) : authQuery q t = (.ok a, t) := by
  have hexec : Txn.exec (fun db : Db => (q db.auth).map fun a => (a, db)) t = (.ok a, t) := by
    rw [Txn.exec_of_ok (a := a) (d := t.view) hlive (by rw [hq]; rfl), ← hlive]
  rw [authQuery, mapError, hexec]
  rfl

theorem authQuery_bind_eq_ok {q : AuthTables → Except PgError α}
    {f : α → Prog (Txn Db) AuthError β} {b : β} (h : (authQuery q >>= f) t = (.ok b, t')) :
    ∃ a, q t.view.auth = .ok a ∧ f a t = (.ok b, t') := by
  obtain ⟨a, t₁, hq, hf⟩ := bind_eq_ok h
  obtain ⟨-, hq, rfl⟩ := authQuery_eq_ok hq
  exact ⟨a, hq, hf⟩

theorem authWrite_eq_ok {w : AuthTables → Except PgError AuthTables} {u : Unit}
    (h : authWrite w t = (.ok u, t')) :
    ∃ S, w t.view.auth = .ok S ∧ t' = ⟨{ t.view with auth := S }, false⟩ := by
  have hexec := mapError_eq_ok h
  by_cases hlive : t.aborted = true
  · rw [Txn.exec_of_aborted _ hlive] at hexec
    simp at hexec
  · rw [Bool.not_eq_true] at hlive
    cases hw : w t.view.auth with
    | error e =>
      rw [Txn.exec_of_error (e := e) hlive (by rw [hw]; rfl)] at hexec
      simp at hexec
    | ok S =>
      rw [Txn.exec_of_ok (a := ()) (d := { t.view with auth := S }) hlive (by rw [hw]; rfl)] at hexec
      simp only [Prod.mk.injEq] at hexec
      exact ⟨S, rfl, hexec.2.symm⟩

theorem invalidIf_bind_eq_ok {c : Prop} [Decidable c] {msg : String}
    {f : Unit → Prog (Txn Db) AuthError β} {b : β}
    (h : (invalidIf c msg >>= f) t = (.ok b, t')) : ¬ c ∧ f () t = (.ok b, t') :=
  rejectIf_bind_eq_ok h

theorem invalidIf_of_not {σ : Type} {s : σ} {c : Prop} [Decidable c] (hc : ¬ c) (msg : String) :
    (invalidIf c msg : Prog σ AuthError Unit) s = (.ok (), s) := by
  rw [invalidIf, rejectIf_apply, if_neg hc]

end Peel

/-! ### Signers -/

section Signer

variable {rt : GoRuntime} {t t' : Txn Db} {userId : Int} {signer : String}

theorem validateGrantedSigner_eq_ok (h : validateGrantedSigner rt userId signer t = (.ok (), t')) :
    t' = t ∧ ∃ g : PgText, g.val = rt.toLower signer ∧ t.view.auth.HoldsGrant userId g := by
  unfold validateGrantedSigner at h
  obtain ⟨hne, h⟩ := invalidIf_bind_eq_ok h
  obtain ⟨row, hrow, h⟩ := authQuery_bind_eq_ok h
  obtain ⟨g, hg, rfl⟩ := AuthTables.getGrant_eq_ok hrow
  obtain ⟨hrevoked, h⟩ := invalidIf_bind_eq_ok h
  obtain ⟨app, happ, h⟩ := authQuery_bind_eq_ok h
  obtain ⟨g', hg', rfl⟩ := AuthTables.getApp_eq_ok happ
  obtain rfl : g' = g := PgText.ext (hg'.trans hg.symm)
  obtain ⟨isUser, huser, h⟩ := authQuery_bind_eq_ok h
  obtain ⟨g'', hg'', hactive⟩ := AuthTables.activeWalletExists_eq_ok huser
  obtain rfl : g'' = g' := PgText.ext (hg''.trans hg.symm)
  obtain ⟨hvalid, h⟩ := invalidIf_bind_eq_ok h
  obtain ⟨happroved, rfl⟩ := rejectIf_eq_ok h
  refine ⟨rfl, g'', hg, hg ▸ hne, ?_⟩
  cases hr : t'.view.auth.grants.lookup (g'', userId) with
  | none => simp [hr] at hrevoked
  | some r =>
    refine ⟨r, rfl, by simpa [hr, AuthGrantRecord.row] using hrevoked, ?_⟩
    by_cases hlive : t'.view.auth.LiveApp g''
    · exact .inl hlive
    · rw [AuthTables.any_live_eq_false_iff.mpr hlive] at hvalid happroved
      have hu : isUser = true := by simpa using hvalid
      have ha : r.isApproved = some true := by
        simpa [hr, AuthGrantRecord.row] using happroved
      exact .inr ⟨hactive.mp hu, ha⟩

theorem validateGrantedSigner_of_holdsGrant (hlive : t.aborted = false) {g : PgText}
    (hg : g.val = rt.toLower signer) (h : t.view.auth.HoldsGrant userId g) :
    validateGrantedSigner rt userId signer t = (.ok (), t) := by
  obtain ⟨hne, r, hr, hrevoked, hvalid⟩ := h
  have hnul : NulFree g.val := g.nulFree
  have happ : (((t.view.auth.apps.lookup g).map (·.row)).any fun a => !a.deleted) = true ∨
      ((t.view.auth.users.any fun _ u => u.row.wallet == g.val && !u.row.deactivated) = true ∧
        r.isApproved = some true) := by
    rcases hvalid with happ | ⟨⟨id, u, hu, hw, hd⟩, ha⟩
    · exact .inl (AuthTables.any_live_iff.mpr happ)
    · refine .inr ⟨(Table.any_iff _ _).mpr ⟨id, u, hu, ?_⟩, ha⟩
      simp [AuthUserRecord.row, hw, hd]
  unfold validateGrantedSigner
  rw [← hg]
  refine (bind_of_ok (invalidIf_of_not hne _)).trans ?_
  refine (bind_of_ok (authQuery_of_ok hlive
    (t.view.auth.getGrant_of_nulFree hnul userId))).trans ?_
  rw [hr]
  refine (bind_of_ok (invalidIf_of_not (by simp [AuthGrantRecord.row, hrevoked]) _)).trans ?_
  refine (bind_of_ok (authQuery_of_ok hlive (t.view.auth.getApp_of_nulFree hnul))).trans ?_
  refine (bind_of_ok (authQuery_of_ok hlive
    (t.view.auth.activeWalletExists_of_nulFree hnul))).trans ?_
  refine (bind_of_ok (invalidIf_of_not ?_ _)).trans (invalidIf_of_not ?_ _)
  · rintro ⟨hnone, hnu⟩
    rcases happ with happ | ⟨hu, -⟩
    · exact absurd (happ.symm.trans hnone) (by simp)
    · exact absurd (hu.symm.trans hnu) (by simp)
  · rintro ⟨hnone, hna⟩
    rcases happ with happ | ⟨-, ha⟩
    · exact absurd (happ.symm.trans hnone) (by simp)
    · exact hna ha

theorem validateAuthSigner_eq_ok (h : validateAuthSigner rt userId signer t = (.ok (), t')) :
    t' = t ∧ t.view.auth.Authorizes rt userId signer := by
  unfold validateAuthSigner at h
  obtain ⟨found, hfound, h⟩ := authQuery_bind_eq_ok h
  simp only [Except.ok.injEq] at hfound
  subst hfound
  unfold AuthTables.getUser at h
  cases hu : t.view.auth.users.lookup userId with
  | none =>
    rw [hu] at h
    cases h
  | some u =>
    rw [hu] at h
    obtain ⟨hwallet, h⟩ := invalidIf_bind_eq_ok h
    by_cases hfold : rt.equalFold u.row.wallet signer = true
    · simp only [hfold, if_true] at h
      cases h
      exact ⟨rfl, u, hu, hwallet, .inl hfold⟩
    · simp only [hfold] at h
      obtain ⟨rfl, g, hg, hholds⟩ := validateGrantedSigner_eq_ok h
      exact ⟨rfl, u, hu, hwallet, .inr ⟨g, hg, hholds⟩⟩

theorem validateAuthSigner_of_authorizes (hlive : t.aborted = false)
    (h : t.view.auth.Authorizes rt userId signer) :
    validateAuthSigner rt userId signer t = (.ok (), t) := by
  obtain ⟨u, hu, hwallet, hsigner⟩ := h
  have hget : (fun S : AuthTables => (.ok (S.getUser userId) : Except PgError _)) t.view.auth =
      .ok (some u.row) := by
    simp [AuthTables.getUser, hu]
  unfold validateAuthSigner
  refine (bind_of_ok (authQuery_of_ok hlive hget)).trans ?_
  refine (bind_of_ok (invalidIf_of_not hwallet _)).trans ?_
  by_cases hfold : rt.equalFold u.row.wallet signer = true
  · rw [if_pos hfold]
    rfl
  · rw [if_neg hfold]
    rcases hsigner with hown | ⟨g, hg, hholds⟩
    · exact absurd hown hfold
    · exact validateGrantedSigner_of_holdsGrant hlive hg hholds

theorem signerAuthorized_iff (hlive : t.aborted = false) :
    SignerAuthorized rt t userId signer ↔ t.view.auth.Authorizes rt userId signer := by
  constructor
  · intro h
    exact (validateAuthSigner_eq_ok (Prod.ext h rfl)).2
  · intro h
    rw [SignerAuthorized, validateAuthSigner_of_authorizes hlive h]

theorem validateAuthSigner_bind_eq_ok {β : Type} {f : Unit → Prog (Txn Db) AuthError β} {b : β}
    (h : (validateAuthSigner rt userId signer >>= f) t = (.ok b, t')) :
    t.view.auth.Authorizes rt userId signer ∧ f () t = (.ok b, t') := by
  obtain ⟨_, t₁, hsigner, hrest⟩ := bind_eq_ok h
  obtain ⟨rfl, hauth⟩ := validateAuthSigner_eq_ok hsigner
  exact ⟨hauth, hrest⟩

end Signer

/-! ### Claims -/

/-- Nothing but claims changes; claims stay, and a new one is the writer's, on a cid nobody held,
while first assertions are recorded. -/
structure ClaimsOnly (rules : Rules) (tx : AuthTx) (S S' : AuthTables) : Prop where
  others : S' = { S with cids := S'.cids }
  kept : ∀ k h, S.cids.lookup k = some h → S'.cids.lookup k = some h
  new : ∀ c id, S.cids.lookup (c, id) = none → (S'.cids.lookup (c, id)).isSome = true →
    id = tx.userId ∧ ¬ S.CidClaimed c ∧ rules.contentAuthEnforced = true ∧
      rules.contentAuthStrict = false

namespace ClaimsOnly

variable {rules : Rules} {tx : AuthTx} {S S₁ S' : AuthTables}

theorem refl (rules : Rules) (tx : AuthTx) (S : AuthTables) : ClaimsOnly rules tx S S where
  others := rfl
  kept _ _ h := h
  new c id hnone hsome := by simp [hnone] at hsome

theorem not_claimed (h : ClaimsOnly rules tx S S₁) {c : PgText} (hc : ¬ S₁.CidClaimed c) :
    ¬ S.CidClaimed c := by
  rintro ⟨id, hid⟩
  obtain ⟨row, hrow⟩ := Option.isSome_iff_exists.mp hid
  exact hc ⟨id, by simp [h.kept _ _ hrow]⟩

theorem trans (h : ClaimsOnly rules tx S S₁) (h' : ClaimsOnly rules tx S₁ S') :
    ClaimsOnly rules tx S S' where
  others := by
    rw [h'.others, h.others]
  kept k row hrow := h'.kept k row (h.kept k row hrow)
  new c id hnone hsome := by
    cases hmid : S₁.cids.lookup (c, id) with
    | none =>
      obtain ⟨hid, hfree, hwindow⟩ := h'.new c id hmid hsome
      exact ⟨hid, h.not_claimed hfree, hwindow⟩
    | some row => exact h.new c id hnone (by simp [hmid])

end ClaimsOnly

instance (rules : Rules) (tx : AuthTx) : IsPreorder AuthTables (ClaimsOnly rules tx) where
  refl := ClaimsOnly.refl rules tx
  trans _ _ _ := ClaimsOnly.trans

/-- `Q` holds between the auth tables of the views. -/
def OnAuth (Q : AuthTables → AuthTables → Prop) (t t' : Txn Db) : Prop := Q t.view.auth t'.view.auth

instance (Q : AuthTables → AuthTables → Prop) [IsPreorder AuthTables Q] :
    IsPreorder (Txn Db) (OnAuth Q) where
  refl t := refl t.view.auth
  trans _ _ _ h₁ h₂ := IsTrans.trans (r := Q) _ _ _ h₁ h₂

section OnAuth

variable {Q : AuthTables → AuthTables → Prop} [IsPreorder AuthTables Q]

theorem authQuery_view {α : Type} (q : AuthTables → Except PgError α) (t : Txn Db) :
    (authQuery q t).2.view = t.view := by
  have h := Txn.exec_query_view (fun db : Db => q db.auth) t
  exact h

theorem keeps_authQuery {α : Type} (q : AuthTables → Except PgError α) :
    Keeps (OnAuth Q) (authQuery q) := by
  intro t
  rw [OnAuth, authQuery_view]
  exact refl _

theorem onAuth_authWrite {w : AuthTables → Except PgError AuthTables} {t : Txn Db}
    (h : ∀ S', w t.view.auth = .ok S' → Q t.view.auth S') : OnAuth Q t (authWrite w t).2 := by
  match hrun : authWrite w t with
  | (.ok u, t') =>
    obtain ⟨S', hw, rfl⟩ := authWrite_eq_ok hrun
    exact h S' hw
  | (.error e, t') =>
    -- a failed write leaves the view alone
    have hview : (authWrite w t).2.view = t.view := by
      unfold authWrite mapError Txn.exec at hrun ⊢
      by_cases ha : t.aborted = true
      · simp [ha]
      · cases hw : w t.view.auth with
        | error e' => simp [ha, hw, Except.map]
        | ok S' => simp [ha, hw, Except.map, Except.mapError] at hrun
    rw [hrun] at hview
    rw [OnAuth, hview]
    exact refl _

end OnAuth

theorem insertCid_claimsOnly {rules : Rules} {tx : AuthTx} {S S' : AuthTables} {c : PgText}
    (hfree : ¬ S.CidClaimed c) (hon : rules.contentAuthEnforced = true)
    (hlax : rules.contentAuthStrict = false)
    (h : S.insertCid c.val tx.userId "" = .ok S') : ClaimsOnly rules tx S S' := by
  rw [S.insertCid_of_nulFree c.nulFree nulFree_empty, Except.ok.injEq] at h
  subst h
  have hlookup : ∀ k, (S.cids.insertNew (c, tx.userId) ⟨"", nulFree_empty⟩).lookup k =
      if k = (c, tx.userId) then some ((S.cids.lookup (c, tx.userId)).getD ⟨"", nulFree_empty⟩)
      else S.cids.lookup k := fun k => Table.lookup_insertNew _ _ _ _
  refine ⟨rfl, fun k row hrow => ?_, fun c' id hnone hsome => ?_⟩
  · rw [hlookup k]
    by_cases hk : k = (c, tx.userId)
    · subst hk
      simp [hrow]
    · simp [hk, hrow]
  · by_cases hk : (c', id) = (c, tx.userId)
    · simp only [Prod.mk.injEq] at hk
      obtain ⟨rfl, rfl⟩ := hk
      exact ⟨rfl, hfree, hon, hlax⟩
    · rw [hlookup, if_neg hk, hnone] at hsome
      simp at hsome

theorem keeps_assertCid {rules : Rules} (tx : AuthTx) (hon : rules.contentAuthEnforced = true)
    (hlax : rules.contentAuthStrict = false) (cid : String) :
    Keeps (OnAuth (ClaimsOnly rules tx)) (do
      let known ← cidIsClaimed cid
      if known then pure () else insertCid cid tx.userId "" : Prog (Txn Db) AuthError Unit) := by
  intro t
  match hread : (cidIsClaimed cid : Prog (Txn Db) AuthError Bool) t with
  | (.error e, t') =>
    have hkeep := keeps_authQuery (Q := ClaimsOnly rules tx) (·.cidIsClaimed cid) t
    change OnAuth _ t (cidIsClaimed cid t).2 at hkeep
    rw [bind_of_error hread]
    rwa [hread] at hkeep
  | (.ok known, t') =>
    obtain ⟨-, hknown, rfl⟩ := authQuery_eq_ok hread
    rw [bind_of_ok hread]
    obtain ⟨c, hc, hclaimed⟩ := AuthTables.cidIsClaimed_eq_ok hknown
    by_cases hb : known = true
    · rw [if_pos hb]
      exact refl t'
    · rw [if_neg hb, ← hc]
      have hfree : ¬ t'.view.auth.CidClaimed c := fun h => hb (hclaimed.mpr h)
      exact onAuth_authWrite fun S' hw => insertCid_claimsOnly hfree hon hlax hw

theorem keeps_projectAssertedTrackCids (rules : Rules) (tx : AuthTx) :
    Keeps (OnAuth (ClaimsOnly rules tx))
      (projectAssertedTrackCids tx rules : Prog (Txn Db) AuthError Unit) := by
  unfold projectAssertedTrackCids
  by_cases hoff : tx.migration = true ∨ rules.contentAuthEnforced = false ∨
      rules.contentAuthStrict = true ∨ tx.entityType ≠ AuthEntityType.track.text
  · rw [if_pos hoff]
    exact keeps_pure ()
  · rw [if_neg hoff]
    simp only [not_or, Bool.not_eq_false, Bool.not_eq_true] at hoff
    apply Keeps.forEach
    intro key
    exact .ite (keeps_pure ()) (keeps_assertCid tx hoff.2.1 hoff.2.2.1 _)

/-! ### The steps -/

def projectedPairs : List (AuthEntityType × AuthAction) :=
  [(.user, .create), (.user, .update), (.track, .create), (.playlist, .create), (.track, .update),
    (.track, .delete), (.playlist, .delete), (.grant, .create), (.grant, .delete),
    (.grant, .approve), (.grant, .reject), (.developerApp, .create), (.developerApp, .delete)]

/-- What a live transaction that passes found in the tables `S`, and the tables it leaves. -/
inductive AuthStep (rt : GoRuntime) (rules : Rules) (tx : AuthTx) (S : AuthTables) :
    AuthTables → Prop
  /-- a pair the projection does not track, or a track update outside the window -/
  | idle (his : ∀ e a, tx.Is rt e a → (e, a) = (.track, .update) ∨ (e, a) ∉ projectedPairs) :
      AuthStep rt rules tx S S
  | userCreate {w : PgText} {handle : Option PgText} {users : Table Int AuthUserRecord}
      (his : tx.Is rt .user .create) (habsent : S.users.lookup tx.userId = none)
      (hw : w.val = rt.toLower tx.signer) (hne : w.val ≠ "") (hfree : ¬ S.HasWallet w)
      (happ : ¬ S.LiveApp w)
      (hhandle : ∀ h, handle = some h →
        h.val = rt.toLower (tx.metaString "handle") ∧ h.val ≠ "" ∧ ¬ S.HandleTaken h)
      (hset : S.users.Sets users tx.userId
        ⟨w, handle, tx.metaBoolOr "is_deactivated" false⟩) :
      AuthStep rt rules tx S { S with users := users }
  | userUpdate {u u' : AuthUserRecord} {users : Table Int AuthUserRecord}
      (his : tx.Is rt .user .update) (hauth : S.Authorizes rt tx.userId tx.signer)
      (hu : S.users.lookup tx.userId = some u) (hwallet : u'.wallet = u.wallet)
      (hhandle : u'.handleLc = u.handleLc ∨ ∃ h, u'.handleLc = some h ∧
        h.val = rt.toLower (tx.metaString "handle") ∧ h.val ≠ "")
      (hset : S.users.Sets users tx.userId u') :
      AuthStep rt rules tx S { S with users := users }
  | entityCreate {ty : AuthEntityType} {e : PgText} {S' : AuthTables}
      {entities : Table (PgText × Int) AuthEntityRecord}
      (his : tx.Is rt ty .create) (hty : ty = .track ∨ ty = .playlist)
      (hauth : S.Authorizes rt tx.userId tx.signer) (he : e.val = ty.text)
      (habsent : S.entities.lookup (e, tx.entityId) = none)
      (hset : S.entities.Sets entities (e, tx.entityId) ⟨tx.userId, false⟩)
      (hclaims : ClaimsOnly rules tx { S with entities := entities } S') :
      AuthStep rt rules tx S S'
  | trackUpdate {S' : AuthTables} (his : tx.Is rt .track .update)
      (hauth : S.Authorizes rt tx.userId tx.signer) (hclaims : ClaimsOnly rules tx S S') :
      AuthStep rt rules tx S S'
  | entityDelete {ty : AuthEntityType} {e : PgText} {r : AuthEntityRecord}
      {entities : Table (PgText × Int) AuthEntityRecord}
      (his : tx.Is rt ty .delete) (hty : ty = .track ∨ ty = .playlist)
      (hauth : S.Authorizes rt tx.userId tx.signer) (he : e.val = ty.text)
      (hr : S.entities.lookup (e, tx.entityId) = some r) (howner : r.ownerUserId = tx.userId)
      (hset : S.entities.Sets entities (e, tx.entityId) ⟨tx.userId, true⟩) :
      AuthStep rt rules tx S { S with entities := entities }
  | grantCreate {g : PgText} {approved : Option Bool}
      {grants : Table (PgText × Int) AuthGrantRecord}
      (his : tx.Is rt .grant .create) (hauth : S.Authorizes rt tx.userId tx.signer)
      (hg : g.val = rt.toLower (tx.metaString "grantee_address")) (hne : g.val ≠ "")
      (hgrantee : (S.LiveApp g ∧ approved = some true) ∨
        (¬ S.LiveApp g ∧ S.HasWallet g ∧ approved = none))
      (hnone : ∀ r, S.grants.lookup (g, tx.userId) = some r → r.isRevoked = true)
      (hset : S.grants.Sets grants (g, tx.userId) ⟨approved, false⟩) :
      AuthStep rt rules tx S { S with grants := grants }
  | grantDelete {g : PgText} {r : AuthGrantRecord}
      {grants : Table (PgText × Int) AuthGrantRecord}
      (his : tx.Is rt .grant .delete)
      (hg : g.val = rt.toLower (tx.metaString "grantee_address")) (hne : g.val ≠ "")
      (hr : S.grants.lookup (g, tx.userId) = some r) (hopen : r.isRevoked = false)
      (hauth : S.Authorizes rt tx.userId tx.signer ∨ ∃ id u, S.users.lookup id = some u ∧
        u.wallet = g ∧ u.isDeactivated = false ∧ S.Authorizes rt id tx.signer)
      (hset : S.grants.Sets grants (g, tx.userId) ⟨r.isApproved, true⟩) :
      AuthStep rt rules tx S { S with grants := grants }
  | grantDecide {approve : Bool} {g : PgText} {grantor : Int} {r : AuthGrantRecord}
      {grants : Table (PgText × Int) AuthGrantRecord}
      (his : tx.Is rt .grant (if approve then .approve else .reject))
      (hauth : S.Authorizes rt tx.userId tx.signer)
      (hg : g.val = rt.toLower (tx.metaString "grantee_address")) (hne : g.val ≠ "")
      (hgrantor : tx.metaInt64 rt "grantor_user_id" = some grantor)
      (hr : S.grants.lookup (g, grantor) = some r) (hopen : r.isRevoked = false)
      (hpending : r.isApproved ≠ some true)
      (hset : S.grants.Sets grants (g, grantor) ⟨some approve, !approve⟩) :
      AuthStep rt rules tx S { S with grants := grants }
  | appCreate {a : PgText} {apps : Table PgText AuthAppRecord}
      (his : tx.Is rt .developerApp .create) (hauth : S.Authorizes rt tx.userId tx.signer)
      (ha : a.val = rt.toLower (tx.metaString "address")) (hne : a.val ≠ "")
      (hfree : ¬ S.LiveApp a) (hwallet : ¬ S.HasWallet a)
      (hset : S.apps.Sets apps a ⟨tx.userId, false⟩) :
      AuthStep rt rules tx S { S with apps := apps }
  | appDelete {a : PgText} {r : AuthAppRecord} {apps : Table PgText AuthAppRecord}
      (his : tx.Is rt .developerApp .delete) (hauth : S.Authorizes rt tx.userId tx.signer)
      (ha : a.val = rt.toLower (tx.metaString "address")) (hne : a.val ≠ "")
      (hr : S.apps.lookup a = some r) (hlive : r.isDeleted = false)
      (howner : r.userId = tx.userId) (hset : S.apps.Sets apps a ⟨tx.userId, true⟩) :
      AuthStep rt rules tx S { S with apps := apps }

section Steps

variable {rt : GoRuntime} {rules : Rules} {tx : AuthTx} {t t' : Txn Db}

theorem insertUser_sets {S S' : AuthTables} {id : Int} {w l : String} {d : Bool}
    (habsent : S.users.lookup id = none) (h : S.insertUser id w l d = .ok S') :
    ∃ (p : PgText) (handle : Option PgText) (users : Table Int AuthUserRecord), p.val = w ∧
      (∀ q, handle = some q → q.val = l ∧ q.val ≠ "") ∧ S' = { S with users := users } ∧
      S.users.Sets users id ⟨p, handle, d⟩ := by
  obtain ⟨p, hp, h⟩ := except_bind_eq_ok.mp h
  obtain ⟨q, hq, h⟩ := except_bind_eq_ok.mp h
  cases h
  refine ⟨p, _, _, PgText.val_of_ofString hp, fun q' hq' => ?_, rfl,
    Table.sets_insertNew habsent _⟩
  by_cases hl : l = ""
  · simp [hl] at hq'
  · simp only [hl, if_false, Option.some.injEq] at hq'
    subst hq'
    rw [PgText.val_of_ofString hq]
    exact ⟨rfl, hl⟩

theorem validateNewUser_eq {w l : String} {u : Unit}
    (h : validateNewUser rt w l t = (.ok u, t')) :
    t' = t ∧ (∀ p : PgText, p.val = w → ¬ t.view.auth.HasWallet p ∧ ¬ t.view.auth.LiveApp p) ∧
      ∀ p : PgText, p.val = l → p.val ≠ "" → ¬ t.view.auth.HandleTaken p := by
  unfold validateNewUser at h
  obtain ⟨used, hused, h⟩ := authQuery_bind_eq_ok h
  obtain ⟨p, hp, hwallet⟩ := AuthTables.walletExists_eq_ok hused
  obtain ⟨hfree, h⟩ := invalidIf_bind_eq_ok h
  obtain ⟨app, happ, h⟩ := authQuery_bind_eq_ok h
  obtain ⟨p', hp', rfl⟩ := AuthTables.getApp_eq_ok happ
  obtain rfl : p' = p := PgText.ext (hp'.trans hp.symm)
  obtain ⟨hlive, h⟩ := invalidIf_bind_eq_ok h
  have hw : ∀ q : PgText, q.val = w → ¬ t.view.auth.HasWallet q ∧ ¬ t.view.auth.LiveApp q := by
    intro q hq
    obtain rfl : q = p' := PgText.ext (hq.trans hp.symm)
    exact ⟨fun h => hfree (hwallet.mpr h), fun h => hlive (AuthTables.any_live_iff.mpr h)⟩
  by_cases hl : l = ""
  · simp only [hl, if_true] at h
    cases h
    exact ⟨rfl, hw, fun q hq hne => absurd (hq.trans hl) hne⟩
  · simp only [hl, if_false] at h
    obtain ⟨taken, htaken, h⟩ := authQuery_bind_eq_ok h
    obtain ⟨p, hp, hhandle⟩ := AuthTables.handleExists_eq_ok htaken
    obtain ⟨hnot, rfl⟩ := rejectIf_eq_ok h
    refine ⟨rfl, hw, fun q hq _ hq' => hnot (hhandle.mpr ?_)⟩
    rwa [PgText.ext (hp.trans hq.symm)]

theorem authStep_userCreate (his : tx.Is rt .user .create) (hlive : tx.migration = false)
    (h : projectUserCreate rt tx t = (.ok (), t')) :
    AuthStep rt rules tx t.view.auth t'.view.auth := by
  unfold projectUserCreate at h
  obtain ⟨existing, hexisting, h⟩ := authQuery_bind_eq_ok h
  simp only [Except.ok.injEq] at hexisting
  subst hexisting
  obtain ⟨hnone, h⟩ := invalidIf_bind_eq_ok h
  obtain ⟨hne, h⟩ := invalidIf_bind_eq_ok h
  simp only [hlive, Bool.false_eq_true, if_false] at h
  obtain ⟨_, t₁, hnew, hinsert⟩ := bind_eq_ok h
  obtain ⟨rfl, hwallet, hfree⟩ := validateNewUser_eq hnew
  obtain ⟨S', hS', rfl⟩ := authWrite_eq_ok hinsert
  have habsent : t₁.view.auth.users.lookup tx.userId = none := by
    simpa [AuthTables.getUser] using hnone
  obtain ⟨w, handle, users, hw, hhandle, rfl, hset⟩ := insertUser_sets habsent hS'
  refine .userCreate his habsent hw (hw ▸ hne) (hwallet w hw).1 (hwallet w hw).2 ?_ hset
  intro q hq
  obtain ⟨hval, hq⟩ := hhandle q hq
  exact ⟨hval, hq, hfree q hval hq⟩

/-- The row of an update: another handle, if the metadata has one, and another flag. -/
structure UpdatesUser (rt : GoRuntime) (tx : AuthTx) (u u' : AuthUserRecord) : Prop where
  wallet : u'.wallet = u.wallet
  sameHandle : tx.metaString "handle" = "" → u'.handleLc = u.handleLc
  newHandle : tx.metaString "handle" ≠ "" →
    ∃ p, u'.handleLc = some p ∧ p.val = rt.toLower (tx.metaString "handle")
  flag : u'.isDeactivated = (tx.metaBool "is_deactivated").getD u.isDeactivated

/-- After the handle was set, if it was: the row has it, and the rest of the update goes on. -/
theorem updateHandle_eq_ok {u : AuthUserRecord} (rest : Prog (Txn Db) AuthError Unit)
    (hu : t.view.auth.users.lookup tx.userId = some u)
    (h : (do
      if tx.metaString "handle" = "" then pure ()
      else setUserHandle tx.userId (rt.toLower (tx.metaString "handle"))
      rest) t = (.ok (), t')) :
    ∃ (t₁ : Txn Db) (u₁ : AuthUserRecord) (users₁ : Table Int AuthUserRecord),
      rest t₁ = (.ok (), t') ∧ t₁.view.auth = { t.view.auth with users := users₁ } ∧
      t.view.auth.users.Sets users₁ tx.userId u₁ ∧ u₁.isDeactivated = u.isDeactivated ∧
      ∀ d, d = (tx.metaBool "is_deactivated").getD u.isDeactivated →
        UpdatesUser rt tx u { u₁ with isDeactivated := d } := by
  by_cases hempty : tx.metaString "handle" = ""
  · simp only [hempty, if_true] at h
    refine ⟨t, u, t.view.auth.users, h, rfl, Table.sets_self hu, rfl, fun d hd => ?_⟩
    exact ⟨rfl, fun _ => rfl, fun hne => absurd hempty hne, hd⟩
  · simp only [hempty, if_false] at h
    obtain ⟨_, t₁, hwrite, hrest⟩ := bind_eq_ok h
    obtain ⟨S₁, hS₁, rfl⟩ := authWrite_eq_ok hwrite
    obtain ⟨p, hp, hS₁⟩ := except_bind_eq_ok.mp hS₁
    cases hS₁
    refine ⟨_, { u with handleLc := some p }, _, hrest, rfl, Table.sets_update hu _,
      rfl, fun d hd => ?_⟩
    exact ⟨rfl, fun he => absurd he hempty, fun _ => ⟨p, rfl, PgText.val_of_ofString hp⟩, hd⟩

theorem projectUserUpdate_eq_ok (h : projectUserUpdate rt tx t = (.ok (), t')) :
    t.view.auth.Authorizes rt tx.userId tx.signer ∧
      ∃ (u u' : AuthUserRecord) (users : Table Int AuthUserRecord),
        t.view.auth.users.lookup tx.userId = some u ∧ UpdatesUser rt tx u u' ∧
        t'.view.auth = { t.view.auth with users := users } ∧
        t.view.auth.users.Sets users tx.userId u' := by
  unfold projectUserUpdate at h
  obtain ⟨hauth, h⟩ := validateAuthSigner_bind_eq_ok h
  obtain ⟨u, hu, -, -⟩ := id hauth
  refine ⟨hauth, u, ?_⟩
  cases hflag : tx.metaBool "is_deactivated" with
  | none =>
    rw [hflag] at h
    obtain ⟨t₁, u₁, users₁, h, hview, hset₁, hflag₁, hu₁⟩ := updateHandle_eq_ok (pure ()) hu h
    cases h
    exact ⟨u₁, users₁, hu, hu₁ u₁.isDeactivated (by rw [hflag, hflag₁]; rfl), hview, hset₁⟩
  | some d =>
    rw [hflag] at h
    obtain ⟨t₁, u₁, users₁, h, hview, hset₁, -, hu₁⟩ :=
      updateHandle_eq_ok (setUserDeactivated tx.userId d) hu h
    obtain ⟨S', hS', rfl⟩ := authWrite_eq_ok h
    rw [hview] at hS'
    cases hS'
    have hset₂ := Table.sets_update hset₁.lookup_self
      fun u : AuthUserRecord => { u with isDeactivated := d }
    exact ⟨_, _, hu, hu₁ d (by rw [hflag]; rfl), rfl, hset₁.trans hset₂⟩

theorem authStep_userUpdate (his : tx.Is rt .user .update)
    (h : projectUserUpdate rt tx t = (.ok (), t')) :
    AuthStep rt rules tx t.view.auth t'.view.auth := by
  obtain ⟨hauth, u, u', users, hu, hrow, hview, hset⟩ := projectUserUpdate_eq_ok h
  rw [hview]
  refine .userUpdate his hauth hu hrow.wallet ?_ hset
  by_cases hempty : tx.metaString "handle" = ""
  · exact .inl (hrow.sameHandle hempty)
  · obtain ⟨p, hp, hval⟩ := hrow.newHandle hempty
    refine .inr ⟨p, hp, hval, ?_⟩
    rw [hval, ne_eq, rt.toLower_eq_empty_iff]
    exact hempty

theorem projectEntityCreate_eq_ok {e : AuthEntityType} (hlive : tx.migration = false)
    (h : projectEntityCreate rt tx e t = (.ok (), t')) :
    t.view.auth.Authorizes rt tx.userId tx.signer ∧
      ∃ (p : PgText) (entities : Table (PgText × Int) AuthEntityRecord), p.val = e.text ∧
        t.view.auth.entities.lookup (p, tx.entityId) = none ∧
        t'.view.auth = { t.view.auth with entities := entities } ∧
        t.view.auth.entities.Sets entities (p, tx.entityId) ⟨tx.userId, false⟩ := by
  unfold projectEntityCreate at h
  obtain ⟨-, h⟩ := invalidIf_bind_eq_ok h
  obtain ⟨-, h⟩ := invalidIf_bind_eq_ok h
  obtain ⟨hauth, h⟩ := validateAuthSigner_bind_eq_ok h
  obtain ⟨existing, hexisting, h⟩ := authQuery_bind_eq_ok h
  obtain ⟨p, hp, rfl⟩ := AuthTables.getEntity_eq_ok hexisting
  obtain ⟨hnone, h⟩ := invalidIf_bind_eq_ok h
  obtain ⟨S', hS', rfl⟩ := authWrite_eq_ok h
  obtain ⟨p', hp', hS'⟩ := except_bind_eq_ok.mp hS'
  obtain rfl : p' = p := PgText.ext ((PgText.val_of_ofString hp').trans hp.symm)
  cases hS'
  have habsent : t.view.auth.entities.lookup (p', tx.entityId) = none := by simpa using hnone
  refine ⟨hauth, p', _, hp, habsent, rfl, ?_⟩
  simpa [hlive] using Table.sets_insertNew habsent (⟨tx.userId, false⟩ : AuthEntityRecord)

theorem authStep_create {e : AuthEntityType} (his : tx.Is rt e .create)
    (hty : e = .track ∨ e = .playlist) (hlive : tx.migration = false)
    (h : projectCreate rt tx rules e t = (.ok (), t')) :
    AuthStep rt rules tx t.view.auth t'.view.auth := by
  unfold projectCreate at h
  obtain ⟨_, t₁, hcreate, hclaims⟩ := bind_eq_ok h
  obtain ⟨hauth, p, entities, hp, habsent, hview, hset⟩ := projectEntityCreate_eq_ok hlive hcreate
  rw [projectMigratedTrackCids, if_pos (.inl hlive)] at hclaims
  obtain ⟨_, t₂, hpure, hclaims⟩ := bind_eq_ok hclaims
  cases hpure
  have hkeep := keeps_projectAssertedTrackCids rules tx t₁
  rw [hclaims, OnAuth, hview] at hkeep
  exact .entityCreate his hty hauth hp habsent hset hkeep

theorem authStep_trackUpdate (his : tx.Is rt .track .update)
    (h : projectTrackUpdate rt tx rules t = (.ok (), t')) :
    AuthStep rt rules tx t.view.auth t'.view.auth := by
  unfold projectTrackUpdate at h
  split at h
  · cases h
    refine .idle fun e a his' => .inl ?_
    rw [Prod.mk.injEq, Option.some.inj (his'.1.symm.trans his.1),
      Option.some.inj (his'.2.symm.trans his.2)]
    exact ⟨rfl, rfl⟩
  · obtain ⟨hauth, h⟩ := validateAuthSigner_bind_eq_ok h
    have hkeep := keeps_projectAssertedTrackCids rules tx t
    rw [h] at hkeep
    exact .trackUpdate his hauth hkeep

theorem authStep_entityDelete {e : AuthEntityType} (his : tx.Is rt e .delete)
    (hty : e = .track ∨ e = .playlist) (h : projectEntityDelete rt tx e t = (.ok (), t')) :
    AuthStep rt rules tx t.view.auth t'.view.auth := by
  unfold projectEntityDelete at h
  obtain ⟨hauth, h⟩ := validateAuthSigner_bind_eq_ok h
  obtain ⟨existing, hexisting, h⟩ := authQuery_bind_eq_ok h
  obtain ⟨p, hp, rfl⟩ := AuthTables.getEntity_eq_ok hexisting
  cases hr : t.view.auth.entities.lookup (p, tx.entityId) with
  | none =>
    rw [hr] at h
    cases h
  | some r =>
    rw [hr] at h
    obtain ⟨howner, h⟩ := invalidIf_bind_eq_ok h
    have howner : r.ownerUserId = tx.userId := by simpa [AuthEntityRecord.row] using howner
    obtain ⟨S', hS', rfl⟩ := authWrite_eq_ok h
    obtain ⟨p', hp', hS'⟩ := except_bind_eq_ok.mp hS'
    obtain rfl : p' = p := PgText.ext ((PgText.val_of_ofString hp').trans hp.symm)
    cases hS'
    refine .entityDelete his hty hauth hp hr howner ?_
    rw [← howner]
    exact Table.sets_update hr _

theorem upsertGrant_sets {S S' : AuthTables} {g : PgText} {id : Int} {approved : Option Bool}
    {revoked : Bool} (h : S.upsertGrant g.val id approved revoked = .ok S') :
    ∃ grants, S' = { S with grants := grants } ∧ S.grants.Sets grants (g, id) ⟨approved, revoked⟩ := by
  rw [S.upsertGrant_of_nulFree g.nulFree, Except.ok.injEq] at h
  subst h
  exact ⟨_, rfl, Table.sets_insert _ _ _⟩

theorem authStep_grantCreate (his : tx.Is rt .grant .create) (hlive : tx.migration = false)
    (h : projectGrantCreate rt tx t = (.ok (), t')) :
    AuthStep rt rules tx t.view.auth t'.view.auth := by
  unfold projectGrantCreate at h
  obtain ⟨hne, h⟩ := invalidIf_bind_eq_ok h
  obtain ⟨hauth, h⟩ := validateAuthSigner_bind_eq_ok h
  obtain ⟨app, happ, h⟩ := authQuery_bind_eq_ok h
  obtain ⟨g, hg, rfl⟩ := AuthTables.getApp_eq_ok happ
  simp only [hlive, Bool.false_eq_true, if_false] at h
  obtain ⟨isUser, huser, h⟩ := authQuery_bind_eq_ok h
  obtain ⟨g', hg', hwallet⟩ := AuthTables.walletExists_eq_ok huser
  obtain rfl : g' = g := PgText.ext (hg'.trans hg.symm)
  obtain ⟨hvalid, h⟩ := invalidIf_bind_eq_ok h
  obtain ⟨existing, hexisting, h⟩ := authQuery_bind_eq_ok h
  obtain ⟨g'', hg'', rfl⟩ := AuthTables.getGrant_eq_ok hexisting
  obtain rfl : g'' = g' := PgText.ext (hg''.trans hg.symm)
  obtain ⟨hactive, h⟩ := invalidIf_bind_eq_ok h
  obtain ⟨S', hS', rfl⟩ := authWrite_eq_ok h
  rw [← hg] at hS'
  obtain ⟨grants, rfl, hset⟩ := upsertGrant_sets hS'
  refine .grantCreate his hauth hg (hg ▸ hne) ?_ ?_ hset
  · by_cases happ : t.view.auth.LiveApp g''
    · exact .inl ⟨happ, if_pos (AuthTables.any_live_iff.mpr happ)⟩
    · have hfalse := AuthTables.any_live_eq_false_iff.mpr happ
      rw [hfalse] at hvalid
      have hu : isUser = true := by simpa using hvalid
      exact .inr ⟨happ, hwallet.mp hu, by rw [hfalse]; rfl⟩
  · intro r hr
    rw [hr] at hactive
    simpa [AuthGrantRecord.row] using hactive

theorem readsKeep_view : ReadsKeep (Same fun t : Txn Db => t.view) where
  getUser _ := authQuery_view _
  getUserIDByWallet _ := authQuery_view _
  walletExists _ := authQuery_view _
  activeWalletExists _ := authQuery_view _
  handleExists _ := authQuery_view _
  getGrant _ _ := authQuery_view _
  getApp _ := authQuery_view _
  getEntity _ _ := authQuery_view _
  isCidClaimedByUser _ _ := authQuery_view _
  cidIsClaimed _ := authQuery_view _

theorem signerAuthorized_eq_ok {id : Int} {signer : String}
    (h : signerAuthorized rt id signer t = (.ok true, t')) :
    t.view.auth.Authorizes rt id signer := by
  unfold signerAuthorized at h
  obtain ⟨r, t₁, hrun, hrest⟩ := bind_eq_ok h
  have hr : (validateAuthSigner rt id signer t).1 = r := Except.ok.inj (congrArg Prod.fst hrun)
  match r with
  | .ok () => exact (validateAuthSigner_eq_ok (Prod.ext hr rfl)).2
  | .error (.validation _) => cases hrest
  | .error (.store _) => cases hrest

theorem mayRevoke_eq_ok {g : PgText} (h : mayRevoke rt tx g.val t = (.ok true, t')) :
    t.view.auth.Authorizes rt tx.userId tx.signer ∨ ∃ id u, t.view.auth.users.lookup id = some u ∧
      u.wallet = g ∧ u.isDeactivated = false ∧ t.view.auth.Authorizes rt id tx.signer := by
  unfold mayRevoke at h
  obtain ⟨own, t₁, hown, hrest⟩ := bind_eq_ok h
  have hview : t₁.view = t.view := by
    have hkeep := readsKeep_view.signerAuthorized rt tx.userId tx.signer t
    rwa [hown] at hkeep
  cases own with
  | true => exact .inl (signerAuthorized_eq_ok hown)
  | false =>
    simp only [Bool.false_eq_true, if_false] at hrest
    obtain ⟨found, hfound, hrest⟩ := authQuery_bind_eq_ok hrest
    cases found with
    | none => cases hrest
    | some id =>
      obtain ⟨p, u, hp, hu, hwallet, hactive⟩ := AuthTables.getUserIDByWallet_eq_ok hfound
      have hauth := signerAuthorized_eq_ok hrest
      rw [hview] at hu hauth
      exact .inr ⟨id, u, hu, hwallet.trans (PgText.ext hp), hactive, hauth⟩

theorem authStep_grantDelete (his : tx.Is rt .grant .delete)
    (h : projectGrantDelete rt tx t = (.ok (), t')) :
    AuthStep rt rules tx t.view.auth t'.view.auth := by
  unfold projectGrantDelete at h
  obtain ⟨hne, h⟩ := invalidIf_bind_eq_ok h
  obtain ⟨existing, hexisting, h⟩ := authQuery_bind_eq_ok h
  obtain ⟨g, hg, rfl⟩ := AuthTables.getGrant_eq_ok hexisting
  obtain ⟨hopen, h⟩ := invalidIf_bind_eq_ok h
  cases hr : t.view.auth.grants.lookup (g, tx.userId) with
  | none => simp [hr] at hopen
  | some r =>
    rw [hr] at hopen h
    obtain ⟨authorized, t₁, hmay, hrest⟩ := bind_eq_ok h
    obtain ⟨hyes, hwrite⟩ := invalidIf_bind_eq_ok hrest
    rw [← hg] at hmay
    have hview : t₁.view = t.view := by
      have hkeep := readsKeep_view.mayRevoke rt tx g.val t
      rwa [hmay] at hkeep
    have hyes : authorized = true := by simpa using hyes
    subst hyes
    obtain ⟨S', hS', rfl⟩ := authWrite_eq_ok hwrite
    rw [← hg, hview] at hS'
    obtain ⟨grants, rfl, hset⟩ := upsertGrant_sets hS'
    exact .grantDelete his hg (hg ▸ hne) hr (by simpa [AuthGrantRecord.row] using hopen)
      (mayRevoke_eq_ok hmay) hset

theorem authStep_grantDecide {approve : Bool}
    (his : tx.Is rt .grant (if approve then .approve else .reject))
    (h : projectGrantApproveReject rt tx approve t = (.ok (), t')) :
    AuthStep rt rules tx t.view.auth t'.view.auth := by
  unfold projectGrantApproveReject at h
  obtain ⟨hne, h⟩ := invalidIf_bind_eq_ok h
  obtain ⟨hauth, h⟩ := validateAuthSigner_bind_eq_ok h
  cases hgrantor : tx.metaInt64 rt "grantor_user_id" with
  | none =>
    rw [hgrantor] at h
    cases h
  | some grantor =>
    rw [hgrantor] at h
    obtain ⟨existing, hexisting, h⟩ := authQuery_bind_eq_ok h
    obtain ⟨g, hg, rfl⟩ := AuthTables.getGrant_eq_ok hexisting
    cases hr : t.view.auth.grants.lookup (g, grantor) with
    | none =>
      rw [hr] at h
      cases h
    | some r =>
      rw [hr] at h
      obtain ⟨hopen, h⟩ := invalidIf_bind_eq_ok h
      obtain ⟨hpending, h⟩ := invalidIf_bind_eq_ok h
      obtain ⟨S', hS', rfl⟩ := authWrite_eq_ok h
      rw [← hg] at hS'
      obtain ⟨grants, rfl, hset⟩ := upsertGrant_sets hS'
      exact .grantDecide his hauth hg (hg ▸ hne) hgrantor hr
        (by simpa [AuthGrantRecord.row] using hopen) hpending hset

theorem authStep_appCreate (his : tx.Is rt .developerApp .create) (hlive : tx.migration = false)
    (h : projectAppCreate rt tx t = (.ok (), t')) :
    AuthStep rt rules tx t.view.auth t'.view.auth := by
  unfold projectAppCreate at h
  obtain ⟨hauth, h⟩ := validateAuthSigner_bind_eq_ok h
  obtain ⟨hne, h⟩ := invalidIf_bind_eq_ok h
  obtain ⟨existing, hexisting, h⟩ := authQuery_bind_eq_ok h
  obtain ⟨a, ha, rfl⟩ := AuthTables.getApp_eq_ok hexisting
  obtain ⟨hfree, h⟩ := invalidIf_bind_eq_ok h
  obtain ⟨used, hused, h⟩ := authQuery_bind_eq_ok h
  obtain ⟨a', ha', hwallet⟩ := AuthTables.walletExists_eq_ok hused
  rw [PgText.ext (ha'.trans ha.symm)] at hwallet
  obtain ⟨hunused, h⟩ := invalidIf_bind_eq_ok h
  obtain ⟨_, t₁, hwrite, hrest⟩ := bind_eq_ok h
  simp only [hlive, Bool.false_and, Bool.false_eq_true, if_false] at hrest
  cases hrest
  obtain ⟨S', hS', rfl⟩ := authWrite_eq_ok hwrite
  rw [← ha, AuthTables.upsertApp_of_nulFree _ a.nulFree, Except.ok.injEq] at hS'
  subst hS'
  exact .appCreate his hauth ha (ha ▸ hne) (fun h => hfree (AuthTables.any_live_iff.mpr h))
    (fun h => hunused (hwallet.mpr h)) (Table.sets_insert _ _ _)

theorem authStep_appDelete (his : tx.Is rt .developerApp .delete)
    (h : projectAppDelete rt tx t = (.ok (), t')) :
    AuthStep rt rules tx t.view.auth t'.view.auth := by
  unfold projectAppDelete at h
  obtain ⟨hauth, h⟩ := validateAuthSigner_bind_eq_ok h
  obtain ⟨hne, h⟩ := invalidIf_bind_eq_ok h
  obtain ⟨existing, hexisting, h⟩ := authQuery_bind_eq_ok h
  obtain ⟨a, ha, rfl⟩ := AuthTables.getApp_eq_ok hexisting
  cases hr : t.view.auth.apps.lookup a with
  | none =>
    rw [hr] at h
    cases h
  | some r =>
    rw [hr] at h
    obtain ⟨hdeleted, h⟩ := invalidIf_bind_eq_ok h
    obtain ⟨howner, h⟩ := invalidIf_bind_eq_ok h
    have howner : r.userId = tx.userId := by simpa [AuthAppRecord.row] using howner
    obtain ⟨S', hS', rfl⟩ := authWrite_eq_ok h
    rw [← ha, AuthTables.setAppDeleted_of_nulFree _ a.nulFree, Except.ok.injEq] at hS'
    subst hS'
    refine .appDelete his hauth ha (ha ▸ hne) hr (by simpa [AuthAppRecord.row] using hdeleted)
      howner ?_
    rw [← howner]
    exact Table.sets_update hr _

theorem authStep_of_ok (hlive : tx.migration = false)
    (h : applyAuthProjection rt tx rules t = (.ok (), t')) :
    AuthStep rt rules tx t.view.auth t'.view.auth := by
  generalize hrun : (applyAuthProjection rt tx rules : Prog (Txn Db) AuthError Unit) = run at h
  unfold applyAuthProjection at hrun
  -- one case for each row of the dispatch table, in its order
  split at hrun <;> subst hrun
  · exact authStep_userCreate ⟨‹_›, ‹_›⟩ hlive h
  · exact authStep_userUpdate ⟨‹_›, ‹_›⟩ h
  · exact authStep_create ⟨‹_›, ‹_›⟩ (.inl rfl) hlive h
  · exact authStep_create ⟨‹_›, ‹_›⟩ (.inr rfl) hlive h
  · exact authStep_trackUpdate ⟨‹_›, ‹_›⟩ h
  · exact authStep_entityDelete ⟨‹_›, ‹_›⟩ (.inl rfl) h
  · exact authStep_entityDelete ⟨‹_›, ‹_›⟩ (.inr rfl) h
  · exact authStep_grantCreate ⟨‹_›, ‹_›⟩ hlive h
  · exact authStep_grantDelete ⟨‹_›, ‹_›⟩ h
  · exact authStep_grantDecide ⟨‹_›, ‹_›⟩ h
  · exact authStep_grantDecide ⟨‹_›, ‹_›⟩ h
  · exact authStep_appCreate ⟨‹_›, ‹_›⟩ hlive h
  · exact authStep_appDelete ⟨‹_›, ‹_›⟩ h
  · rename_i hother
    cases h
    refine .idle fun e a his => .inr ?_
    obtain ⟨he, ha⟩ := his
    cases e <;> cases a <;> simp_all [projectedPairs]

end Steps

end OpenAudio.Core
