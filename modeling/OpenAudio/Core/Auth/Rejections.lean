import OpenAudio.Core.Abci.Propose
import OpenAudio.Core.Auth.Effects

/-!
# A rejection writes nothing

Every branch of the projection makes its checks before its first write, on either store: an entity
is created before its cids are recorded, an app is written before it is marked deleted and a handle
before a deactivation, and none of these writes is followed by a check. A transaction that is
rejected is therefore one the later ones never see.
-/

namespace OpenAudio.Core

open Prog AuthStore

/-- The error is an `authValidationError`. -/
abbrev Rejection (e : AuthError) : Prop := e.isValidation = true

/-- Reads of the store change it only when the store fails, and only checks reject. -/
structure StoreRejectsNothing (σ : Type) [AuthStore σ] : Prop where
  getUser : ∀ id, Quiet Rejection (getUser id : Prog σ AuthError _)
  getUserIDByWallet : ∀ w, Quiet Rejection (getUserIDByWallet w : Prog σ AuthError _)
  walletExists : ∀ w, Quiet Rejection (walletExists w : Prog σ AuthError _)
  activeWalletExists : ∀ w, Quiet Rejection (activeWalletExists w : Prog σ AuthError _)
  handleExists : ∀ l, Quiet Rejection (handleExists l : Prog σ AuthError _)
  getGrant : ∀ g id, Quiet Rejection (getGrant g id : Prog σ AuthError _)
  getApp : ∀ a, Quiet Rejection (getApp a : Prog σ AuthError _)
  getEntity : ∀ e id, Quiet Rejection (getEntity e id : Prog σ AuthError _)
  isCidClaimedByUser : ∀ c id, Quiet Rejection (isCidClaimedByUser c id : Prog σ AuthError _)
  cidIsClaimed : ∀ c, Quiet Rejection (cidIsClaimed c : Prog σ AuthError _)
  lookupNever : ∀ c, Never Rejection (AuthStore.cidIsClaimed c : Prog σ AuthError _)
  insertUser : ∀ id w l d, Never Rejection (insertUser id w l d : Prog σ AuthError _)
  setUserHandle : ∀ id l, Never Rejection (setUserHandle id l : Prog σ AuthError _)
  setUserDeactivated : ∀ id d, Never Rejection (setUserDeactivated id d : Prog σ AuthError _)
  upsertGrant : ∀ g id a r, Never Rejection (upsertGrant g id a r : Prog σ AuthError _)
  upsertApp : ∀ a id, Never Rejection (upsertApp a id : Prog σ AuthError _)
  setAppDeleted : ∀ a, Never Rejection (setAppDeleted a : Prog σ AuthError _)
  insertEntity : ∀ e id o d, Never Rejection (insertEntity e id o d : Prog σ AuthError _)
  setEntityDeleted : ∀ e id, Never Rejection (setEntityDeleted e id : Prog σ AuthError _)
  insertCid : ∀ c id l, Never Rejection (insertCid c id l : Prog σ AuthError _)

theorem quiet_invalidIf {σ : Type} {P : AuthError → Prop} (c : Prop) [Decidable c] (msg : String) :
    Quiet P (invalidIf c msg : Prog σ AuthError Unit) := quiet_rejectIf c _

theorem clean_invalid {σ α : Type} {P : AuthError → Prop} (msg : String) :
    Clean P (invalid msg : Prog σ AuthError α) := (quiet_fail _).clean

namespace StoreRejectsNothing

variable {σ : Type} [AuthStore σ] (h : StoreRejectsNothing σ) (rt : GoRuntime) (tx : AuthTx)
  (rules : Rules)

include h

/-! ### Checks -/

theorem validateGrantedSigner (id : Int) (signer : String) :
    Quiet Rejection (validateGrantedSigner rt id signer : Prog σ AuthError Unit) := by
  unfold Core.validateGrantedSigner
  apply (quiet_invalidIf _ _).bind
  intro _
  apply (h.getGrant _ _).bind
  intro g
  apply (quiet_invalidIf _ _).bind
  intro _
  apply (h.getApp _).bind
  intro app
  apply (h.activeWalletExists _).bind
  intro isUser
  exact (quiet_invalidIf _ _).bind fun _ => quiet_invalidIf _ _

theorem validateAuthSigner (id : Int) (signer : String) :
    Quiet Rejection (validateAuthSigner rt id signer : Prog σ AuthError Unit) := by
  unfold Core.validateAuthSigner
  apply (h.getUser id).bind
  intro found
  cases found with
  | none => exact quiet_fail _
  | some u =>
    apply (quiet_invalidIf _ _).bind
    intro _
    exact .ite (quiet_pure ()) (h.validateGrantedSigner rt id signer)

theorem validateNewUser (wallet handleLC : String) :
    Quiet Rejection (validateNewUser rt wallet handleLC : Prog σ AuthError Unit) := by
  unfold Core.validateNewUser
  apply (h.walletExists _).bind
  intro used
  apply (quiet_invalidIf _ _).bind
  intro _
  apply (h.getApp _).bind
  intro app
  apply (quiet_invalidIf _ _).bind
  intro _
  apply Quiet.ite (quiet_pure ())
  exact (h.handleExists _).bind fun _ => quiet_invalidIf _ _

theorem signerAuthorized (id : Int) (signer : String) :
    Quiet Rejection (signerAuthorized rt id signer : Prog σ AuthError Bool) := by
  unfold Core.signerAuthorized
  apply (h.validateAuthSigner rt id signer).attempt_bind
  · intro r
    match r with
    | .ok () => exact quiet_pure true
    | .error (.validation _) => exact quiet_pure false
    | .error (.store e) => exact quiet_fail _
  · intro e hnot
    cases e with
    | validation msg => exact absurd rfl hnot
    | store e => rfl

theorem mayRevoke (grantee : String) :
    Quiet Rejection (mayRevoke rt tx grantee : Prog σ AuthError Bool) := by
  unfold Core.mayRevoke
  apply (h.signerAuthorized rt _ _).bind
  intro own
  apply Quiet.ite (quiet_pure true)
  apply (h.getUserIDByWallet _).bind
  intro found
  cases found with
  | none => exact quiet_pure false
  | some id => exact h.signerAuthorized rt _ _

theorem validateTrackContentAuth :
    Quiet Rejection (validateTrackContentAuth rt tx rules : Prog σ AuthError Unit) := by
  unfold Core.validateTrackContentAuth
  apply Quiet.ite (quiet_pure ())
  apply Quiet.forEach
  intro key
  apply Quiet.ite (quiet_pure ())
  apply (h.isCidClaimedByUser _ _).bind
  intro claimed
  apply Quiet.ite (quiet_pure ())
  apply (h.cidIsClaimed _).bind
  intro known
  exact (quiet_invalidIf _ _).bind fun _ => quiet_invalidIf _ _

/-! ### Branches -/

theorem projectUserCreate : Clean Rejection (projectUserCreate rt tx : Prog σ AuthError Unit) := by
  unfold Core.projectUserCreate
  apply (h.getUser _).bind_clean
  intro existing
  apply (quiet_invalidIf _ _).bind_clean
  intro _
  apply (quiet_invalidIf _ _).bind_clean
  intro _
  have hinsert := (h.insertUser tx.userId (rt.toLower tx.signer)
    (rt.toLower (tx.metaString "handle")) (tx.metaBoolOr "is_deactivated" false)).clean
  apply Clean.ite
  · exact (quiet_pure ()).bind_clean fun _ => hinsert
  · exact (h.validateNewUser rt _ _).bind_clean fun _ => hinsert

theorem projectUserUpdate : Clean Rejection (projectUserUpdate rt tx : Prog σ AuthError Unit) := by
  unfold Core.projectUserUpdate
  apply (h.validateAuthSigner rt _ _).bind_clean
  intro _
  apply Never.clean
  cases tx.metaBool "is_deactivated" with
  | none =>
    apply Never.ite
    · simp
    · exact (h.setUserHandle _ _).bind fun _ => never_pure ()
  | some d =>
    apply Never.ite
    · exact (never_pure ()).bind fun _ => h.setUserDeactivated _ _
    · exact (h.setUserHandle _ _).bind fun _ => h.setUserDeactivated _ _

theorem projectEntityCreate (e : AuthEntityType) :
    Clean Rejection (projectEntityCreate rt tx e : Prog σ AuthError Unit) := by
  unfold Core.projectEntityCreate
  apply (quiet_invalidIf _ _).bind_clean
  intro _
  apply (quiet_invalidIf _ _).bind_clean
  intro _
  apply (h.validateAuthSigner rt _ _).bind_clean
  intro _
  apply (h.getEntity _ _).bind_clean
  intro existing
  apply (quiet_invalidIf _ _).bind_clean
  intro _
  exact (h.insertEntity _ _ _ _).clean

theorem projectEntityDelete (e : AuthEntityType) :
    Clean Rejection (projectEntityDelete rt tx e : Prog σ AuthError Unit) := by
  unfold Core.projectEntityDelete
  apply (h.validateAuthSigner rt _ _).bind_clean
  intro _
  apply (h.getEntity _ _).bind_clean
  intro existing
  cases existing with
  | none => exact clean_invalid _
  | some row => exact (quiet_invalidIf _ _).bind_clean fun _ => (h.setEntityDeleted _ _).clean

theorem projectGrantCreate :
    Clean Rejection (projectGrantCreate rt tx : Prog σ AuthError Unit) := by
  unfold Core.projectGrantCreate
  apply (quiet_invalidIf _ _).bind_clean
  intro _
  apply (h.validateAuthSigner rt _ _).bind_clean
  intro _
  apply (h.getApp _).bind_clean
  intro app
  apply Clean.ite
  · exact (h.upsertGrant _ _ _ _).clean
  apply (h.walletExists _).bind_clean
  intro isUser
  apply (quiet_invalidIf _ _).bind_clean
  intro _
  apply (h.getGrant _ _).bind_clean
  intro existing
  exact (quiet_invalidIf _ _).bind_clean fun _ => (h.upsertGrant _ _ _ _).clean

theorem projectGrantDelete :
    Clean Rejection (projectGrantDelete rt tx : Prog σ AuthError Unit) := by
  unfold Core.projectGrantDelete
  apply (quiet_invalidIf _ _).bind_clean
  intro _
  apply (h.getGrant _ _).bind_clean
  intro existing
  apply (quiet_invalidIf _ _).bind_clean
  intro _
  apply (h.mayRevoke rt tx _).bind_clean
  intro authorized
  exact (quiet_invalidIf _ _).bind_clean fun _ => (h.upsertGrant _ _ _ _).clean

theorem projectGrantApproveReject (approve : Bool) :
    Clean Rejection (projectGrantApproveReject rt tx approve : Prog σ AuthError Unit) := by
  unfold Core.projectGrantApproveReject
  apply (quiet_invalidIf _ _).bind_clean
  intro _
  apply (h.validateAuthSigner rt _ _).bind_clean
  intro _
  cases tx.metaInt64 rt "grantor_user_id" with
  | none => exact clean_invalid _
  | some grantor =>
    apply (h.getGrant _ _).bind_clean
    intro existing
    cases existing with
    | none => exact clean_invalid _
    | some grant =>
      apply (quiet_invalidIf _ _).bind_clean
      intro _
      exact (quiet_invalidIf _ _).bind_clean fun _ => (h.upsertGrant _ _ _ _).clean

theorem projectAppCreate : Clean Rejection (projectAppCreate rt tx : Prog σ AuthError Unit) := by
  unfold Core.projectAppCreate
  apply (h.validateAuthSigner rt _ _).bind_clean
  intro _
  apply (quiet_invalidIf _ _).bind_clean
  intro _
  apply (h.getApp _).bind_clean
  intro existing
  apply (quiet_invalidIf _ _).bind_clean
  intro _
  apply (h.walletExists _).bind_clean
  intro used
  apply (quiet_invalidIf _ _).bind_clean
  intro _
  apply (h.upsertApp _ _).clean.bind
  intro _
  exact .ite (h.setAppDeleted _) (never_pure ())

theorem projectAppDelete : Clean Rejection (projectAppDelete rt tx : Prog σ AuthError Unit) := by
  unfold Core.projectAppDelete
  apply (h.validateAuthSigner rt _ _).bind_clean
  intro _
  apply (quiet_invalidIf _ _).bind_clean
  intro _
  apply (h.getApp _).bind_clean
  intro existing
  cases existing with
  | none => exact clean_invalid _
  | some app =>
    apply (quiet_invalidIf _ _).bind_clean
    intro _
    exact (quiet_invalidIf _ _).bind_clean fun _ => (h.setAppDeleted _).clean

theorem projectMigratedTrackCids :
    Never Rejection (projectMigratedTrackCids rt tx : Prog σ AuthError Unit) := by
  unfold Core.projectMigratedTrackCids
  apply Never.ite (never_pure ())
  apply Never.forEach
  intro key
  exact .ite (never_pure ()) (h.insertCid _ _ _)

theorem projectAssertedTrackCids :
    Never Rejection (projectAssertedTrackCids tx rules : Prog σ AuthError Unit) := by
  unfold Core.projectAssertedTrackCids
  apply Never.ite (never_pure ())
  apply Never.forEach
  intro key
  apply Never.ite (never_pure ())
  apply (h.lookupNever _).bind
  intro known
  exact .ite (never_pure ()) (h.insertCid _ _ _)

theorem projectCreate (e : AuthEntityType) :
    Clean Rejection (projectCreate rt tx rules e : Prog σ AuthError Unit) := by
  unfold Core.projectCreate
  apply (h.projectEntityCreate rt tx e).bind
  intro _
  exact (h.projectMigratedTrackCids rt tx).bind fun _ => h.projectAssertedTrackCids tx rules

theorem projectTrackUpdate :
    Clean Rejection (projectTrackUpdate rt tx rules : Prog σ AuthError Unit) := by
  unfold Core.projectTrackUpdate
  apply Clean.ite
  · exact (quiet_pure ()).clean
  · exact (h.validateAuthSigner rt _ _).bind_clean fun _ =>
      (h.projectAssertedTrackCids tx rules).clean

theorem applyAuthProjection :
    Clean Rejection (applyAuthProjection rt tx rules : Prog σ AuthError Unit) := by
  unfold Core.applyAuthProjection
  split
  · exact h.projectUserCreate rt tx
  · exact h.projectUserUpdate rt tx
  · exact h.projectCreate rt tx rules .track
  · exact h.projectCreate rt tx rules .playlist
  · exact h.projectTrackUpdate rt tx rules
  · exact h.projectEntityDelete rt tx .track
  · exact h.projectEntityDelete rt tx .playlist
  · exact h.projectGrantCreate rt tx
  · exact h.projectGrantDelete rt tx
  · exact h.projectGrantApproveReject rt tx true
  · exact h.projectGrantApproveReject rt tx false
  · exact h.projectAppCreate rt tx
  · exact h.projectAppDelete rt tx
  · exact (quiet_pure ()).clean

end StoreRejectsNothing

/-! ### The two stores -/

private theorem not_rejection_of_mapError {α : Type} {r : Except PgError α} {e : AuthError}
    (h : r.mapError AuthError.store = .error e) : ¬ Rejection e := by
  cases r with
  | ok a => cases h
  | error e' =>
    cases h
    exact Bool.false_ne_true

theorem quiet_authQuery {α : Type} (q : AuthTables → Except PgError α) :
    Quiet Rejection (authQuery q) := by
  intro t
  match hs : authQuery q t with
  | (.ok a, t') =>
    obtain ⟨_, _, rfl⟩ := authQuery_eq_ok hs
    exact .inl rfl
  | (.error e, t') => exact .inr ⟨e, rfl, not_rejection_of_mapError (congrArg Prod.fst hs)⟩

theorem never_authQuery {α : Type} (q : AuthTables → Except PgError α) :
    Never Rejection (authQuery q) := fun _ _ h => not_rejection_of_mapError h

theorem never_authWrite (w : AuthTables → Except PgError AuthTables) :
    Never Rejection (authWrite w) := fun _ _ h => not_rejection_of_mapError h

theorem storeRejectsNothing_db : StoreRejectsNothing (Txn Db) where
  getUser _ := quiet_authQuery _
  getUserIDByWallet _ := quiet_authQuery _
  walletExists _ := quiet_authQuery _
  activeWalletExists _ := quiet_authQuery _
  handleExists _ := quiet_authQuery _
  getGrant _ _ := quiet_authQuery _
  getApp _ := quiet_authQuery _
  getEntity _ _ := quiet_authQuery _
  isCidClaimedByUser _ _ := quiet_authQuery _
  cidIsClaimed _ := quiet_authQuery _
  lookupNever _ := never_authQuery _
  insertUser _ _ _ _ := never_authWrite _
  setUserHandle _ _ := never_authWrite _
  setUserDeactivated _ _ := never_authWrite _
  upsertGrant _ _ _ _ := never_authWrite _
  upsertApp _ _ := never_authWrite _
  setAppDeleted _ := never_authWrite _
  insertEntity _ _ _ _ := never_authWrite _
  setEntityDeleted _ _ := never_authWrite _
  insertCid _ _ _ := never_authWrite _

theorem never_overlayWrite (w : Overlay → Except PgError Overlay) :
    Never Rejection (overlayWrite w) := by
  intro o e h
  unfold overlayWrite at h
  split at h
  · cases h
  · cases h
    exact Bool.false_ne_true

theorem storeRejectsNothing_overlay : StoreRejectsNothing Overlay where
  getUser _ := quiet_reads _
  getUserIDByWallet _ := quiet_reads _
  walletExists _ := quiet_reads _
  activeWalletExists _ := quiet_reads _
  handleExists _ := quiet_reads _
  getGrant _ _ := quiet_reads _
  getApp _ := quiet_reads _
  getEntity _ _ := quiet_reads _
  isCidClaimedByUser _ _ := quiet_reads _
  cidIsClaimed _ := quiet_reads _
  lookupNever _ := never_reads fun _ _ h => not_rejection_of_mapError h
  insertUser _ _ _ _ := never_overlayWrite _
  setUserHandle _ _ := never_overlayWrite _
  setUserDeactivated _ _ := never_overlayWrite _
  upsertGrant _ _ _ _ := never_overlayWrite _
  upsertApp _ _ := never_overlayWrite _
  setAppDeleted _ := never_overlayWrite _
  insertEntity _ _ _ _ := never_overlayWrite _
  setEntityDeleted _ _ := never_overlayWrite _
  insertCid _ _ _ := never_overlayWrite _

/-! ### Runs -/

theorem projectAll_of_rejected {σ : Type} [AuthStore σ] (h : StoreRejectsNothing σ)
    (rt : GoRuntime) (rules : Rules) {tx : AuthTx} {e : AuthError} {s : σ}
    (he : (applyAuthProjection rt tx rules s).1 = .error e) (hrej : Rejection e)
    (later : List AuthTx) :
    projectAll rt rules (tx :: later) s =
      (.error e :: (projectAll rt rules later s).1, (projectAll rt rules later s).2) := by
  have hsame := h.applyAuthProjection rt tx rules s e he hrej
  simp only [projectAll, he, hsame]

theorem Server.clean_validateManageEntityAuth (s : Server) (rules : Rules)
    (em : ManageEntityLegacy) :
    Clean (fun e => e.authRejected = true) (s.validateManageEntityAuth rules em) := by
  have hlift : (fun e => (liftAuthError e).authRejected = true) = Rejection := by
    funext e
    cases e <;> rfl
  unfold validateManageEntityAuth
  split
  · exact (quiet_fail _).clean
  · apply (quiet_rejectIf _ _).bind_clean
    intro _
    have hcontent : Quiet (fun e => e.authRejected = true)
        (s.enforceTrackContentAuth rules (authTxFromManageEntity em)) := by
      unfold enforceTrackContentAuth
      apply Quiet.ite
      · apply Quiet.mapError
        rw [hlift]
        exact storeRejectsNothing_overlay.validateTrackContentAuth s.rt _ rules
      · exact quiet_pure ()
    apply hcontent.bind_clean
    intro _
    apply Clean.mapError
    rw [hlift]
    exact storeRejectsNothing_overlay.applyAuthProjection s.rt _ rules

theorem Server.selectTxs_of_rejected (s : Server) (rules : Rules) (req : PrepareProposalRequest)
    {tx : MempoolTransaction} {stx : SignedTransaction} {em : ManageEntityLegacy} {o : Overlay}
    {e : GoError} (hdecodes : s.ext.unmarshalSigned (s.marshalMempoolTx tx) = some stx)
    (hem : stx.transaction = some (.manageEntity em)) (henforced : rules.authEnforced = true)
    (he : (s.validateManageEntityAuth rules em o).1 = .error e) (hrej : e.authRejected = true)
    (txs : List MempoolTransaction) :
    s.selectTxs rules req (tx :: txs) o = s.selectTxs rules req txs o := by
  have hsame := s.clean_validateManageEntityAuth rules em o e he hrej
  have hrun : s.validateBlockTx rules req.time req.height req.misbehavior
      (s.marshalMempoolTx tx) o = (.ok false, o) := by
    have hattempt : (attempt (s.validateManageEntityAuth rules em) :
        Prog Overlay GoError (Except GoError Unit)) o = (.ok (.error e), o) := by
      rw [attempt, he, hsame]
    simp only [validateBlockTx, hdecodes, hem, validateManageEntityTx, henforced, if_true]
    rw [bind_of_ok hattempt]
    simp [Prog.ofExcept, verdict, hrej]
  rw [selectTxs, hrun]
  cases s.validateProposerPolicy tx.tx with
  | error e' => rfl
  | ok u => rfl

/-- A transaction that is rejected leaves the block's transaction, the overlay and, when enforcement
rejects it, the overlay of the proposal as they were, and later transactions go as without it. -/
theorem rejected_leaves_no_trace (s : Server) (rules : Rules) :
    (∀ (tx : AuthTx) (t : Txn Db) (e : AuthError),
      (applyAuthProjection s.rt tx rules t).1 = .error e → e.isValidation = true →
        (applyAuthProjection s.rt tx rules t).2 = t ∧ ∀ later,
          projectAll s.rt rules (tx :: later) t =
            (.error e :: (projectAll s.rt rules later t).1, (projectAll s.rt rules later t).2)) ∧
    (∀ (tx : AuthTx) (o : Overlay) (e : AuthError),
      (applyAuthProjection s.rt tx rules o).1 = .error e → e.isValidation = true →
        (applyAuthProjection s.rt tx rules o).2 = o ∧ ∀ later,
          projectAll s.rt rules (tx :: later) o =
            (.error e :: (projectAll s.rt rules later o).1, (projectAll s.rt rules later o).2)) ∧
    (∀ (em : ManageEntityLegacy) (o : Overlay) (e : GoError),
      (s.validateManageEntityAuth rules em o).1 = .error e → e.authRejected = true →
        (s.validateManageEntityAuth rules em o).2 = o ∧
          ∀ req tx stx txs, s.ext.unmarshalSigned (s.marshalMempoolTx tx) = some stx →
            stx.transaction = some (.manageEntity em) → rules.authEnforced = true →
              s.selectTxs rules req (tx :: txs) o = s.selectTxs rules req txs o) := by
  refine ⟨fun tx t e he hrej => ⟨?_, ?_⟩, fun tx o e he hrej => ⟨?_, ?_⟩,
    fun em o e he hrej => ⟨?_, ?_⟩⟩
  · exact storeRejectsNothing_db.applyAuthProjection s.rt tx rules t e he hrej
  · exact projectAll_of_rejected storeRejectsNothing_db s.rt rules he hrej
  · exact storeRejectsNothing_overlay.applyAuthProjection s.rt tx rules o e he hrej
  · exact projectAll_of_rejected storeRejectsNothing_overlay s.rt rules he hrej
  · exact s.clean_validateManageEntityAuth rules em o e he hrej
  · intro req tx stx txs hdecodes hem henforced
    exact s.selectTxs_of_rejected rules req hdecodes hem henforced he hrej txs

def userTwice : ManageEntityLegacy := { userId := 1, entityType := "User", action := "Create" }

def userTwiceTx : SignedTransaction := { transaction := some (.manageEntity userTwice) }

def userTwiceNode : Server :=
  let wire := bigEndian 19 0xda3e1008011204557365722206437265617465
  .devnet { marshal := [(.signedTransaction userTwiceTx, wire)],
            unmarshalSigned := [(wire, userTwiceTx)] } aliceDb

/-- The projection rejects the create on both stores, and enforcement rejects its signer. -/
theorem userTwice_leaves_no_trace :
    let rules : Rules := { authEnforced := true }
    let o := newOverlay aliceDb.auth
    (applyAuthProjection userTwiceNode.rt (authTxFromManageEntity userTwice) rules
      (Txn.begin aliceDb)).2 = Txn.begin aliceDb ∧
    (applyAuthProjection userTwiceNode.rt (authTxFromManageEntity userTwice) rules o).2 = o ∧
    (userTwiceNode.validateManageEntityAuth rules userTwice o).2 = o ∧
    ∀ req txs, userTwiceNode.selectTxs rules req (⟨9, some userTwiceTx, none⟩ :: txs) o =
      userTwiceNode.selectTxs rules req txs o := by
  intro rules o
  obtain ⟨hdb, hoverlay, henforced⟩ := rejected_leaves_no_trace userTwiceNode rules
  obtain ⟨hsame, hselect⟩ := henforced userTwice o
    (.authRejection "signer not recoverable: not recorded") (by decide) rfl
  refine ⟨(hdb _ _ (.validation "user 1 already exists") (by decide) rfl).1,
    (hoverlay _ _ (.validation "user 1 already exists") (by decide) rfl).1, hsame, ?_⟩
  intro req txs
  exact hselect req _ userTwiceTx txs (by decide) rfl rfl

end OpenAudio.Core
