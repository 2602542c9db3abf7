import OpenAudio.Core.Auth.Effects
import OpenAudio.Core.Abci.Blocks

/-!
# Claims along a run of blocks

A claim that is recorded stays recorded. A live ManageEntity transaction records one only while
first assertions are recorded, for its own user, with an authorized signer, and on a cid that nobody
claims; this holds of every transaction of every block, also of one whose projection fails halfway.
-/

namespace OpenAudio.Core

open Prog AuthStore

namespace Server

variable (s : Server)

/-! ### What executing means -/

theorem finalizeManageEntity_snd (em : ManageEntityLegacy) (height : Int) (t : Txn Db) :
    (s.finalizeManageEntity em height t).2 =
      (projectManageEntityAuthState s.rt (authTxFromManageEntity em) (s.rules height)
        (s.finalizeTrackGate em t).2).2 := by
  have hgate : s.finalizeTrackGate em t = (.ok (), (s.finalizeTrackGate em t).2) := by
    unfold finalizeTrackGate
    split <;> rfl
  unfold finalizeManageEntity
  rw [bind_of_ok hgate]

theorem executeTx_manageEntity {tx : Bytes} {em : ManageEntityLegacy}
    (hbody : s.bodyOf tx = some (.manageEntity em)) (req : FinalizeBlockRequest) (index : Nat)
    (t : Txn Db) {p : Part} (hp : p ∉ [Part.chain, .validatorHistory]) :
    (s.executeTx req index tx t).2.view.part p =
      (projectManageEntityAuthState s.rt (authTxFromManageEntity em) (s.rules req.height)
        (s.finalizeTrackGate em t).2).2.view.part p := by
  unfold bodyOf at hbody
  obtain ⟨stx, hdecode, hbody⟩ := Option.bind_eq_some_iff.mp hbody
  have hother : deregisteredAddress stx.transaction = "" := by
    rw [hbody]
    rfl
  have hfin : s.finalizeTransaction req stx (s.ext.toTxHashFromBytes tx) =
      s.finalizeManageEntity em req.height := by
    unfold finalizeTransaction
    rw [hbody]
  rw [(s.executeTx_finalizes hdecode hother req index t).1 p hp, hfin, s.finalizeManageEntity_snd]

theorem auth_finalizeTrackGate (em : ManageEntityLegacy) (t : Txn Db) :
    (s.finalizeTrackGate em t).2.view.auth = t.view.auth :=
  (s.footprint_finalizeTrackGate em).untouched (p := .auth) (by simp) t

end Server

/-! ### Claims stay -/

/-- Every claim is still there, with the transaction it was recorded for. -/
def ClaimsKept (S S' : AuthTables) : Prop :=
  ∀ k txHash, S.cids.lookup k = some txHash → S'.cids.lookup k = some txHash

instance : IsPreorder AuthTables ClaimsKept where
  refl _ _ _ h := h
  trans _ _ _ h₁ h₂ k txHash h := h₂ k txHash (h₁ k txHash h)

theorem ClaimsKept.of_cids_eq {S S' : AuthTables} (h : S'.cids = S.cids) : ClaimsKept S S' := by
  intro k txHash hk
  rwa [h]

theorem insertCid_claimsKept {S S' : AuthTables} {c l : String} {id : Int}
    (h : S.insertCid c id l = .ok S') : ClaimsKept S S' := by
  obtain ⟨p, -, h⟩ := except_bind_eq_ok.mp h
  obtain ⟨q, -, h⟩ := except_bind_eq_ok.mp h
  cases h
  intro k txHash hk
  have hlookup := Table.lookup_insertNew S.cids (p, id) k q
  by_cases he : k = (p, id)
  · subst he
    simp [hlookup, hk]
  · simp [hlookup, he, hk]

/-! ### Who writes claims -/

section Writers

variable {Q : AuthTables → AuthTables → Prop} [IsPreorder AuthTables Q]

theorem keeps_authWrite {w : AuthTables → Except PgError AuthTables}
    (h : ∀ S S', w S = .ok S' → Q S S') : Keeps (OnAuth Q) (authWrite w) := by
  intro t
  exact onAuth_authWrite fun S' hw => h _ S' hw

theorem storeKeeps_of_cids (hsame : ∀ S S' : AuthTables, S'.cids = S.cids → Q S S') :
    StoreKeeps (OnAuth Q) where
  getUser _ := keeps_authQuery _
  getUserIDByWallet _ := keeps_authQuery _
  walletExists _ := keeps_authQuery _
  activeWalletExists _ := keeps_authQuery _
  handleExists _ := keeps_authQuery _
  getGrant _ _ := keeps_authQuery _
  getApp _ := keeps_authQuery _
  getEntity _ _ := keeps_authQuery _
  isCidClaimedByUser _ _ := keeps_authQuery _
  cidIsClaimed _ := keeps_authQuery _
  insertUser id w l d := keeps_authWrite fun S S' h => by
    obtain ⟨_, -, h⟩ := except_bind_eq_ok.mp h
    obtain ⟨_, -, h⟩ := except_bind_eq_ok.mp h
    cases h
    exact hsame _ _ rfl
  setUserHandle id l := keeps_authWrite fun S S' h => by
    obtain ⟨_, -, h⟩ := except_bind_eq_ok.mp h
    cases h
    exact hsame _ _ rfl
  setUserDeactivated id d := keeps_authWrite fun S S' h => by
    cases h
    exact hsame _ _ rfl
  upsertGrant g id a r := keeps_authWrite fun S S' h => by
    obtain ⟨_, -, h⟩ := except_bind_eq_ok.mp h
    cases h
    exact hsame _ _ rfl
  upsertApp a id := keeps_authWrite fun S S' h => by
    obtain ⟨_, -, h⟩ := except_bind_eq_ok.mp h
    cases h
    exact hsame _ _ rfl
  setAppDeleted a := keeps_authWrite fun S S' h => by
    obtain ⟨_, -, h⟩ := except_bind_eq_ok.mp h
    cases h
    exact hsame _ _ rfl
  insertEntity e id o d := keeps_authWrite fun S S' h => by
    obtain ⟨_, -, h⟩ := except_bind_eq_ok.mp h
    cases h
    exact hsame _ _ rfl
  setEntityDeleted e id := keeps_authWrite fun S S' h => by
    obtain ⟨_, -, h⟩ := except_bind_eq_ok.mp h
    cases h
    exact hsame _ _ rfl

end Writers

theorem keeps_insertCid : CidsKeep (OnAuth ClaimsKept) := fun _ _ _ =>
  keeps_authWrite fun _ _ => insertCid_claimsKept

theorem keepsClaims_applyAuthProjection (rt : GoRuntime) (tx : AuthTx) (rules : Rules) :
    Keeps (OnAuth ClaimsKept)
      (applyAuthProjection rt tx rules : Prog (Txn Db) AuthError Unit) :=
  (storeKeeps_of_cids fun _ _ => ClaimsKept.of_cids_eq).applyAuthProjection rt tx rules
    fun _ => keeps_insertCid

theorem keeps_projectContentAttestationCids {Q : AuthTables → AuthTables → Prop}
    [IsPreorder AuthTables Q] (hcid : CidsKeep (OnAuth Q)) (ca : ContentAttestation)
    (txHash : String) : Keeps (OnAuth Q) (Server.projectContentAttestationCids ca txHash) := by
  unfold Server.projectContentAttestationCids
  refine (keeps_rejectIf _ _).bind fun _ => ?_
  apply Keeps.forEach
  intro cid
  exact .ite (keeps_pure ()) (hcid _ _ _)

/-! ### New claims -/

/-- A claim that is new after a live transaction is the transaction's own: first assertions are
recorded, it is for the transaction's user, the signer may act for that user, and nobody had claimed
the cid. -/
def OwnClaims (rt : GoRuntime) (rules : Rules) (tx : AuthTx) (t t' : Txn Db) : Prop :=
  ∀ c id, t.view.auth.cids.lookup (c, id) = none →
    (t'.view.auth.cids.lookup (c, id)).isSome = true →
    rules.contentAuthEnforced = true ∧ rules.contentAuthStrict = false ∧ id = tx.userId ∧
      SignerAuthorized rt t tx.userId tx.signer ∧ ¬ t.view.auth.CidClaimed c

section OwnClaims

variable {rt : GoRuntime} {rules : Rules} {tx : AuthTx} {t t' : Txn Db}

theorem OwnClaims.of_cids_eq (h : t'.view.auth.cids = t.view.auth.cids) :
    OwnClaims rt rules tx t t' := by
  intro c id hnone hsome
  rw [h, hnone] at hsome
  cases hsome

theorem OwnClaims.of_claimsOnly {S : AuthTables} (hcids : S.cids = t.view.auth.cids)
    (hsigner : SignerAuthorized rt t tx.userId tx.signer)
    (h : ClaimsOnly rules tx S t'.view.auth) : OwnClaims rt rules tx t t' := by
  intro c id hnone hsome
  rw [← hcids] at hnone
  obtain ⟨hid, hfree, hon, hlax⟩ := h.new c id hnone hsome
  have hclaimed : S.CidClaimed c ↔ t.view.auth.CidClaimed c := by
    unfold AuthTables.CidClaimed
    rw [hcids]
  exact ⟨hon, hlax, hid, hsigner, fun hc => hfree (hclaimed.mpr hc)⟩

theorem storeKeeps_sameCids : StoreKeeps (OnAuth (Same AuthTables.cids)) :=
  storeKeeps_of_cids fun _ _ h => h

theorem keepsOwn_of_sameCids {m : Prog (Txn Db) AuthError Unit}
    (h : Keeps (OnAuth (Same AuthTables.cids)) m) : Keeps (OwnClaims rt rules tx) m :=
  fun t => .of_cids_eq (h t)

theorem SignerAuthorized.live {userId : Int} {signer : String}
    (h : SignerAuthorized rt t userId signer) : t.aborted = false := by
  obtain ⟨_, t₁, hread, -⟩ := bind_eq_ok (eq_mk_of_fst h)
  exact (authQuery_eq_ok hread).1

theorem signerAuthorized_of_entityCreate {e : AuthEntityType}
    (h : projectEntityCreate rt tx e t = (.ok (), t')) :
    SignerAuthorized rt t tx.userId tx.signer := by
  unfold projectEntityCreate at h
  obtain ⟨-, h⟩ := invalidIf_bind_eq_ok h
  obtain ⟨-, h⟩ := invalidIf_bind_eq_ok h
  obtain ⟨_, t₁, hsigner, -⟩ := bind_eq_ok h
  exact congrArg Prod.fst hsigner

theorem keepsOwn_projectCreate (hlive : tx.migration = false) (e : AuthEntityType) :
    Keeps (OwnClaims rt rules tx)
      (projectCreate rt tx rules e : Prog (Txn Db) AuthError Unit) := by
  intro t
  have hkeep := storeKeeps_sameCids.projectEntityCreate rt tx e t
  match hcreate : (projectEntityCreate rt tx e : Prog (Txn Db) AuthError Unit) t with
  | (.error err, t₁) =>
    rw [hcreate] at hkeep
    rw [projectCreate, bind_of_error hcreate]
    exact .of_cids_eq hkeep
  | (.ok (), t₁) =>
    rw [hcreate] at hkeep
    have hskip : (projectMigratedTrackCids rt tx : Prog (Txn Db) AuthError Unit) t₁ =
        (.ok (), t₁) := by
      rw [projectMigratedTrackCids, if_pos (.inl hlive)]
      rfl
    rw [projectCreate, bind_of_ok hcreate, bind_of_ok hskip]
    exact .of_claimsOnly hkeep (signerAuthorized_of_entityCreate hcreate)
      (keeps_projectAssertedTrackCids rules tx t₁)

theorem keepsOwn_projectTrackUpdate :
    Keeps (OwnClaims rt rules tx)
      (projectTrackUpdate rt tx rules : Prog (Txn Db) AuthError Unit) := by
  unfold projectTrackUpdate
  refine .ite (fun t => .of_cids_eq rfl) fun t => ?_
  match hsigner : (validateAuthSigner rt tx.userId tx.signer : Prog (Txn Db) AuthError Unit) t with
  | (.error err, t₁) =>
    have hkeep := storeKeeps_sameCids.validateAuthSigner rt tx.userId tx.signer t
    rw [hsigner] at hkeep
    rw [bind_of_error hsigner]
    exact .of_cids_eq hkeep
  | (.ok (), t₁) =>
    obtain ⟨rfl, -⟩ := validateAuthSigner_eq_ok hsigner
    rw [bind_of_ok hsigner]
    exact .of_claimsOnly rfl (congrArg Prod.fst hsigner)
      (keeps_projectAssertedTrackCids rules tx t₁)

theorem keepsOwn_applyAuthProjection (hlive : tx.migration = false) :
    Keeps (OwnClaims rt rules tx)
      (applyAuthProjection rt tx rules : Prog (Txn Db) AuthError Unit) := by
  have h := storeKeeps_sameCids
  unfold applyAuthProjection
  split
  · exact keepsOwn_of_sameCids (h.projectUserCreate rt tx)
  · exact keepsOwn_of_sameCids (h.projectUserUpdate rt tx)
  · exact keepsOwn_projectCreate hlive .track
  · exact keepsOwn_projectCreate hlive .playlist
  · exact keepsOwn_projectTrackUpdate
  · exact keepsOwn_of_sameCids (h.projectEntityDelete rt tx .track)
  · exact keepsOwn_of_sameCids (h.projectEntityDelete rt tx .playlist)
  · exact keepsOwn_of_sameCids (h.projectGrantCreate rt tx)
  · exact keepsOwn_of_sameCids (h.projectGrantDelete rt tx)
  · exact keepsOwn_of_sameCids (h.projectGrantApproveReject rt tx true)
  · exact keepsOwn_of_sameCids (h.projectGrantApproveReject rt tx false)
  · exact keepsOwn_of_sameCids (h.projectAppCreate rt tx)
  · exact keepsOwn_of_sameCids (h.projectAppDelete rt tx)
  · exact keepsOwn_of_sameCids (keeps_pure ())

end OwnClaims

/-! ### One transaction of a block -/

namespace Server

variable (s : Server)

theorem keeps_finalizeContentAttestation {Q : AuthTables → AuthTables → Prop}
    [IsPreorder AuthTables Q] (hcid : CidsKeep (OnAuth Q)) (ca : ContentAttestation)
    (txHash : String) (height : Int) :
    Keeps (OnAuth Q) (s.finalizeContentAttestation ca txHash height) := by
  unfold finalizeContentAttestation
  refine .ite (keeps_fail _) ?_
  cases s.isValidContentAttestation ca with
  | error e => exact keeps_fail e
  | ok _ =>
    exact ((keeps_projectContentAttestationCids hcid ca txHash).mapError _).mapError _

theorem auth_mem_parts {body : Option TxBody} (h : Part.auth ∈ body.elim [] TxBody.parts) :
    (∃ em, body = some (.manageEntity em)) ∨ (∃ me, body = some (.manageEntityMigration me)) ∨
      ∃ ca, body = some (.contentAttestation ca) := by
  cases body with
  | none => simp at h
  | some b => cases b <;> simp [TxBody.parts] at h ⊢

theorem keepsClaims_projectManageEntityAuthState (rt : GoRuntime) (tx : AuthTx) (rules : Rules) :
    Keeps (OnAuth ClaimsKept) (projectManageEntityAuthState rt tx rules) :=
  fun t => keepsClaims_applyAuthProjection rt tx rules t

theorem keepsClaims_finalizeTransaction (req : FinalizeBlockRequest) (stx : SignedTransaction)
    (txHash : String) : Keeps (OnPart .auth ClaimsKept) (s.finalizeTransaction req stx txHash) := by
  have hfoot := s.footprint_finalizeTransaction req stx txHash
  by_cases hauth : Part.auth ∈ stx.transaction.elim [] TxBody.parts
  · unfold finalizeTransaction
    rcases auth_mem_parts hauth with ⟨em, hbody⟩ | ⟨me, hbody⟩ | ⟨ca, hbody⟩
    · rw [hbody]
      have hgate := (s.footprint_finalizeTrackGate em).untouched (p := .auth) (by simp)
      exact hgate.onPart.bind fun _ =>
        keepsClaims_projectManageEntityAuthState _ _ _
    · rw [hbody]
      have hgate := (s.footprint_finalizeMigratedTrackGate me).untouched (p := .auth) (by simp)
      exact hgate.onPart.bind fun _ =>
        keepsClaims_projectManageEntityAuthState _ _ _
    · rw [hbody]
      exact s.keeps_finalizeContentAttestation keeps_insertCid ca txHash req.height
  · exact (hfoot.untouched hauth).onPart

theorem keepsClaims_executeTx (req : FinalizeBlockRequest) (index : Nat) (tx : Bytes) :
    Keeps (OnPart .auth ClaimsKept) (s.executeTx req index tx) :=
  s.keeps_executeTx (by simp) (s.keepsClaims_finalizeTransaction req) index tx

theorem ownClaims_executeTx {tx : Bytes} {em : ManageEntityLegacy}
    (hbody : s.bodyOf tx = some (.manageEntity em)) (req : FinalizeBlockRequest) (index : Nat)
    (t : Txn Db) :
    OwnClaims s.rt (s.rules req.height) (authTxFromManageEntity em) t
      (s.executeTx req index tx t).2 := by
  have hexecute : (s.executeTx req index tx t).2.view.auth = _ :=
    s.executeTx_manageEntity hbody req index t (p := .auth) (by simp)
  have hgate := s.auth_finalizeTrackGate em t
  have hown : OwnClaims s.rt (s.rules req.height) (authTxFromManageEntity em) _ _ :=
    keepsOwn_applyAuthProjection rfl (s.finalizeTrackGate em t).2
  intro c id hnone hsome
  rw [hexecute] at hsome
  rw [← hgate] at hnone
  obtain ⟨hon, hlax, hid, hsigner, hfree⟩ := hown c id hnone hsome
  -- gating the track left the transaction alive, so it was alive before
  have hrunning : t.aborted = false := by
    by_contra hdead
    rw [Bool.not_eq_false] at hdead
    have hsame := (s.footprint_finalizeTrackGate em).later t hdead
    have hlive := hsigner.live
    rw [hsame, hdead] at hlive
    cases hlive
  rw [signerAuthorized_iff hsigner.live, hgate, ← signerAuthorized_iff hrunning] at hsigner
  rw [hgate] at hfree
  exact ⟨hon, hlax, hid, hsigner, hfree⟩

/-! ### Runs -/

/-- What a block does to the claims: it starts from the committed ones, every transaction keeps
them, a live ManageEntity transaction adds own claims only, and the block commits what its last
transaction left. -/
structure BlockClaims (req : FinalizeBlockRequest) : Prop where
  start : (s.progress req 0).txn.view.auth = s.committed.auth
  kept : ∀ n tx, req.txs[n]? = some tx →
    ClaimsKept (s.progress req n).txn.view.auth (s.progress req (n + 1)).txn.view.auth
  own : ∀ n tx em, req.txs[n]? = some tx → s.bodyOf tx = some (.manageEntity em) →
    OwnClaims s.rt (s.rules req.height) (authTxFromManageEntity em) (s.progress req n).txn
      (s.progress req (n + 1)).txn
  finish : ∀ db', s.commitBlock req = some db' →
    db'.auth = (s.progress req req.txs.length).txn.view.auth

theorem blockClaims (req : FinalizeBlockRequest) : s.BlockClaims req where
  start := s.openBlock_part req (p := .auth) (by simp)
  kept n tx hn := by
    rw [s.txn_progress_succ req hn]
    exact s.keepsClaims_executeTx req n tx _
  own n tx em hn hbody := by
    rw [s.txn_progress_succ req hn]
    exact s.ownClaims_executeTx hbody req n _
  finish db' hcommit := s.part_commitBlock hcommit (p := .auth) (by simp)

/-- Along every run of blocks claims accumulate, and a live ManageEntity transaction adds a claim
only while first assertions are recorded, for its own user, with an authorized signer, and on a cid
nobody had claimed. -/
theorem claims_of_run (db : Db) (bs : List Block) :
    s.EachBlock (fun db b => (s.executor db b).BlockClaims b.req) db bs ∧
      ∀ db', s.commitAll db bs = some db' → ClaimsKept db.auth db'.auth := by
  induction bs generalizing db with
  | nil =>
    refine ⟨trivial, fun db' hend => ?_⟩
    cases hend
    exact refl _
  | cons b bs ih =>
    have hblock := (s.executor db b).blockClaims b.req
    refine ⟨⟨hblock, fun db₁ _ => (ih db₁).1⟩, fun db' hend => ?_⟩
    obtain ⟨db₁, hcommit, hend⟩ := Option.bind_eq_some_iff.mp hend
    have hfirst : ClaimsKept db.auth db₁.auth := by
      rw [hblock.finish db₁ hcommit]
      exact (s.executor db b).part_progress (p := .auth) (by simp)
        ((s.executor db b).keepsClaims_executeTx b.req) le_rfl
    exact IsTrans.trans (r := ClaimsKept) _ _ _ hfirst ((ih db₁).2 db' hend)

end Server

end OpenAudio.Core
