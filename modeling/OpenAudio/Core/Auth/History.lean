import OpenAudio.Core.Auth.Frame

/-!
# Runs from the empty auth state

A run is a list of live transactions, each with the rules of the height it executes at; one that is
refused is skipped. Wallets stay pairwise distinct and apart from live apps along every run. Who
approved a grant and who holds a handle are not protected like that: an app grant survives the app
and serves whoever creates a user with its key, and an update may take a handle that is in use.
-/

namespace OpenAudio.Core

open Prog AuthStore

/-! ### Runs -/

/-- A transaction and the rules of the height it executes at. -/
structure Submission where
  tx : AuthTx
  rules : Rules

/-- The tables after a submission; one that is refused leaves them alone. -/
def AuthTables.project (rt : GoRuntime) (S : AuthTables) (sub : Submission) : AuthTables :=
  match (applyAuthProjection rt sub.tx sub.rules S.store).1 with
  | .ok () => (applyAuthProjection rt sub.tx sub.rules S.store).2.view.auth
  | .error _ => S

/-- The tables after the first `n` submissions of a run from the empty state. -/
def stateAt (rt : GoRuntime) (run : List Submission) (n : Nat) : AuthTables :=
  (run.take n).foldl (AuthTables.project rt) Db.empty.auth

/-- The submission at `n` was applied. -/
def AppliedAt (rt : GoRuntime) (run : List Submission) (n : Nat) (tx : AuthTx) : Prop :=
  ∃ sub, run[n]? = some sub ∧ sub.tx = tx ∧
    (applyAuthProjection rt tx sub.rules (stateAt rt run n).store).1 = .ok ()

/-- `P` holds of every submission and the state it finds. -/
def Along (rt : GoRuntime) (P : AuthTables → AuthTx → Prop) (run : List Submission) : Prop :=
  ∀ n sub, run[n]? = some sub → P (stateAt rt run n) sub.tx

def Live (run : List Submission) : Prop := ∀ sub ∈ run, sub.tx.migration = false

instance (run : List Submission) : Decidable (Live run) :=
  inferInstanceAs (Decidable (∀ sub ∈ run, sub.tx.migration = false))

section Run

variable {rt : GoRuntime} {run : List Submission} {n : Nat} {sub : Submission}

theorem stateAt_zero : stateAt rt run 0 = Db.empty.auth := rfl

theorem stateAt_succ (h : run[n]? = some sub) :
    stateAt rt run (n + 1) = (stateAt rt run n).project rt sub := by
  rw [stateAt, List.take_add_one, h, Option.toList_some, List.foldl_append]
  rfl

theorem project_of_ok {S : AuthTables}
    (h : (applyAuthProjection rt sub.tx sub.rules S.store).1 = .ok ()) :
    S.project rt sub = (applyAuthProjection rt sub.tx sub.rules S.store).2.view.auth := by
  rw [AuthTables.project, h]

variable (rt) in
theorem stateAt_step (hlive : Live run) (hsub : run[n]? = some sub) :
    (AppliedAt rt run n sub.tx ∧
      AuthStep rt sub.rules sub.tx (stateAt rt run n) (stateAt rt run (n + 1))) ∨
    (¬ AppliedAt rt run n sub.tx ∧ stateAt rt run (n + 1) = stateAt rt run n) := by
  rw [stateAt_succ hsub]
  match hout : (applyAuthProjection rt sub.tx sub.rules (stateAt rt run n).store).1 with
  | .ok () =>
    rw [project_of_ok hout]
    have hmem := List.mem_of_getElem? hsub
    exact .inl ⟨⟨sub, hsub, rfl, hout⟩, authStep_of_ok (hlive sub hmem) (eq_mk_of_fst hout)⟩
  | .error e =>
    refine .inr ⟨?_, by rw [AuthTables.project, hout]⟩
    rintro ⟨sub', hsub', -, hok⟩
    rw [hsub, Option.some.injEq] at hsub'
    subst hsub'
    rw [hout] at hok
    cases hok

theorem AppliedAt.step (hlive : Live run) {tx : AuthTx} (h : AppliedAt rt run n tx) :
    ∃ rules, AuthStep rt rules tx (stateAt rt run n) (stateAt rt run (n + 1)) := by
  obtain ⟨sub, hsub, rfl, hok⟩ := id h
  rcases stateAt_step rt hlive hsub with ⟨-, hstep⟩ | ⟨hnot, -⟩
  · exact ⟨_, hstep⟩
  · exact absurd h hnot

theorem stateAt_invariant {I : AuthTables → Prop} (hlive : Live run) (hempty : I Db.empty.auth)
    (hstep : ∀ n sub, run[n]? = some sub → I (stateAt rt run n) →
      AuthStep rt sub.rules sub.tx (stateAt rt run n) (stateAt rt run (n + 1)) →
      I (stateAt rt run (n + 1)))
    (hn : n ≤ run.length) : I (stateAt rt run n) := by
  induction n with
  | zero => exact hempty
  | succ n ih =>
    have hsub : run[n]? = some (run.get ⟨n, hn⟩) := by simp
    have hprev := ih (by omega)
    rcases stateAt_step rt hlive hsub with ⟨-, hmake⟩ | ⟨-, hsame⟩
    · exact hstep n _ hsub hprev hmake
    · rwa [hsame]

end Run

/-! ### What a step does to one row -/

namespace AuthStep

variable {rt : GoRuntime} {rules : Rules} {tx : AuthTx} {S S' : AuthTables}

/-- What a create of a user found. -/
structure FoundFree (rt : GoRuntime) (tx : AuthTx) (S : AuthTables) (u : AuthUserRecord) :
    Prop where
  create : tx.Is rt .user .create
  absent : S.users.lookup tx.userId = none
  wallet : u.wallet.val = rt.toLower tx.signer
  nonempty : u.wallet.val ≠ ""
  unused : ¬ S.HasWallet u.wallet
  noApp : ¬ S.LiveApp u.wallet
  handle : ∀ h, u.handleLc = some h → h.val ≠ "" ∧ ¬ S.HandleTaken h

/-- What an update of a user changed. -/
structure Updated (rt : GoRuntime) (tx : AuthTx) (S : AuthTables) (u u' : AuthUserRecord) :
    Prop where
  update : tx.Is rt .user .update
  signer : S.Authorizes rt tx.userId tx.signer
  old : S.users.lookup tx.userId = some u
  wallet : u'.wallet = u.wallet
  handle : u'.handleLc = u.handleLc ∨ ∃ h, u'.handleLc = some h ∧
    h.val = rt.toLower (tx.metaString "handle") ∧ h.val ≠ ""

theorem user_cases (h : AuthStep rt rules tx S S') {id : Int} {u' : AuthUserRecord}
    (hu' : S'.users.lookup id = some u') :
    S.users.lookup id = some u' ∨ (id = tx.userId ∧ FoundFree rt tx S u') ∨
      (id = tx.userId ∧ ∃ u, Updated rt tx S u u') := by
  cases h with
  | userCreate his habsent hw hne hfree happ hhandle hset =>
    rcases hset.cases hu' with ⟨rfl, rfl⟩ | ⟨-, hold⟩
    · exact .inr (.inl ⟨rfl, his, habsent, hw, hne, hfree, happ, fun q hq => (hhandle q hq).2⟩)
    · exact .inl hold
  | userUpdate his hauth hu hwallet hhandle hset =>
    rcases hset.cases hu' with ⟨rfl, rfl⟩ | ⟨-, hold⟩
    · exact .inr (.inr ⟨rfl, _, his, hauth, hu, hwallet, hhandle⟩)
    · exact .inl hold
  | entityCreate _ _ _ _ _ _ hclaims =>
    rw [hclaims.users_eq] at hu'
    exact .inl hu'
  | trackUpdate _ _ hclaims =>
    rw [hclaims.users_eq] at hu'
    exact .inl hu'
  | _ => exact .inl hu'

theorem wallet_cases (h : AuthStep rt rules tx S S') {id : Int} {u' : AuthUserRecord}
    (hu' : S'.users.lookup id = some u') :
    (∃ u, S.users.lookup id = some u ∧ u.wallet = u'.wallet) ∨
      (id = tx.userId ∧ FoundFree rt tx S u') := by
  rcases h.user_cases hu' with hold | hnew | ⟨rfl, u, hupdate⟩
  · exact .inl ⟨u', hold, rfl⟩
  · exact .inr hnew
  · exact .inl ⟨u, hupdate.old, hupdate.wallet.symm⟩

theorem hasWallet_cases (h : AuthStep rt rules tx S S') {w : PgText} (hw : S'.HasWallet w) :
    S.HasWallet w ∨ ∃ u, u.wallet = w ∧ FoundFree rt tx S u := by
  obtain ⟨id, u', hu', rfl⟩ := hw
  rcases h.wallet_cases hu' with ⟨u, hu, hwallet⟩ | ⟨-, hfree⟩
  · exact .inl ⟨id, u, hu, hwallet⟩
  · exact .inr ⟨u', rfl, hfree⟩

theorem liveApp_cases (h : AuthStep rt rules tx S S') {a : PgText} (ha : S'.LiveApp a) :
    S.LiveApp a ∨ ¬ S'.HasWallet a := by
  obtain ⟨r', hr', hlive⟩ := ha
  cases h with
  | appCreate _ _ _ _ _ hwallet hset =>
    rcases hset.cases hr' with ⟨rfl, -⟩ | ⟨-, hold⟩
    · exact .inr hwallet
    · exact .inl ⟨r', hold, hlive⟩
  | appDelete _ _ _ _ _ _ _ hset =>
    rcases hset.cases hr' with ⟨rfl, rfl⟩ | ⟨-, hold⟩
    · cases hlive
    · exact .inl ⟨r', hold, hlive⟩
  | entityCreate _ _ _ _ _ _ hclaims =>
    rw [hclaims.apps_eq] at hr'
    exact .inl ⟨r', hr', hlive⟩
  | trackUpdate _ _ hclaims =>
    rw [hclaims.apps_eq] at hr'
    exact .inl ⟨r', hr', hlive⟩
  | _ => exact .inl ⟨r', hr', hlive⟩

/-- The transaction creates the grant. -/
structure CreatesGrant (rt : GoRuntime) (tx : AuthTx) (g : PgText) (user : Int) : Prop where
  create : tx.Is rt .grant .create
  grantee : g.val = rt.toLower (tx.metaString "grantee_address")
  grantor : user = tx.userId

/-- The transaction approves the grant. -/
structure ApprovesGrant (rt : GoRuntime) (tx : AuthTx) (g : PgText) (user : Int) : Prop where
  approve : tx.Is rt .grant .approve
  grantee : g.val = rt.toLower (tx.metaString "grantee_address")
  grantor : tx.metaInt64 rt "grantor_user_id" = some user

theorem of_createsGrant (h : AuthStep rt rules tx S S') {g : PgText} {user : Int}
    (hcreate : CreatesGrant rt tx g user) :
    (S.LiveApp g ∨ S.HasWallet g) ∧
      ∀ r, S.grants.lookup (g, user) = some r → r.isRevoked = true := by
  obtain ⟨his, hg, rfl⟩ := hcreate
  cases h with
  | grantCreate _ _ hg' _ hgrantee hnone _ =>
    rw [PgText.ext (hg'.trans hg.symm)] at hgrantee hnone
    exact ⟨hgrantee.imp (·.1) (·.2.1), hnone⟩
  | grantDelete his' => exact absurd (his.unique his').2 (by decide)
  | grantDecide his' => exact absurd (decides_of_is his') (not_decides his (by decide))
  | idle hidle =>
    rcases hidle _ _ his with hpair | hpair
    · cases hpair
    · exact absurd (by decide) hpair
  | entityCreate his' hty =>
    rw [(his'.unique his).1] at hty
    simp at hty
  | entityDelete his' hty =>
    rw [(his'.unique his).1] at hty
    simp at hty
  | userCreate his' => cases (his'.unique his).1
  | userUpdate his' => cases (his'.unique his).1
  | trackUpdate his' => cases (his'.unique his).1
  | appCreate his' => cases (his'.unique his).1
  | appDelete his' => cases (his'.unique his).1

/-- A grant is an old one, a new one, one just revoked or rejected, or one just approved. -/
theorem grant_cases (h : AuthStep rt rules tx S S') {g : PgText} {user : Int}
    {r' : AuthGrantRecord} (hr' : S'.grants.lookup (g, user) = some r') :
    S.grants.lookup (g, user) = some r' ∨
      (CreatesGrant rt tx g user ∧ (r'.isApproved = some true → S.LiveApp g)) ∨
      ((S.grants.lookup (g, user)).isSome = true ∧
        (r'.isRevoked = true ∨ ApprovesGrant rt tx g user)) := by
  cases h with
  | grantCreate his _ hg _ hgrantee _ hset =>
    rcases hset.cases hr' with ⟨hk, rfl⟩ | ⟨-, hold⟩
    · simp only [Prod.mk.injEq] at hk
      obtain ⟨rfl, rfl⟩ := hk
      refine .inr (.inl ⟨⟨his, hg, rfl⟩, fun happroved => ?_⟩)
      rcases hgrantee with ⟨hlive, -⟩ | ⟨-, -, hnone⟩
      · exact hlive
      · rw [hnone] at happroved
        cases happroved
    · exact .inl hold
  | grantDelete _ _ _ hr _ _ hset =>
    rcases hset.cases hr' with ⟨hk, rfl⟩ | ⟨-, hold⟩
    · rw [hk]
      exact .inr (.inr ⟨by simp [hr], .inl rfl⟩)
    · exact .inl hold
  | @grantDecide approve _ _ _ _ his _ hg _ hgrantor hr _ _ hset =>
    rcases hset.cases hr' with ⟨hk, rfl⟩ | ⟨-, hold⟩
    · simp only [Prod.mk.injEq] at hk
      obtain ⟨rfl, rfl⟩ := hk
      refine .inr (.inr ⟨by simp [hr], ?_⟩)
      cases approve with
      | false => exact .inl rfl
      | true => exact .inr ⟨his, hg, hgrantor⟩
    · exact .inl hold
  | entityCreate _ _ _ _ _ _ hclaims =>
    rw [hclaims.grants_eq] at hr'
    exact .inl hr'
  | trackUpdate _ _ hclaims =>
    rw [hclaims.grants_eq] at hr'
    exact .inl hr'
  | _ => exact .inl hr'

end AuthStep

/-! ### Identities -/

/-- Wallets are pairwise distinct, nonempty and lower case, and no live app has one. -/
structure Identities (rt : GoRuntime) (S : AuthTables) : Prop where
  distinct : S.WalletsDistinct
  nonempty : ∀ id u, S.users.lookup id = some u → u.wallet.val ≠ ""
  lower : ∀ id u, S.users.lookup id = some u → rt.toLower u.wallet.val = u.wallet.val
  apart : ∀ a, S.LiveApp a → ¬ S.HasWallet a

theorem not_lookup_empty_users {id : Int} {u : AuthUserRecord} :
    ¬ Db.empty.auth.users.lookup id = some u := by
  intro h
  cases h

theorem identities_empty (rt : GoRuntime) : Identities rt Db.empty.auth where
  distinct _ _ _ _ h := absurd h not_lookup_empty_users
  nonempty _ _ h := absurd h not_lookup_empty_users
  lower _ _ h := absurd h not_lookup_empty_users
  apart _ _ := by
    rintro ⟨id, u, hu, -⟩
    exact not_lookup_empty_users hu

theorem AuthStep.apart {rt : GoRuntime} {rules : Rules} {tx : AuthTx} {S S' : AuthTables}
    (h : AuthStep rt rules tx S S') (hS : ∀ a, S.LiveApp a → ¬ S.HasWallet a) {a : PgText}
    (hlive : S'.LiveApp a) : ¬ S'.HasWallet a := by
  intro hwallet
  rcases h.liveApp_cases hlive with hold | hnew
  · rcases h.hasWallet_cases hwallet with hused | ⟨u, rfl, hfree⟩
    · exact hS a hold hused
    · exact hfree.noApp hold
  · exact hnew hwallet

theorem AuthStep.identities {rt : GoRuntime} {rules : Rules} {tx : AuthTx} {S S' : AuthTables}
    (hrt : rt.LowerIdempotent) (h : AuthStep rt rules tx S S') (hS : Identities rt S) :
    Identities rt S' where
  distinct i j u v hu hv hwallet := by
    rcases h.wallet_cases hu with ⟨u₀, hu₀, hwu⟩ | ⟨hi, hfree⟩
    · rcases h.wallet_cases hv with ⟨v₀, hv₀, hwv⟩ | ⟨-, hfree⟩
      · exact hS.distinct i j u₀ v₀ hu₀ hv₀ (hwu.trans (hwallet.trans hwv.symm))
      · exact absurd ⟨i, u₀, hu₀, hwu.trans hwallet⟩ hfree.unused
    · rcases h.wallet_cases hv with ⟨v₀, hv₀, hwv⟩ | ⟨hj, -⟩
      · exact absurd ⟨j, v₀, hv₀, hwv.trans hwallet.symm⟩ hfree.unused
      · exact hi.trans hj.symm
  nonempty id u hu := by
    rcases h.wallet_cases hu with ⟨u₀, hu₀, hw⟩ | ⟨-, hfree⟩
    · rw [← hw]
      exact hS.nonempty id u₀ hu₀
    · exact hfree.nonempty
  lower id u hu := by
    rcases h.wallet_cases hu with ⟨u₀, hu₀, hw⟩ | ⟨-, hfree⟩
    · rw [← hw]
      exact hS.lower id u₀ hu₀
    · rw [hfree.wallet, hrt.toLower_toLower]
  apart _ := h.apart hS.apart

theorem identities_stateAt {rt : GoRuntime} (hrt : rt.LowerIdempotent) {run : List Submission}
    (hlive : Live run) {n : Nat} (hn : n ≤ run.length) : Identities rt (stateAt rt run n) :=
  stateAt_invariant hlive (identities_empty rt) (fun _ _ _ hS h => h.identities hrt hS) hn

/-- The submission at `n` was applied and created the grant. -/
def GrantCreated (rt : GoRuntime) (run : List Submission) (n : Nat) (g : PgText) (user : Int) :
    Prop :=
  ∃ tx, AppliedAt rt run n tx ∧ AuthStep.CreatesGrant rt tx g user

/-- The submission at `n` was applied and approved the grant. -/
def GrantApproved (rt : GoRuntime) (run : List Submission) (n : Nat) (g : PgText) (user : Int) :
    Prop :=
  ∃ tx, AppliedAt rt run n tx ∧ AuthStep.ApprovesGrant rt tx g user

section Grants

variable {rt : GoRuntime} {run : List Submission} {n : Nat} {sub : Submission} {g : PgText}
  {user : Int}

theorem GrantCreated.found (hlive : Live run) (h : GrantCreated rt run n g user) :
    ((stateAt rt run n).LiveApp g ∨ (stateAt rt run n).HasWallet g) ∧
      ∀ r, (stateAt rt run n).grants.lookup (g, user) = some r → r.isRevoked = true := by
  obtain ⟨tx, happlied, hcreates⟩ := h
  obtain ⟨rules, hstep⟩ := happlied.step hlive
  exact hstep.of_createsGrant hcreates

theorem grantCreated_of_lookup (hlive : Live run) (hn : n ≤ run.length) {r : AuthGrantRecord}
    (hr : (stateAt rt run n).grants.lookup (g, user) = some r) :
    ∃ i, i < n ∧ GrantCreated rt run i g user := by
  induction n generalizing r with
  | zero =>
    rw [stateAt_zero] at hr
    cases hr
  | succ n ih =>
    have hsub : run[n]? = some (run.get ⟨n, hn⟩) := by simp
    have hearlier : ∀ r, (stateAt rt run n).grants.lookup (g, user) = some r →
        ∃ i, i < n + 1 ∧ GrantCreated rt run i g user := by
      intro r hr
      obtain ⟨i, hi, hcreated⟩ := ih (by omega) hr
      exact ⟨i, by omega, hcreated⟩
    rcases stateAt_step rt hlive hsub with ⟨happlied, hstep⟩ | ⟨-, hsame⟩
    · rcases hstep.grant_cases hr with hold | ⟨hcreates, -⟩ | ⟨hsome, -⟩
      · exact hearlier r hold
      · exact ⟨n, by omega, _, happlied, hcreates⟩
      · obtain ⟨r₀, hr₀⟩ := Option.isSome_iff_exists.mp hsome
        exact hearlier r₀ hr₀
    · rw [hsame] at hr
      exact hearlier r hr

end Grants

/-- Along every run: wallets are pairwise distinct, nonempty and lower case; no live app has a
wallet's address; every grant was created, and whenever it was its grantee was a live app or a
wallet; and no pair has two grants that are not revoked. -/
theorem identities_of_run (rt : GoRuntime) (hrt : rt.LowerIdempotent) (run : List Submission)
    (hlive : Live run) (n : Nat) (hn : n ≤ run.length) :
    Identities rt (stateAt rt run n) ∧
    (∀ g user r, (stateAt rt run n).grants.lookup (g, user) = some r →
      (∃ i, i < n ∧ GrantCreated rt run i g user) ∧
      ∀ i, i < n → GrantCreated rt run i g user →
        (stateAt rt run i).LiveApp g ∨ (stateAt rt run i).HasWallet g) ∧
    ∀ g user, ((stateAt rt run n).grants.entries.filter fun e =>
      decide (e.1 = (g, user)) && !e.2.isRevoked).length ≤ 1 := by
  refine ⟨identities_stateAt hrt hlive hn, fun g user r hr => ⟨?_, ?_⟩, fun g user => ?_⟩
  · exact grantCreated_of_lookup hlive hn hr
  · intro i _ hcreated
    exact (hcreated.found hlive).1
  · exact Table.length_filter_key_le_one _ _ fun r : AuthGrantRecord => !r.isRevoked

def submit (userId : Int) (entityType action signer metadata : String) : Submission where
  tx := authTxFromManageEntity
    { userId := userId, entityType := entityType, action := action, signer := signer,
      metadata := metadata }
  rules := {}

theorem lowerIdempotent_amd64 : GoRuntime.amd64.LowerIdempotent := CaseTables.lowerIdempotent_ascii

def managedRun : List Submission :=
  [submit 1 "User" "Create" "0xA1" "\x7b\"handle\":\"alice\"\x7d",
    submit 2 "User" "Create" "0xB2" "\x7b\"handle\":\"bob\"\x7d",
    submit 1 "Grant" "Create" "0xA1" "\x7b\"grantee_address\":\"0xB2\"\x7d",
    submit 2 "Grant" "Approve" "0xB2" "\x7b\"grantee_address\":\"0xB2\",\"grantor_user_id\":1\x7d"]

theorem live_managedRun : Live managedRun := by decide

theorem identities_managedRun :
    Identities .amd64 (stateAt .amd64 managedRun 4) ∧
    (∀ g user r, (stateAt .amd64 managedRun 4).grants.lookup (g, user) = some r →
      (∃ i, i < 4 ∧ GrantCreated .amd64 managedRun i g user) ∧
      ∀ i, i < 4 → GrantCreated .amd64 managedRun i g user →
        (stateAt .amd64 managedRun i).LiveApp g ∨ (stateAt .amd64 managedRun i).HasWallet g) ∧
    ∀ g user, ((stateAt .amd64 managedRun 4).grants.entries.filter fun e =>
      decide (e.1 = (g, user)) && !e.2.isRevoked).length ≤ 1 :=
  identities_of_run .amd64 lowerIdempotent_amd64 managedRun live_managedRun 4 (by decide)

/-! ### Approvals -/

/-- The grant was approved and not created again since. -/
def ApprovedSince (rt : GoRuntime) (run : List Submission) (n : Nat) (g : PgText) (user : Int) :
    Prop :=
  ∃ i, i < n ∧ GrantApproved rt run i g user ∧
    ∀ j, i < j → j < n → ¬ GrantCreated rt run j g user

/-- Whoever may sign for a user by a grant, and is no live app, was approved. -/
def ManagersApproved (rt : GoRuntime) (run : List Submission) (n : Nat) : Prop :=
  ∀ user signer u, (stateAt rt run n).users.lookup user = some u →
    rt.equalFold u.wallet.val signer = false →
    (∀ g : PgText, g.val = rt.toLower signer → ¬ (stateAt rt run n).LiveApp g) →
    SignerAuthorized rt (stateAt rt run n).store user signer →
    ∃ g : PgText, g.val = rt.toLower signer ∧ ApprovedSince rt run n g user

/-- A user who is created holds no approved grant yet. -/
def NewcomerUngranted (rt : GoRuntime) (S : AuthTables) (tx : AuthTx) : Prop :=
  tx.Is rt .user .create → S.users.lookup tx.userId = none →
    ∀ w : PgText, w.val = rt.toLower tx.signer → ¬ S.HasWallet w → ¬ S.LiveApp w →
      ∀ user r, S.grants.lookup (w, user) = some r → r.isRevoked = false →
        r.isApproved ≠ some true

section Approvals

variable {rt : GoRuntime} {run : List Submission} {n : Nat} {g : PgText} {user : Int}

theorem ApprovedSince.succ (h : ApprovedSince rt run n g user)
    (hnot : ¬ GrantCreated rt run n g user) : ApprovedSince rt run (n + 1) g user := by
  obtain ⟨i, hi, happroved, hsince⟩ := h
  refine ⟨i, by omega, happroved, fun j hij hj => ?_⟩
  by_cases hjn : j = n
  · rwa [hjn]
  · exact hsince j hij (by omega)

/-- An approved grant that is not revoked was approved by a transaction, or its grantee is no
user. -/
def Vouched (rt : GoRuntime) (run : List Submission) (n : Nat) : Prop :=
  ∀ g user r, (stateAt rt run n).grants.lookup (g, user) = some r → r.isRevoked = false →
    r.isApproved = some true → ApprovedSince rt run n g user ∨ ¬ (stateAt rt run n).HasWallet g

theorem vouched_succ (hlive : Live run) {sub : Submission} (hsub : run[n]? = some sub)
    (happart : ∀ a, (stateAt rt run n).LiveApp a → ¬ (stateAt rt run n).HasWallet a)
    (hnew : NewcomerUngranted rt (stateAt rt run n) sub.tx) (h : Vouched rt run n) :
    Vouched rt run (n + 1) := by
  intro g user r hr hopen happroved
  rcases stateAt_step rt hlive hsub with ⟨happlied, hstep⟩ | ⟨hnot, hsame⟩
  · rcases hstep.grant_cases hr with hold | ⟨hcreates, hlive'⟩ | ⟨-, hrevoked | happroves⟩
    · -- an open grant is not created again, so an approval still counts
      rcases h g user r hold hopen happroved with hsince | hnobody
      · refine .inl (hsince.succ fun hcreated => ?_)
        exact absurd ((hcreated.found hlive).2 r hold) (by simp [hopen])
      · refine .inr fun hwallet => ?_
        rcases hstep.hasWallet_cases hwallet with hused | ⟨u, rfl, hfree⟩
        · exact hnobody hused
        · exact hnew hfree.create hfree.absent _ hfree.wallet hfree.unused hfree.noApp user r hold
            hopen happroved
    · -- a grant that is born approved is an app's
      have hgrants : ¬ (stateAt rt run n).HasWallet g := happart g (hlive' happroved)
      refine .inr fun hwallet => ?_
      rcases hstep.hasWallet_cases hwallet with hused | ⟨u, -, hfree⟩
      · exact hgrants hused
      · cases (hfree.create.unique hcreates.create).1
    · exact absurd hrevoked (by simp [hopen])
    · refine .inl ⟨n, by omega, ⟨_, happlied, happroves⟩, fun j hj hj' => ?_⟩
      omega
  · rw [hsame] at hr ⊢
    refine (h g user r hr hopen happroved).imp_left fun hsince => hsince.succ ?_
    rintro ⟨tx, happlied, -⟩
    obtain ⟨sub', hsub', rfl, -⟩ := id happlied
    rw [hsub, Option.some.injEq] at hsub'
    subst hsub'
    exact hnot happlied

theorem vouched_stateAt (hlive : Live run) (hnew : Along rt (NewcomerUngranted rt) run)
    (hn : n ≤ run.length) :
    Vouched rt run n ∧ ∀ a, (stateAt rt run n).LiveApp a → ¬ (stateAt rt run n).HasWallet a := by
  induction n with
  | zero =>
    refine ⟨fun g user r hr => ?_, (identities_empty rt).apart⟩
    rw [stateAt_zero] at hr
    cases hr
  | succ n ih =>
    have hsub : run[n]? = some (run.get ⟨n, hn⟩) := by simp
    obtain ⟨hvouched, happart⟩ := ih (by omega)
    refine ⟨vouched_succ hlive hsub happart (hnew n _ hsub) hvouched, fun a ha => ?_⟩
    rcases stateAt_step rt hlive hsub with ⟨-, hstep⟩ | ⟨-, hsame⟩
    · exact hstep.apart happart ha
    · rw [hsame] at ha ⊢
      exact happart a ha

end Approvals

/-- Along a run in which no user is created with an address that already holds an approved grant,
every manager was approved. -/
theorem managersApproved_of_newcomersUngranted (rt : GoRuntime) (run : List Submission)
    (hlive : Live run) (hnew : Along rt (NewcomerUngranted rt) run) (n : Nat)
    (hn : n ≤ run.length) : ManagersApproved rt run n := by
  intro user signer u hu hforeign hnoApp hauth
  obtain ⟨hvouched, -⟩ := vouched_stateAt hlive hnew hn
  have hauthorizes := (signerAuthorized_iff (t := (stateAt rt run n).store) rfl).mp hauth
  obtain ⟨u', hu', -, hown | ⟨g, hg, hholds⟩⟩ := hauthorizes
  · have hsame : u' = u := Option.some.inj (hu'.symm.trans hu)
    rw [hsame, hforeign] at hown
    cases hown
  · obtain ⟨r, hr, hopen, happ | ⟨hactive, happroved⟩⟩ := hholds.row
    · exact absurd happ (hnoApp g hg)
    · rcases hvouched g user r hr hopen happroved with hsince | hnobody
      · exact ⟨g, hg, hsince⟩
      · exact absurd hactive.hasWallet hnobody

theorem managersApproved_managedRun : ManagersApproved .amd64 managedRun 4 := by
  refine managersApproved_of_newcomersUngranted .amd64 managedRun live_managedRun ?_ 4 (by decide)
  intro n sub hsub his
  have hnone : ∀ n, n < 2 → (stateAt .amd64 managedRun n).grants.entries = [] := by
    decide +kernel
  match n with
  | 0 | 1 =>
    intro _ w _ _ _ user r hr
    rw [← Table.mem_entries_iff, hnone _ (by omega)] at hr
    cases hr
  | 2 | 3 =>
    cases hsub
    exact absurd his (by decide +kernel)
  | n + 4 => cases hsub

def inheritedGrantRun : List Submission :=
  [submit 1 "User" "Create" "0xa1" "",
    submit 1 "DeveloperApp" "Create" "0xa1" "\x7b\"address\":\"0xc3\"\x7d",
    submit 1 "Grant" "Create" "0xa1" "\x7b\"grantee_address\":\"0xc3\"\x7d",
    submit 1 "DeveloperApp" "Delete" "0xa1" "\x7b\"address\":\"0xc3\"\x7d",
    submit 2 "User" "Create" "0xc3" ""]

/-- The new user may sign for the grantor although nobody approved. -/
theorem inheritedGrant_unapproved :
    Live inheritedGrantRun ∧ ¬ ManagersApproved .amd64 inheritedGrantRun 5 := by
  refine ⟨by decide, fun h => ?_⟩
  have hnever : ∀ sub ∈ inheritedGrantRun, ¬ sub.tx.Is .amd64 .grant .approve := by
    decide +kernel
  have hdeleted : (stateAt .amd64 inheritedGrantRun 5).apps.lookup ⟨"0xc3", by decide⟩ =
      some ⟨1, true⟩ := by
    decide +kernel
  obtain ⟨g, -, i, -, ⟨tx, ⟨sub, hsub, rfl, -⟩, happroves⟩, -⟩ :=
    h 1 "0xc3" ⟨⟨"0xa1", by decide⟩, none, false⟩ (by decide +kernel) (by decide +kernel)
      (by
        rintro g hg ⟨r, hr, hlive⟩
        obtain rfl : g = ⟨"0xc3", by decide⟩ := PgText.ext (hg.trans (by decide +kernel))
        rw [hdeleted, Option.some.injEq] at hr
        rw [← hr] at hlive
        cases hlive)
      (by unfold SignerAuthorized; decide +kernel)
  exact hnever sub (List.mem_of_getElem? hsub) happroves.approve

/-! ### Handles -/

def HandlesDistinct (S : AuthTables) : Prop :=
  ∀ i j u v h, S.users.lookup i = some u → S.users.lookup j = some v → u.handleLc = some h →
    v.handleLc = some h → h.val ≠ "" → i = j

/-- A user who is renamed takes a handle nobody else has. -/
def RenamesToFree (rt : GoRuntime) (S : AuthTables) (tx : AuthTx) : Prop :=
  tx.Is rt .user .update → SignerAuthorized rt S.store tx.userId tx.signer →
    ∀ h : PgText, h.val = rt.toLower (tx.metaString "handle") → h.val ≠ "" →
      ∀ id u, S.users.lookup id = some u → u.handleLc = some h → id = tx.userId

theorem AuthStep.handle_cases {rt : GoRuntime} {rules : Rules} {tx : AuthTx} {S S' : AuthTables}
    (h : AuthStep rt rules tx S S') (hfree : RenamesToFree rt S tx) {id : Int}
    {u : AuthUserRecord} {q : PgText} (hu : S'.users.lookup id = some u)
    (hq : u.handleLc = some q) :
    (∃ u₀, S.users.lookup id = some u₀ ∧ u₀.handleLc = some q) ∨
      (id = tx.userId ∧ ∀ id' u', S.users.lookup id' = some u' → u'.handleLc = some q →
        id' = tx.userId) := by
  rcases h.user_cases hu with hold | ⟨hid, hfound⟩ | ⟨hid, u₀, hupdate⟩
  · exact .inl ⟨u, hold, hq⟩
  · refine .inr ⟨hid, fun id' u' hu' hq' => ?_⟩
    exact absurd ⟨id', u', hu', hq'⟩ (hfound.handle q hq).2
  · rcases hupdate.handle with hsame | ⟨q', hq', hval, hne⟩
    · rw [hsame] at hq
      exact .inl ⟨u₀, hid ▸ hupdate.old, hq⟩
    · have hqq : q' = q := Option.some.inj (hq'.symm.trans hq)
      subst hqq
      have hauth := (signerAuthorized_iff (t := S.store) rfl).mpr hupdate.signer
      exact .inr ⟨hid, hfree hupdate.update hauth q' hval hne⟩

theorem AuthStep.handlesDistinct {rt : GoRuntime} {rules : Rules} {tx : AuthTx}
    {S S' : AuthTables} (h : AuthStep rt rules tx S S') (hfree : RenamesToFree rt S tx)
    (hS : HandlesDistinct S) : HandlesDistinct S' := by
  intro i j u v q hu hv hqu hqv hne
  rcases h.handle_cases hfree hu hqu with ⟨u₀, hu₀, hqu₀⟩ | ⟨hi, hothers⟩
  · rcases h.handle_cases hfree hv hqv with ⟨v₀, hv₀, hqv₀⟩ | ⟨hj, hothers⟩
    · exact hS i j u₀ v₀ q hu₀ hv₀ hqu₀ hqv₀ hne
    · exact (hothers i u₀ hu₀ hqu₀).trans hj.symm
  · rcases h.handle_cases hfree hv hqv with ⟨v₀, hv₀, hqv₀⟩ | ⟨hj, -⟩
    · exact hi.trans (hothers j v₀ hv₀ hqv₀).symm
    · exact hi.trans hj.symm

/-- Along a run in which every rename takes a handle nobody else has, handles stay distinct. -/
theorem handlesDistinct_of_renamesToFree (rt : GoRuntime) (run : List Submission)
    (hlive : Live run) (hfree : Along rt (RenamesToFree rt) run) (n : Nat)
    (hn : n ≤ run.length) : HandlesDistinct (stateAt rt run n) := by
  refine stateAt_invariant hlive ?_ (fun n sub hsub hS h => ?_) hn
  · intro i j u v q hu
    exact absurd hu not_lookup_empty_users
  · exact h.handlesDistinct (hfree n sub hsub) hS

def renameRun (handle : String) : List Submission :=
  [submit 1 "User" "Create" "0xa1" "\x7b\"handle\":\"alice\"\x7d",
    submit 2 "User" "Create" "0xb2" "\x7b\"handle\":\"bob\"\x7d",
    submit 2 "User" "Update" "0xb2" ("\x7b\"handle\":\"" ++ handle ++ "\"\x7d")]

theorem handlesDistinct_rename : HandlesDistinct (stateAt .amd64 (renameRun "carol") 3) := by
  refine handlesDistinct_of_renamesToFree .amd64 (renameRun "carol") (by decide) ?_ 3 (by decide)
  intro n sub hsub his
  match n with
  | 0 | 1 =>
    cases hsub
    exact absurd his (by decide +kernel)
  | 2 =>
    cases hsub
    intro _ q hq _ id u hu hqu
    have hnone : (stateAt .amd64 (renameRun "carol") 2).users.any
        (fun _ u => u.handleLc == some ⟨"carol", by decide⟩) = false := by
      decide +kernel
    obtain rfl : q = ⟨"carol", by decide⟩ := PgText.ext (hq.trans (by decide +kernel))
    have hsome := (Table.any_iff (stateAt .amd64 (renameRun "carol") 2).users
      (fun _ u => u.handleLc == some ⟨"carol", by decide⟩)).mpr ⟨id, u, hu, by simp [hqu]⟩
    rw [hnone] at hsome
    cases hsome
  | n + 3 => cases hsub

/-- The second user takes the handle of the first. -/
theorem handle_taken_by_rename :
    Live (renameRun "Alice") ∧ ¬ HandlesDistinct (stateAt .amd64 (renameRun "Alice") 3) := by
  refine ⟨by decide, fun h => ?_⟩
  have hsame := h 1 2 ⟨⟨"0xa1", by decide⟩, some ⟨"alice", by decide⟩, false⟩
    ⟨⟨"0xb2", by decide⟩, some ⟨"alice", by decide⟩, false⟩ ⟨"alice", by decide⟩
    (by decide +kernel) (by decide +kernel) rfl rfl (by decide)
  exact absurd hsame (by decide)

end OpenAudio.Core
