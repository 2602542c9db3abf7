import OpenAudio.Core.Rewards.Pools

/-!
# Rewards of a migrated chain

The genesis writer puts blocks straight into Postgres and projects their reward transactions onto
the tables that execution would have filled. The projection checks neither deadlines nor
authorities. It takes the place of a transaction in its block for the index of the message, where
execution numbers the messages within their transaction.
-/

namespace OpenAudio.Core

open Prog

/-! ### The projection -/

def projectRewardPool (rt : GoRuntime) (envelope : RewardPoolMessage) : BlockProg Unit :=
  match envelope.body with
  | none => fail (.plain "reward pool message has no body")
  | some body =>
    match body.action with
    | some (.create create) =>
      BlockProg.context s!"insert reward pool {create.rewardsManagerPubkey}"
        (BlockProg.exec (Db.insertRewardPool create.rewardsManagerPubkey
          (canonicalAuthorities rt create.authorities)))
    | some (.setAuthorities _) =>
      fail (.plain
        "reward pool projection covers Create only; got *v1.RewardPoolBody_SetAuthorities")
    | none => fail (.plain "reward pool projection covers Create only; got <nil>")

def insertProjectedReward (ext : Externals) (create : CreateReward) (signer chainID : String)
    (height messageIndex : Int) (txhash : String) : BlockProg Unit := do
  let txhashBytes ← ofExcept (Server.text s!"invalid txhash {txhash}: " (ext.hexToBytes txhash))
  BlockProg.context s!"insert reward {create.rewardId}"
    (BlockProg.exec (Db.insertCoreReward
      (ext.createAddress txhashBytes chainID height messageIndex "") txhash messageIndex signer
      create.rewardId create.name (wrapInt64 create.amount) (some create.rewardsManagerPubkey)
      (ext.marshal (.createReward create)) height))

def projectReward (ext : Externals) (msg : RewardMessage) (chainID : String)
    (height messageIndex : Int) (txhash : String) : BlockProg Unit :=
  match msg.body with
  | none => fail (.plain "reward message has no body")
  | some body =>
    match body.action with
    | some (.create create) => do
      let signer ← ofExcept (Server.text s!"recover reward signer for tx {txhash}: "
        (ext.protoRecover (.rewardBody body) msg.signature))
      insertProjectedReward ext create signer chainID height messageIndex txhash
    | some (.delete _) =>
      fail (.plain "reward projection covers Create only; got *v1.RewardBody_Delete")
    | none => fail (.plain "reward projection covers Create only; got <nil>")

/-- `ProjectMigrationRewardState`: whether the transaction is one of rewards. -/
def projectMigrationRewardState (ext : Externals) (stx : SignedTransaction) (chainID : String)
    (height messageIndex : Int) (txhash : String) : BlockProg Bool :=
  match stx.transaction with
  | some (.rewardPool envelope) => do
    projectRewardPool ext.rt envelope
    return true
  | some (.reward msg) => do
    projectReward ext msg chainID height messageIndex txhash
    return true
  | _ => return false

/-- `ProjectMigrationAuthState`: whether the migration was skipped. -/
def projectMigrationAuthState (rt : GoRuntime) (me : ManageEntityLegacyMigration) :
    BlockProg Bool := do
  let outcome ← attempt (applyAuthProjection rt (authTxFromManageEntityMigration me) {})
  match outcome with
  | .ok () => return false
  | .error (.validation _) => return true
  | .error (.store e) => fail (.store e)

/-- The authorization effects of a migration; a skip is only logged. -/
def projectAuthState (ext : Externals) (height : Int) (stx : SignedTransaction) (txhash : String) :
    BlockProg Unit :=
  match stx.transaction with
  | some (.manageEntityMigration me) => do
    let _ ← BlockProg.context s!"project auth state for tx {txhash} height={height}"
      (projectMigrationAuthState ext.rt me)
  | _ => pure ()

/-- The effects of the transaction at place `i` of its block. -/
def projectTx (ext : Externals) (chainID : String) (height : Int) (i : Nat) (tx : Bytes) :
    BlockProg Unit :=
  let txhash := ext.toTxHashFromBytes tx
  match ext.unmarshalSigned tx with
  | none => fail (.plain s!"decode tx {txhash} for state projection height={height}")
  | some stx => do
    let handled ← BlockProg.context s!"project reward state for tx {txhash} height={height}"
      (projectMigrationRewardState ext stx chainID height i txhash)
    if handled then pure () else projectAuthState ext height stx txhash

/-- The loop of `projectBlockAuthState`, from place `i` on. -/
def projectFrom (ext : Externals) (chainID : String) (height : Int) :
    Nat → List Bytes → BlockProg Unit
  | _, [] => pure ()
  | i, tx :: txs => do
    projectTx ext chainID height i tx
    projectFrom ext chainID height (i + 1) txs

def projectBlockAuthState (ext : Externals) (chainID : String) (height : Int)
    (txs : List Bytes) : BlockProg Unit :=
  projectFrom ext chainID height 0 txs

/-! ### What the two insert -/

/-- The row an insertion of a reward makes of its parameters. -/
def rewardRow (address txHash : String) (index : Int) (sender rewardId name : String)
    (amount : Int) (rewardsManagerPubkey : Option String) (rawMessage : Bytes)
    (blockHeight : Int) : Except PgError RewardRow := do
  let address ← PgText.ofString address
  let txHash ← PgText.ofString txHash
  let sender ← PgText.ofString sender
  let rewardId ← PgText.ofString rewardId
  let name ← PgText.ofString name
  let rm ← rewardsManagerPubkey.mapM PgText.ofString
  return ⟨address, txHash, index, sender, rewardId, name, amount, rm, rawMessage, blockHeight⟩

theorem rewardRow_index {address txHash : String} {index : Int} {sender rewardId name : String}
    {amount : Int} {rm : Option String} {raw : Bytes} {height : Int} {row : RewardRow}
    (h : rewardRow address txHash index sender rewardId name amount rm raw height = .ok row) :
    row.index = index := by
  obtain ⟨_, -, h⟩ := except_bind_eq_ok.mp h
  obtain ⟨_, -, h⟩ := except_bind_eq_ok.mp h
  obtain ⟨_, -, h⟩ := except_bind_eq_ok.mp h
  obtain ⟨_, -, h⟩ := except_bind_eq_ok.mp h
  obtain ⟨_, -, h⟩ := except_bind_eq_ok.mp h
  obtain ⟨_, -, h⟩ := except_bind_eq_ok.mp h
  cases h
  rfl

theorem insertCoreReward_eq_ok {address txHash : String} {index : Int}
    {sender rewardId name : String} {amount : Int} {rm : Option String} {raw : Bytes}
    {height : Int} {db db' : Db} {u : Unit}
    (h : Db.insertCoreReward address txHash index sender rewardId name amount rm raw height db =
      .ok (u, db')) :
    ∃ row, rewardRow address txHash index sender rewardId name amount rm raw height = .ok row ∧
      db'.rewards.pools = db.rewards.pools ∧
      db'.rewards.rewards = db.rewards.rewards ++ [row] := by
  obtain ⟨a, ha, h⟩ := except_bind_eq_ok.mp h
  obtain ⟨b, hb, h⟩ := except_bind_eq_ok.mp h
  obtain ⟨c, hc, h⟩ := except_bind_eq_ok.mp h
  obtain ⟨d, hd, h⟩ := except_bind_eq_ok.mp h
  obtain ⟨e, he, h⟩ := except_bind_eq_ok.mp h
  obtain ⟨rm', hrm, h⟩ := except_bind_eq_ok.mp h
  split at h
  · cases h
  · cases h
    refine ⟨_, ?_, rfl, rfl⟩
    simp only [rewardRow, ha, hb, hc, hd, he, hrm]
    rfl

theorem insertRewardPool_eq_ok {pubkey : String} {authorities : List String} {db db' : Db}
    {u : Unit} (h : Db.insertRewardPool pubkey authorities db = .ok (u, db')) :
    ∃ rm list, PgText.ofString pubkey = .ok rm ∧ Db.bindTexts authorities = .ok list ∧
      db.rewards.pools.lookup rm = none ∧
      db'.rewards.pools = db.rewards.pools.insert rm list ∧
      db'.rewards.rewards = db.rewards.rewards := by
  obtain ⟨rm, hrm, h⟩ := except_bind_eq_ok.mp h
  obtain ⟨list, hlist, h⟩ := except_bind_eq_ok.mp h
  split at h
  · cases h
  · rename_i hnew
    cases h
    refine ⟨rm, list, hrm, hlist, ?_, rfl, rfl⟩
    simpa using hnew

theorem projectRewardPool_eq_ok {rt : GoRuntime} {envelope : RewardPoolMessage} {t t' : Txn Db}
    {u : Unit} (h : projectRewardPool rt envelope t = (.ok u, t')) :
    ∃ body create rm list, envelope.body = some body ∧ body.action = some (.create create) ∧
      PgText.ofString create.rewardsManagerPubkey = .ok rm ∧
      Db.bindTexts (canonicalAuthorities rt create.authorities) = .ok list ∧
      t.view.rewards.pools.lookup rm = none ∧
      t'.view.rewards.pools = t.view.rewards.pools.insert rm list ∧
      t'.view.rewards.rewards = t.view.rewards.rewards := by
  unfold projectRewardPool at h
  cases hbody : envelope.body with
  | none =>
    rw [hbody] at h
    cases h
  | some body =>
    simp only [hbody] at h
    cases haction : body.action with
    | none =>
      rw [haction] at h
      cases h
    | some action =>
      rw [haction] at h
      cases action with
      | setAuthorities msg => cases h
      | create create =>
        obtain ⟨rm, list, h⟩ := insertRewardPool_eq_ok (BlockProg.exec_context_eq_ok h).2
        exact ⟨body, create, rm, list, rfl, haction, h⟩

theorem projectReward_eq_ok {ext : Externals} {msg : RewardMessage} {chainID : String}
    {height messageIndex : Int} {txhash : String} {t t' : Txn Db} {u : Unit}
    (h : projectReward ext msg chainID height messageIndex txhash t = (.ok u, t')) :
    ∃ body create signer bytes row, msg.body = some body ∧ body.action = some (.create create) ∧
      ext.protoRecover (.rewardBody body) msg.signature = .ok signer ∧
      ext.hexToBytes txhash = .ok bytes ∧
      rewardRow (ext.createAddress bytes chainID height messageIndex "") txhash messageIndex signer
        create.rewardId create.name (wrapInt64 create.amount) (some create.rewardsManagerPubkey)
        (ext.marshal (.createReward create)) height = .ok row ∧
      t'.view.rewards.pools = t.view.rewards.pools ∧
      t'.view.rewards.rewards = t.view.rewards.rewards ++ [row] := by
  unfold projectReward at h
  cases hbody : msg.body with
  | none =>
    rw [hbody] at h
    cases h
  | some body =>
    simp only [hbody] at h
    cases haction : body.action with
    | none =>
      rw [haction] at h
      cases h
    | some action =>
      rw [haction] at h
      cases action with
      | delete msg => cases h
      | create create =>
        obtain ⟨signer, hsigner, h⟩ := ofExcept_bind_eq_ok h
        obtain ⟨bytes, hbytes, h⟩ := ofExcept_bind_eq_ok h
        obtain ⟨row, hrow, hrows⟩ := insertCoreReward_eq_ok (BlockProg.exec_context_eq_ok h).2
        exact ⟨body, create, signer, bytes, row, rfl, haction, except_mapError_eq_ok.mp hsigner,
          except_mapError_eq_ok.mp hbytes, hrow, hrows⟩

namespace Server

variable (s : Server)

theorem finalizePoolCreate_eq_ok {req : FinalizeBlockRequest} {envelope : RewardPoolMessage}
    {body : RewardPoolBody} {create : CreateRewardPool} {txhash : String} {index : Int}
    {t t' : Txn Db} {u : Unit} {rm : PgText} {list : List PgText} (hbody : envelope.body = some body)
    (haction : body.action = some (.create create))
    (hrm : PgText.ofString create.rewardsManagerPubkey = .ok rm)
    (hlist : Db.bindTexts (canonicalAuthorities s.rt create.authorities) = .ok list)
    (hnew : t.view.rewards.pools.lookup rm = none)
    (h : s.finalizeRewardPoolTransaction req envelope txhash index t = (.ok u, t')) :
    t'.view.rewards.pools = t.view.rewards.pools.insert rm list ∧
      t'.view.rewards.rewards = t.view.rewards.rewards := by
  simp only [finalizeRewardPoolTransaction, hbody, haction] at h
  obtain ⟨signer, -, h⟩ := ofExcept_bind_eq_ok h
  obtain ⟨_, -, h⟩ := ofExcept_bind_eq_ok (mapError_eq_ok h)
  obtain ⟨pool, t₁, hquery, h⟩ := bind_eq_ok h
  rcases BlockProg.query_context_cases "failed to check pool existence at finalize"
      (Db.getRewardPool create.rewardsManagerPubkey) t with ⟨e, t₂, hfail, -⟩ | ⟨a, -, ha, hq⟩
  · rw [hfail] at hquery
    cases hquery
  · rw [hq] at hquery
    cases hquery
    rw [getRewardPool_of_ofString hrm, hnew] at ha
    cases ha
    obtain ⟨-, d, hstmt, rfl⟩ := Txn.exec_eq_ok (mapError_eq_ok h)
    obtain ⟨rm', list', hrm', hlist', -, hpools, hrewards⟩ := insertRewardPool_eq_ok hstmt
    rw [hrm] at hrm'
    rw [hlist] at hlist'
    cases hrm'
    cases hlist'
    exact ⟨hpools, hrewards⟩

theorem finalizeReward_eq_ok {req : FinalizeBlockRequest} {envelope : RewardMessage}
    {body : RewardBody} {create : CreateReward} {signer txhash : String} {index : Int}
    {bytes : Bytes} {t t' : Txn Db} {u : Unit} (hbody : envelope.body = some body)
    (haction : body.action = some (.create create))
    (hsigner : s.ext.protoRecover (.rewardBody body) envelope.signature = .ok signer)
    (hbytes : s.ext.hexToBytes txhash = .ok bytes)
    (h : s.finalizeRewards req txhash index envelope t = (.ok u, t')) :
    ∃ row, rewardRow (s.ext.createAddress bytes s.config.chainID req.height index "") txhash index
        signer create.rewardId create.name (wrapInt64 create.amount)
        (some create.rewardsManagerPubkey) (s.ext.marshal (.createReward create)) req.height =
          .ok row ∧
      t'.view.rewards.pools = t.view.rewards.pools ∧
      t'.view.rewards.rewards = t.view.rewards.rewards ++ [row] := by
  simp only [finalizeRewards, hbody, haction] at h
  obtain ⟨signer', hsigner', h⟩ := ofExcept_bind_eq_ok h
  obtain ⟨-, hrecover⟩ := s.recoverDeadlinedSigner_eq_ok.mp (except_mapError_eq_ok.mp hsigner')
  rw [hsigner] at hrecover
  cases hrecover
  have hcreate : s.finalizeCreateReward req txhash index create signer t = (.ok u, t') :=
    mapError_eq_ok h
  obtain ⟨_, t₁, hcheck, hinsert⟩ := bind_eq_ok hcreate
  obtain rfl : t₁ = t := by
    obtain ⟨pool, t₂, hquery, hcheck⟩ := bind_eq_ok hcheck
    have hcheck' : (poolAuthorizes s.rt create.rewardsManagerPubkey signer pool, t₂) =
        (.ok _, t₁) := hcheck
    obtain ⟨-, rfl⟩ := Prod.mk.inj hcheck'
    rcases BlockProg.query_context_cases s!"failed to load pool {create.rewardsManagerPubkey}"
        (Db.getRewardPool create.rewardsManagerPubkey) t with ⟨e, t₂, hfail, -⟩ | ⟨a, -, -, hq⟩
    · rw [hfail] at hquery
      cases hquery
    · rw [hq] at hquery
      exact (Prod.mk.inj hquery).2.symm
  obtain ⟨address, haddress, hinsert⟩ := ofExcept_bind_eq_ok hinsert
  have haddress' : address = s.ext.createAddress bytes s.config.chainID req.height index "" := by
    rw [rewardAddress, text, hbytes] at haddress
    exact (Except.ok.inj haddress).symm
  rw [haddress'] at hinsert
  exact insertCoreReward_eq_ok (BlockProg.exec_context_eq_ok hinsert).2

/-! ### A block -/

def finalizeTx (req : FinalizeBlockRequest) (tx : Bytes) : BlockProg Unit :=
  match s.ext.unmarshalSigned tx with
  | none => fail (.plain "invalid transaction")
  | some stx => s.finalizeTransaction req stx (s.ext.toTxHashFromBytes tx)

/-- The transaction is one of rewards or of reward pools. -/
def IsRewardTx (tx : Bytes) : Prop :=
  (∃ msg, s.bodyOf tx = some (.reward msg)) ∨ ∃ msg, s.bodyOf tx = some (.rewardPool msg)

def CarriesReward (tx : Bytes) : Prop := ∃ msg, s.bodyOf tx = some (.reward msg)

/-- The reward tables of two views agree but for the rewards themselves, of which there are
equally many. -/
structure Alongside (t t' : Txn Db) : Prop where
  pools : t.view.rewards.pools = t'.view.rewards.pools
  count : t.view.rewards.rewards.length = t'.view.rewards.rewards.length

/-- What the projection and the finalizer of one transaction leave: their rewards agree if they
did and the transaction carries none, or comes first. -/
theorem alongside_tx {req : FinalizeBlockRequest} {tx : Bytes} {i : Nat} {t t' u u' : Txn Db}
    (hkind : s.IsRewardTx tx) (h : Alongside t u)
    (hproject : projectTx s.ext s.config.chainID req.height i tx t = (.ok (), t'))
    (hfinal : s.finalizeTx req tx u = (.ok (), u')) :
    Alongside t' u' ∧ (t'.view.rewards.rewards = u'.view.rewards.rewards ↔
      t.view.rewards.rewards = u.view.rewards.rewards ∧ (s.CarriesReward tx → i = 0)) := by
  unfold projectTx at hproject
  unfold finalizeTx at hfinal
  cases hstx : s.ext.unmarshalSigned tx with
  | none =>
    rw [hstx] at hfinal
    cases hfinal
  | some stx =>
    have hbodyOf : s.bodyOf tx = stx.transaction := by rw [bodyOf, hstx]; rfl
    simp only [hstx] at hproject hfinal
    obtain ⟨handled, t₁, hreward, hrest⟩ := bind_eq_ok hproject
    have hreward := mapError_eq_ok hreward
    rcases hkind with ⟨msg, hmsg⟩ | ⟨msg, hmsg⟩
    · rw [hbodyOf] at hmsg
      simp only [projectMigrationRewardState, finalizeTransaction, hmsg] at hreward hfinal
      obtain ⟨_, t₂, hproj, hdone⟩ := bind_eq_ok hreward
      cases hdone
      cases hrest
      obtain ⟨body, create, signer, bytes, row, hbody, haction, hsigner, hbytes, hrow, hpools,
        hrewards⟩ := projectReward_eq_ok hproj
      obtain ⟨row', hrow', hpools', hrewards'⟩ :=
        s.finalizeReward_eq_ok hbody haction hsigner hbytes hfinal
      refine ⟨⟨by rw [hpools, hpools', h.pools], by simp [hrewards, hrewards', h.count]⟩, ?_⟩
      -- the rows have the indices `i` and 0, and nothing else in which they could differ
      have hsame : row = row' ↔ i = 0 := by
        constructor
        · rintro rfl
          have hi := rewardRow_index hrow
          rw [rewardRow_index hrow'] at hi
          exact_mod_cast hi.symm
        · rintro rfl
          exact Except.ok.inj (hrow.symm.trans hrow')
      have hcarries : s.CarriesReward tx := ⟨msg, hbodyOf.trans hmsg⟩
      rw [hrewards, hrewards', ← hsame]
      constructor
      · intro heq
        obtain ⟨hinit, hlast⟩ := List.append_inj' heq rfl
        exact ⟨hinit, fun _ => List.singleton_inj.mp hlast⟩
      · rintro ⟨hinit, hlast⟩
        rw [hinit, hlast hcarries]
    · rw [hbodyOf] at hmsg
      simp only [projectMigrationRewardState, finalizeTransaction, hmsg] at hreward hfinal
      obtain ⟨_, t₂, hproj, hdone⟩ := bind_eq_ok hreward
      cases hdone
      cases hrest
      obtain ⟨body, create, rm, list, hbody, haction, hrm, hlist, hnew, hpools, hrewards⟩ :=
        projectRewardPool_eq_ok hproj
      rw [h.pools] at hnew
      obtain ⟨hpools', hrewards'⟩ :=
        s.finalizePoolCreate_eq_ok hbody haction hrm hlist hnew hfinal
      have hcarries : ¬ s.CarriesReward tx := by
        rintro ⟨msg', hmsg'⟩
        rw [hbodyOf, hmsg] at hmsg'
        cases hmsg'
      refine ⟨⟨by rw [hpools, hpools', h.pools], by rw [hrewards, hrewards', h.count]⟩, ?_⟩
      rw [hrewards, hrewards']
      exact ⟨fun heq => ⟨heq, fun hc => absurd hc hcarries⟩, And.left⟩

theorem alongside_from {req : FinalizeBlockRequest} {txs : List Bytes} {i : Nat}
    {t t' u u' : Txn Db} (hkind : ∀ tx ∈ txs, s.IsRewardTx tx) (h : Alongside t u)
    (hproject : projectFrom s.ext s.config.chainID req.height i txs t = (.ok (), t'))
    (hfinal : forEach txs (s.finalizeTx req) u = (.ok (), u')) :
    Alongside t' u' ∧ (t'.view.rewards.rewards = u'.view.rewards.rewards ↔
      t.view.rewards.rewards = u.view.rewards.rewards ∧
        ∀ j tx, txs[j]? = some tx → s.CarriesReward tx → i + j = 0) := by
  induction txs generalizing i t u with
  | nil =>
    cases hproject
    cases hfinal
    simp [h]
  | cons tx txs ih =>
    obtain ⟨_, t₁, hproject₁, hproject⟩ := bind_eq_ok hproject
    obtain ⟨_, u₁, hfinal₁, hfinal⟩ := bind_eq_ok hfinal
    obtain ⟨h₁, hfirst⟩ := s.alongside_tx (hkind tx List.mem_cons_self) h hproject₁ hfinal₁
    obtain ⟨h', hrest⟩ :=
      ih (fun tx' htx' => hkind tx' (List.mem_cons_of_mem tx htx')) h₁ hproject hfinal
    refine ⟨h', ?_⟩
    rw [hrest, hfirst, and_assoc]
    refine and_congr_right fun _ => ?_
    constructor
    · rintro ⟨hhead, htail⟩ j tx' hj hcarries
      cases j with
      | zero =>
        cases hj
        exact hhead hcarries
      | succ j => exact absurd (htail j tx' hj hcarries) (by omega)
    · intro hall
      refine ⟨fun hcarries => by simpa using hall 0 tx rfl hcarries, fun j tx' hj hcarries => ?_⟩
      have hnext := hall (j + 1) tx' hj hcarries
      omega

/-- A block that the writer writes and whose transactions execution would accept: the projected
rows are those of execution if and only if no reward stands after the first place. -/
theorem projected_rows_iff {s : Server} {req : FinalizeBlockRequest} {t t' u' : Txn Db}
    (hkind : ∀ tx ∈ req.txs, s.IsRewardTx tx)
    (hproject : projectBlockAuthState s.ext s.config.chainID req.height req.txs t = (.ok (), t'))
    (hfinal : forEach req.txs (s.finalizeTx req) t = (.ok (), u')) :
    (t'.view.rewards.pools = u'.view.rewards.pools ∧
        t'.view.rewards.rewards = u'.view.rewards.rewards) ↔
      ∀ i tx, req.txs[i]? = some tx → s.CarriesReward tx → i = 0 := by
  obtain ⟨halong, hrewards⟩ := s.alongside_from hkind ⟨rfl, rfl⟩ hproject hfinal
  simp only [true_and, Nat.zero_add] at hrewards
  rw [← hrewards]
  exact and_iff_right halong.pools

/-! ### Two rewards in one block -/

/-- A reward in the pool of 32 zero bytes, signed by the first key, in a transaction of a block at
height 2. -/
structure RecordedReward where
  create : CreateReward
  createBytes : Bytes
  bodyBytes : Bytes
  bodyDigest : Externals.Digest
  signature : String
  signatureBytes : Bytes
  bytes : Bytes
  digest : Externals.Digest
  hashDigest : Externals.Digest
  /-- the digest an address is cut from, by the index of the message -/
  addresses : List (Int × Externals.Digest)

namespace RecordedReward

variable (r : RecordedReward)

def body : RewardBody where
  deadlineBlockHeight := 100
  action := some (.create r.create)

def signed : SignedTransaction where
  requestId := r.create.rewardId
  transaction := some (.reward { body := some r.body, signature := r.signature })

def salt (index : Int) : Bytes :=
  textBytes (":openaudio-devnet:" ++ runeText 2 ++ ":" ++ runeText index)

def saltDigest (index : Int) : Externals.Digest :=
  if index = 0 then
    Externals.digest 0xffbede72fcace4bffeab7a582f3e5d08c2786550fbaef2692491cfd4843b62af
  else Externals.digest 0xdea3823fa224bee5dbd68bea8155693e8d152259f08e13685e8c9dd227a9f843

def calls : Externals.Recorded where
  sha256 := [(r.bodyBytes, r.bodyDigest), (r.bytes, r.digest), (salt 0, saltDigest 0),
    (salt 1, saltDigest 1)]
  keccak256 := (r.digest.val, r.hashDigest) :: r.addresses.map fun address =>
    (0xff :: textBytes "openaudio-devnet" ++ (saltDigest address.1).val ++ r.hashDigest.val,
      address.2)
  sigToPub := [((r.bodyDigest.val, r.signatureBytes), firstKey.pubKey)]
  marshal := [(.rewardBody r.body, r.bodyBytes), (.createReward r.create, r.createBytes)]
  unmarshalSigned := [(r.bytes, r.signed)]

end RecordedReward

def firstReward : RecordedReward where
  create := ⟨"r1", "First", 1, "11111111111111111111111111111111", []⟩
  createBytes := bigEndian 40 0xa0272311205466972737418013a2031313131313131313131313131313131313131313131313131 ++
    bigEndian 7 0x31313131313131
  bodyBytes := bigEndian 40 0x864c23e2f0a0272311205466972737418013a203131313131313131313131313131313131313131 ++
    bigEndian 12 0x313131313131313131313131
  bodyDigest := Externals.digest 0x7818aca8dc72e7c05d1937ef37a3c61f1dc2540dc914a511d929301f06adbc9c
  signature := "8a78cd8b3819081e45c32764bb18ad00cb136cdfad1752f77e8e09beb9a5eac462" ++
    "497934b3f79c9deca41b5982b7da50786ccf85a7195be4d287962c3ae57dd901"
  signatureBytes := bigEndian 40 0x8a78cd8b3819081e45c32764bb18ad00cb136cdfad1752f77e8e09beb9a5eac462497934b3f79c9d ++
    bigEndian 25 0xeca41b5982b7da50786ccf85a7195be4d287962c3ae57dd901
  bytes := bigEndian 40 0x120272318a3fbb010a340864c23e2f0a0272311205466972737418013a2031313131313131313131 ++
    bigEndian 40 0x31313131313131313131313131313131313131313131128201386137386364386233383139303831 ++
    bigEndian 40 0x65343563333237363462623138616430306362313336636466616431373532663737653865303962 ++
    bigEndian 40 0x65623961356561633436323439373933346233663739633964656361343162353938326237646135 ++
    bigEndian 35 0x3037383663636638356137313935626534643238373936326333616535376464393031
  digest := Externals.digest 0xc1178b387ef8a8d7860d8225b16095b495f96ffe439938cbea6b3e2382fa7d75
  hashDigest := Externals.digest 0x39fe3c12e852a910645e1b2a089d3e113fc6fd1e296901cd87abb43cce4a857b
  addresses :=
    [(0, Externals.digest 0xc75d2acf3ff133dbf80ad21c3ca4b5c790c9b070789ae573083402d78a018976)]

def secondReward : RecordedReward where
  create := ⟨"r2", "Second", 2, "11111111111111111111111111111111", []⟩
  createBytes := bigEndian 40 0xa02723212065365636f6e6418023a20313131313131313131313131313131313131313131313131 ++
    bigEndian 8 0x3131313131313131
  bodyBytes := bigEndian 40 0x864c23e300a02723212065365636f6e6418023a2031313131313131313131313131313131313131 ++
    bigEndian 13 0x31313131313131313131313131
  bodyDigest := Externals.digest 0xce15a27409714dca4aebb650a2c9d2f1a61e046a99a8891f654d6f5942eccf58
  signature := "b7997c29cafe5a0a04b14e90a74fa8a069b7a156475d5c4788872c7199fad2c641" ++
    "2327c84ae2f1b925e759f51d813d0a74797e9d743f47336e45acd7df206da201"
  signatureBytes := bigEndian 40 0xb7997c29cafe5a0a04b14e90a74fa8a069b7a156475d5c4788872c7199fad2c6412327c84ae2f1b9 ++
    bigEndian 25 0x25e759f51d813d0a74797e9d743f47336e45acd7df206da201
  bytes := bigEndian 40 0x120272328a3fbc010a350864c23e300a02723212065365636f6e6418023a20313131313131313131 ++
    bigEndian 40 0x31313131313131313131313131313131313131313131311282016237393937633239636166653561 ++
    bigEndian 40 0x30613034623134653930613734666138613036396237613135363437356435633437383838373263 ++
    bigEndian 40 0x37313939666164326336343132333237633834616532663162393235653735396635316438313364 ++
    bigEndian 36 0x306137343739376539643734336634373333366534356163643764663230366461323031
  digest := Externals.digest 0xa255f01c61c70dd0c547cb9d3cec0a7e83535deb9975fcee74deb373658f43ea
  hashDigest := Externals.digest 0xe1f68c0a472ea031e70557ea0ca75d42bafe12b79ac2997905a1ad357f55e473
  addresses :=
    [(0, Externals.digest 0x465670db7b0ba8d09f460bc3e10f936edd345b169ccb0fd0724340d43c4d2bcf),
      (1, Externals.digest 0xc871ca4b81581d1cc81cb908ce75d402bf18fa0579629434a942fc231a5dee09)]

def rewardNode : Server :=
  .devnet (senderCalls ++ firstKey.calls ++ firstReward.calls ++ secondReward.calls) poolDb

def rewardBlock (rewards : List RecordedReward) : FinalizeBlockRequest where
  txs := rewards.map RecordedReward.bytes
  misbehavior := []
  hash := bigEndian 32 1
  height := 2
  time := { seconds := 1700000002 }
  proposerAddress := bigEndian 20 2

def projectedBlock (rewards : List RecordedReward) : Except GoError Unit × Txn Db :=
  projectBlockAuthState rewardNode.ext rewardNode.config.chainID (rewardBlock rewards).height
    (rewardBlock rewards).txs (Txn.begin poolDb)

def finalizedBlock (rewards : List RecordedReward) : Except GoError Unit × Txn Db :=
  forEach (rewardBlock rewards).txs (rewardNode.finalizeTx (rewardBlock rewards))
    (Txn.begin poolDb)

def rewardPlaces (t : Txn Db) : List (Int × String) :=
  t.view.rewards.rewards.map fun row => (row.index, row.address.val)

theorem bodyOf_rewards :
    rewardNode.bodyOf firstReward.bytes = firstReward.signed.transaction ∧
      rewardNode.bodyOf secondReward.bytes = secondReward.signed.transaction := by
  decide +kernel

/-- A reward that is alone in its block has the row execution gives it. -/
theorem projected_rows_first :
    (∀ tx ∈ (rewardBlock [firstReward]).txs, rewardNode.IsRewardTx tx) ∧
      (projectedBlock [firstReward]).1 = .ok () ∧ (finalizedBlock [firstReward]).1 = .ok () ∧
      rewardPlaces (projectedBlock [firstReward]).2 =
        [(0, "0x3ca4b5c790c9b070789ae573083402d78a018976")] ∧
      (projectedBlock [firstReward]).2.view.rewards.pools =
        (finalizedBlock [firstReward]).2.view.rewards.pools ∧
      (projectedBlock [firstReward]).2.view.rewards.rewards =
        (finalizedBlock [firstReward]).2.view.rewards.rewards := by
  have hrun : (projectedBlock [firstReward]).1 = .ok () ∧
      (finalizedBlock [firstReward]).1 = .ok () ∧
      rewardPlaces (projectedBlock [firstReward]).2 =
        [(0, "0x3ca4b5c790c9b070789ae573083402d78a018976")] := by decide +kernel
  have hkind : ∀ tx ∈ (rewardBlock [firstReward]).txs, rewardNode.IsRewardTx tx := by
    intro tx htx
    obtain rfl := List.mem_singleton.mp htx
    exact .inl ⟨_, bodyOf_rewards.1⟩
  refine ⟨hkind, hrun.1, hrun.2.1, hrun.2.2, ?_⟩
  have hproject : projectBlockAuthState rewardNode.ext rewardNode.config.chainID
      (rewardBlock [firstReward]).height (rewardBlock [firstReward]).txs (Txn.begin poolDb) =
        (.ok (), (projectedBlock [firstReward]).2) := eq_mk_of_fst hrun.1
  have hfinal : forEach (rewardBlock [firstReward]).txs
      (rewardNode.finalizeTx (rewardBlock [firstReward])) (Txn.begin poolDb) =
        (.ok (), (finalizedBlock [firstReward]).2) := eq_mk_of_fst hrun.2.1
  refine (projected_rows_iff hkind hproject hfinal).mpr ?_
  intro i tx hi _
  have hlt : i < 1 := (List.getElem?_eq_some_iff.mp hi).1
  omega

/-- The second reward of a block is written with its place as its index, and so at another address
than execution gives it. -/
theorem projected_second_reward :
    (∀ tx ∈ (rewardBlock [firstReward, secondReward]).txs, rewardNode.IsRewardTx tx) ∧
      (projectedBlock [firstReward, secondReward]).1 = .ok () ∧
      (finalizedBlock [firstReward, secondReward]).1 = .ok () ∧
      rewardPlaces (projectedBlock [firstReward, secondReward]).2 =
        [(0, "0x3ca4b5c790c9b070789ae573083402d78a018976"),
          (1, "0xce75d402bf18fa0579629434a942fc231a5dee09")] ∧
      rewardPlaces (finalizedBlock [firstReward, secondReward]).2 =
        [(0, "0x3ca4b5c790c9b070789ae573083402d78a018976"),
          (0, "0xe10f936edd345b169ccb0fd0724340d43c4d2bcf")] := by
  refine ⟨?_, by decide +kernel⟩
  intro tx htx
  have hmem : tx = firstReward.bytes ∨ tx = secondReward.bytes := by
    simpa only [rewardBlock, List.map_cons, List.map_nil, List.mem_pair] using htx
  rcases hmem with rfl | rfl
  · exact .inl ⟨_, bodyOf_rewards.1⟩
  · exact .inl ⟨_, bodyOf_rewards.2⟩

end Server

end OpenAudio.Core
