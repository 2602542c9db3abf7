import Mathlib.Data.List.Dedup
import Mathlib.Data.String.Basic
import OpenAudio.Core.Abci.Blocks
import OpenAudio.Core.Rewards.Senders

/-!
# Who governs a reward pool

The authorities of a pool are decided where its transactions are finalized, on the pools as the
transactions before them left them. A pool is created once, by the owner of its reward manager, and
after that its list changes only by a rotation that one of the authorities in the list signed.
-/

namespace OpenAudio.Core

open Prog

/-! ### Authority lists -/

theorem isAddressChar_of_isHexAddress {text : String} (h : isHexAddress text = true) :
    ∀ c ∈ text.toList, IsAddressChar c := by
  unfold isHexAddress at h
  simp only [Bool.and_eq_true, List.all_eq_true] at h
  obtain ⟨-, hdigits⟩ := h
  split at hdigits
  · rename_i rest hcs
    rw [hcs]
    simp only [List.forall_mem_cons]
    exact ⟨.inl (by decide), .inr (.inl rfl), fun c hc => .inl (hdigits c hc)⟩
  · rename_i rest hcs
    rw [hcs]
    simp only [List.forall_mem_cons]
    exact ⟨.inl (by decide), .inr (.inr rfl), fun c hc => .inl (hdigits c hc)⟩
  · exact fun c hc => .inl (hdigits c hc)

theorem ne_empty_of_isHexAddress {text : String} (h : isHexAddress text = true) : text ≠ "" := by
  rintro rfl
  exact absurd h (by decide)

theorem toLower_toLower_ascii (rt : GoRuntime) {text : String}
    (h : ∀ c ∈ text.toList, c.toNat < 128) : rt.toLower (rt.toLower text) = rt.toLower text := by
  unfold CaseTables.toLower
  rw [String.toList_ofList, List.map_map]
  congr 1
  apply List.map_congr_left
  intro c hc
  have key : ∀ d : Char, d.toNat < 128 → d.toLower.toNat < 128 ∧ d.toLower.toLower = d.toLower :=
    ascii_forall (by decide)
  obtain ⟨hascii, hlower⟩ := key c (h c hc)
  rw [Function.comp_apply, rt.lower_ascii c (h c hc), rt.lower_ascii _ hascii, hlower]

theorem validateAuthorityList_eq_ok {rt : GoRuntime} {addrs : List String} :
    validateAuthorityList rt addrs = .ok () ↔
      addrs ≠ [] ∧ ∀ a ∈ addrs, isHexAddress (trimSpace a) = true := by
  unfold validateAuthorityList
  by_cases hnil : addrs = []
  · simp [hnil]
  · rw [if_neg hnil]
    cases hfind : addrs.find? fun a => !isHexAddress (trimSpace a) with
    | none =>
      simp only [List.find?_eq_none, Bool.not_eq_true', Bool.not_eq_false] at hfind
      simpa [hnil] using hfind
    | some a =>
      have hmem := List.mem_of_find?_eq_some hfind
      have hbad := List.find?_some hfind
      simp only [reduceCtorEq, false_iff, not_and]
      intro _ hall
      rw [hall a hmem] at hbad
      cases hbad

/-- The form in which the authorities of a pool are stored. -/
structure Canonical (rt : GoRuntime) (list : List PgText) : Prop where
  ne_nil : list ≠ []
  sorted : list.Pairwise fun a b => a.val ≤ b.val
  nodup : list.Nodup
  lower : ∀ a ∈ list, rt.toLower a.val = a.val

theorem mem_canonicalAuthorities {rt : GoRuntime} {addrs : List String} {text : String} :
    text ∈ canonicalAuthorities rt addrs ↔
      text ≠ "" ∧ ∃ a ∈ addrs, rt.toLower (trimSpace a) = text := by
  unfold canonicalAuthorities
  rw [List.mem_insertionSort, List.mem_dedup, List.mem_filter, List.mem_map, decide_eq_true_eq]
  exact and_comm

theorem canonical_of_validateAuthorityList {rt : GoRuntime} {addrs : List String}
    (h : validateAuthorityList rt addrs = .ok ()) {list : List PgText}
    (hlist : list.map PgText.val = canonicalAuthorities rt addrs) : Canonical rt list := by
  obtain ⟨hnil, hhex⟩ := validateAuthorityList_eq_ok.mp h
  have hmem : ∀ a ∈ list, ∃ addr ∈ addrs, rt.toLower (trimSpace addr) = a.val := by
    intro a ha
    have ha := List.mem_map_of_mem (f := PgText.val) ha
    rw [hlist, mem_canonicalAuthorities] at ha
    exact ha.2
  constructor
  · -- the first address is stored
    intro hempty
    obtain ⟨addr, haddr⟩ := List.exists_mem_of_ne_nil addrs hnil
    have hstored : rt.toLower (trimSpace addr) ∈ canonicalAuthorities rt addrs := by
      refine mem_canonicalAuthorities.mpr ⟨?_, addr, haddr, rfl⟩
      rw [Ne, rt.toLower_eq_empty_iff]
      exact ne_empty_of_isHexAddress (hhex addr haddr)
    rw [← hlist, hempty] at hstored
    cases hstored
  · have hsorted : (list.map PgText.val).Pairwise (· ≤ ·) := by
      rw [hlist]
      exact List.pairwise_insertionSort _ _
    rwa [List.pairwise_map] at hsorted
  · have hnodup : (list.map PgText.val).Nodup := by
      rw [hlist]
      exact (List.perm_insertionSort _ _).nodup_iff.mpr (List.nodup_dedup _)
    exact hnodup.of_map
  · intro a ha
    obtain ⟨addr, haddr, hval⟩ := hmem a ha
    rw [← hval]
    apply toLower_toLower_ascii
    exact fun c hc => (isAddressChar_of_isHexAddress (hhex addr haddr) c hc).ascii

/-! ### What a pool transaction does -/

theorem poolAuthorizes_eq_ok {rt : GoRuntime} {rm signer : String} {pool : Option (List PgText)} :
    poolAuthorizes rt rm signer pool = .ok () ↔
      ∃ old, pool = some old ∧ ∃ a ∈ old, a.val = canonicalSigner rt signer := by
  unfold poolAuthorizes
  cases pool with
  | none => simp
  | some old => simp [refuseIf_eq_ok]

def Db.setPools (db : Db) (pools : Table PgText (List PgText)) : Db :=
  { db with rewards := { db.rewards with pools := pools } }

theorem exists_manager {ext : Externals} {pubkey : String}
    (h : validateRewardsManagerPubkeyShape ext pubkey = .ok ()) :
    ∃ rm, PgText.ofString pubkey = .ok rm := by
  unfold validateRewardsManagerPubkeyShape at h
  obtain ⟨-, h⟩ := refuseIf_bind_eq_ok.mp h
  obtain ⟨-, h⟩ := refuseIf_bind_eq_ok.mp h
  cases hdecode : ext.base58Decode pubkey with
  | error e =>
    rw [hdecode] at h
    cases h
  | ok bytes => exact ⟨_, PgText.ofString_of_nulFree (ext.base58Decode_nulFree _ _ hdecode)⟩

theorem exists_bindTexts_canonical {rt : GoRuntime} {addrs : List String}
    (h : validateAuthorityList rt addrs = .ok ()) :
    ∃ list, Db.bindTexts (canonicalAuthorities rt addrs) = .ok list := by
  apply Db.exists_bindTexts
  intro text htext
  obtain ⟨-, addr, haddr, rfl⟩ := mem_canonicalAuthorities.mp htext
  rw [rt.nulFree_toLower_iff]
  have hchars := isAddressChar_of_isHexAddress ((validateAuthorityList_eq_ok.mp h).2 addr haddr)
  refine nulFree_of_forall hchars ?_
  unfold IsAddressChar
  decide

namespace Server

variable (s : Server)

/-- A rotation goes through: its texts pass, the pool is there, and the signer is in its list. -/
structure Rotates (pools : Table PgText (List PgText)) (msg : SetRewardPoolAuthorities) (signer : String) (rm : PgText)
    (old list : List PgText) : Prop where
  shape : validateRewardsManagerPubkeyShape s.ext msg.rewardsManagerPubkey = .ok ()
  addresses : validateAuthorityList s.rt msg.authorities = .ok ()
  manager : rm.val = msg.rewardsManagerPubkey
  stored : list.map PgText.val = canonicalAuthorities s.rt msg.authorities
  found : pools.lookup rm = some old
  listed : ∃ a ∈ old, a.val = canonicalSigner s.rt signer

theorem getRewardPool_of_ofString {pubkey : String} {rm : PgText}
    (h : PgText.ofString pubkey = .ok rm) (db : Db) :
    Db.getRewardPool pubkey db = .ok (db.rewards.pools.lookup rm) := by
  rw [Db.getRewardPool, h]
  rfl

/-- Reading the pool of a manager in a block. -/
theorem queryPool_live {pubkey : String} {rm : PgText} (hrm : PgText.ofString pubkey = .ok rm)
    (text : String) (db : Db) :
    BlockProg.context text (BlockProg.query (Db.getRewardPool pubkey)) ⟨db, false⟩ =
      (.ok (db.rewards.pools.lookup rm), ⟨db, false⟩) :=
  BlockProg.context_of_ok _ (BlockProg.query_of_ok rfl (getRewardPool_of_ofString hrm db))

theorem finalizeSet_live (db : Db) (msg : SetRewardPoolAuthorities) (signer : String) :
    (∃ rm old list, s.Rotates db.rewards.pools msg signer rm old list ∧
      s.finalizeSetRewardPoolAuthorities msg signer ⟨db, false⟩ =
        (.ok (), ⟨db.setPools (db.rewards.pools.insert rm list), false⟩)) ∨
    ((∀ rm old list, ¬ s.Rotates db.rewards.pools msg signer rm old list) ∧
      ∃ e, s.finalizeSetRewardPoolAuthorities msg signer ⟨db, false⟩ = (.error e, ⟨db, false⟩)) := by
  unfold finalizeSetRewardPoolAuthorities
  cases hshape : validateRewardsManagerPubkeyShape s.ext msg.rewardsManagerPubkey with
  | error e =>
    refine .inr ⟨fun rm old list h => ?_, e, rfl⟩
    rw [h.shape] at hshape
    cases hshape
  | ok _ =>
    rw [ofExcept_ok_bind]
    cases haddrs : validateAuthorityList s.rt msg.authorities with
    | error e =>
      refine .inr ⟨fun rm old list h => ?_, e, rfl⟩
      rw [h.addresses] at haddrs
      cases haddrs
    | ok _ =>
      rw [ofExcept_ok_bind]
      obtain ⟨rm, hrm⟩ := exists_manager hshape
      have hcheck : s.checkBlockPool msg.rewardsManagerPubkey signer ⟨db, false⟩ =
          (poolAuthorizes s.rt msg.rewardsManagerPubkey signer (db.rewards.pools.lookup rm),
            ⟨db, false⟩) := by
        rw [checkBlockPool, bind_of_ok (queryPool_live hrm _ db)]
        rfl
      cases hauth : poolAuthorizes s.rt msg.rewardsManagerPubkey signer
          (db.rewards.pools.lookup rm) with
      | error e =>
        rw [hauth] at hcheck
        refine .inr ⟨fun rm' old list h => ?_, e, bind_of_error hcheck⟩
        obtain rfl : rm' = rm := PgText.ext (h.manager.trans (PgText.val_of_ofString hrm).symm)
        rw [poolAuthorizes_eq_ok.mpr ⟨old, h.found, h.listed⟩] at hauth
        cases hauth
      | ok _ =>
        rw [hauth] at hcheck
        rw [bind_of_ok hcheck]
        obtain ⟨old, hold, hlisted⟩ := poolAuthorizes_eq_ok.mp hauth
        obtain ⟨list, hlist⟩ := exists_bindTexts_canonical haddrs
        have hstmt : Db.updateRewardPoolAuthorities msg.rewardsManagerPubkey
            (canonicalAuthorities s.rt msg.authorities) db =
            .ok ((), db.setPools (db.rewards.pools.insert rm list)) := by
          rw [Db.updateRewardPoolAuthorities, hrm, hlist, ← Table.update_of_some hold fun _ => list]
          rfl
        exact .inl ⟨rm, old, list, ⟨hshape, haddrs, PgText.val_of_ofString hrm,
          Db.bindTexts_eq_ok.mp hlist, hold, hlisted⟩, BlockProg.exec_of_ok hstmt⟩

theorem finalizeCreate_live (db : Db) (envelope : RewardPoolMessage) (body : RewardPoolBody)
    (msg : CreateRewardPool) (signer : String) :
    (∃ rm list, s.checkPoolMessage envelope body msg signer = .ok () ∧
      rm.val = msg.rewardsManagerPubkey ∧
      list.map PgText.val = canonicalAuthorities s.rt msg.authorities ∧
      db.rewards.pools.lookup rm = none ∧
      s.finalizeCreateRewardPool envelope body msg signer ⟨db, false⟩ =
        (.ok (), ⟨db.setPools (db.rewards.pools.insert rm list), false⟩)) ∨
    (s.finalizeCreateRewardPool envelope body msg signer ⟨db, false⟩).2 = ⟨db, false⟩ := by
  unfold finalizeCreateRewardPool
  cases hcheck : s.checkPoolMessage envelope body msg signer with
  | error e => exact .inr rfl
  | ok _ =>
    rw [ofExcept_ok_bind]
    obtain ⟨_, hpubkey, hrest⟩ := except_bind_eq_ok.mp hcheck
    obtain ⟨_, haddrs, -⟩ := except_bind_eq_ok.mp hrest
    obtain ⟨_, hshape, -⟩ := except_bind_eq_ok.mp hpubkey
    obtain ⟨rm, hrm⟩ := exists_manager hshape
    obtain ⟨list, hlist⟩ := exists_bindTexts_canonical haddrs
    rw [insertNewPool, bind_of_ok (queryPool_live hrm _ db)]
    cases hold : db.rewards.pools.lookup rm with
    | some old => exact .inr rfl
    | none =>
      have hstmt : Db.insertRewardPool msg.rewardsManagerPubkey
          (canonicalAuthorities s.rt msg.authorities) db =
          .ok ((), db.setPools (db.rewards.pools.insert rm list)) := by
        refine except_bind_eq_ok.mpr ⟨rm, hrm, except_bind_eq_ok.mpr ⟨list, hlist, ?_⟩⟩
        rw [if_neg (by simp [hold])]
        rfl
      refine .inl ⟨rm, list, rfl, PgText.val_of_ofString hrm, Db.bindTexts_eq_ok.mp hlist, hold, ?_⟩
      exact BlockProg.exec_of_ok hstmt

/-- The signer a pool message is taken to be from. -/
def SignedBy (blockHeight : Int) (envelope : RewardPoolMessage) (body : RewardPoolBody)
    (signer : String) : Prop :=
  envelope.body = some body ∧ blockHeight ≤ body.deadlineBlockHeight ∧
    s.ext.protoRecover (.rewardPoolBody body) envelope.signature = .ok signer

theorem recoverDeadlinedSigner_eq_ok {H deadline : Int} {msg : ProtoMessage}
    {signature signer : String} :
    s.recoverDeadlinedSigner H deadline msg signature = .ok signer ↔
      H ≤ deadline ∧ s.ext.protoRecover msg signature = .ok signer := by
  unfold recoverDeadlinedSigner
  rw [refuseIf_bind_eq_ok, except_mapError_eq_ok, not_lt]

theorem finalizeRewardPoolTransaction_cases (req : FinalizeBlockRequest)
    (envelope : RewardPoolMessage) (txhash : String) (index : Int) :
    (∃ e, s.finalizeRewardPoolTransaction req envelope txhash index = fail e ∧
      ∀ body signer, s.SignedBy req.height envelope body signer → body.action = none) ∨
    ∃ body signer, s.SignedBy req.height envelope body signer ∧
      ((∃ msg, body.action = some (.create msg) ∧
        s.finalizeRewardPoolTransaction req envelope txhash index =
          mapError joinFinalization (s.finalizeCreateRewardPool envelope body msg signer)) ∨
      ∃ msg, body.action = some (.setAuthorities msg) ∧
        s.finalizeRewardPoolTransaction req envelope txhash index =
          mapError joinFinalization (s.finalizeSetRewardPoolAuthorities msg signer)) := by
  unfold finalizeRewardPoolTransaction
  cases hbody : envelope.body with
  | none =>
    refine .inl ⟨_, rfl, fun body signer h => ?_⟩
    rw [SignedBy, hbody] at h
    cases h.1
  | some body =>
    dsimp only
    cases hsigner : s.recoverDeadlinedSigner req.height body.deadlineBlockHeight
        (.rewardPoolBody body) envelope.signature with
    | error e =>
      refine .inl ⟨_, rfl, fun body' signer h => ?_⟩
      obtain ⟨hbody', h⟩ := h
      obtain rfl : body = body' := Option.some.inj (hbody.symm.trans hbody')
      rw [s.recoverDeadlinedSigner_eq_ok.mpr h] at hsigner
      cases hsigner
    | ok signer =>
      have hsigned : s.SignedBy req.height envelope body signer :=
        ⟨hbody, s.recoverDeadlinedSigner_eq_ok.mp hsigner⟩
      simp only [Except.mapError, ofExcept_ok_bind]
      cases haction : body.action with
      | none =>
        refine .inl ⟨_, rfl, fun body' signer' h => ?_⟩
        obtain rfl : body = body' := Option.some.inj (hbody.symm.trans h.1)
        exact haction
      | some action =>
        cases action with
        | create msg => exact .inr ⟨body, signer, hsigned, .inl ⟨msg, haction, rfl⟩⟩
        | setAuthorities msg => exact .inr ⟨body, signer, hsigned, .inr ⟨msg, haction, rfl⟩⟩

/-- What a pool transaction does to the pools: nothing, or it adds a new one, or it rotates the list
of one that is there. -/
inductive PoolStep (blockHeight : Int) (envelope : RewardPoolMessage)
    (pools pools' : Table PgText (List PgText)) : Prop
  | same (h : pools' = pools)
  | created {body : RewardPoolBody} {msg : CreateRewardPool} {signer : String} {rm : PgText}
      {list : List PgText} (signed : s.SignedBy blockHeight envelope body signer)
      (action : body.action = some (.create msg))
      (check : s.checkPoolMessage envelope body msg signer = .ok ())
      (manager : rm.val = msg.rewardsManagerPubkey)
      (stored : list.map PgText.val = canonicalAuthorities s.rt msg.authorities)
      (isNew : pools.lookup rm = none) (sets : pools.Sets pools' rm list)
  | rotated {body : RewardPoolBody} {msg : SetRewardPoolAuthorities} {signer : String} {rm : PgText}
      {old list : List PgText} (signed : s.SignedBy blockHeight envelope body signer)
      (action : body.action = some (.setAuthorities msg))
      (rotates : s.Rotates pools msg signer rm old list) (sets : pools.Sets pools' rm list)

theorem poolStep_finalizeRewardPoolTransaction (req : FinalizeBlockRequest)
    (envelope : RewardPoolMessage) (txhash : String) (index : Int) (t : Txn Db) :
    ∃ pools', (s.finalizeRewardPoolTransaction req envelope txhash index t).2.view.rewards =
        { t.view.rewards with pools := pools' } ∧
      s.PoolStep req.height envelope t.view.rewards.pools pools' := by
  have hfoot := s.footprint_finalizeRewardPoolTransaction req envelope txhash index
  by_cases hdead : t.aborted = true
  · rw [hfoot.later t hdead]
    exact ⟨_, rfl, .same rfl⟩
  rw [Bool.not_eq_true] at hdead
  obtain ⟨db, _⟩ := t
  cases hdead
  rcases s.finalizeRewardPoolTransaction_cases req envelope txhash index with
    ⟨e, hrun, -⟩ | ⟨body, signer, hsigned, ⟨msg, haction, hrun⟩ | ⟨msg, haction, hrun⟩⟩
  · rw [hrun]
    exact ⟨_, rfl, .same rfl⟩
  · rw [hrun, Prog.mapError]
    rcases s.finalizeCreate_live db envelope body msg signer with
      ⟨rm, list, hcheck, hrm, hlist, hnew, hfin⟩ | hfin
    · rw [hfin]
      exact ⟨_, rfl, .created hsigned haction hcheck hrm hlist hnew (Table.sets_insert _ _ _)⟩
    · rw [hfin]
      exact ⟨_, rfl, .same rfl⟩
  · rw [hrun, Prog.mapError]
    rcases s.finalizeSet_live db msg signer with ⟨rm, old, list, hrotates, hfin⟩ | ⟨-, e, hfin⟩
    · rw [hfin]
      exact ⟨_, rfl, .rotated hsigned haction hrotates (Table.sets_insert _ _ _)⟩
    · rw [hfin]
      exact ⟨_, rfl, .same rfl⟩

end Server

/-! ### What a reward transaction does -/

/-- Every new reward with a reward manager has a pool, and the pools are as they were. -/
def Backed (r r' : RewardTables) : Prop :=
  r'.pools = r.pools ∧ ∀ row ∈ r'.rewards, row ∈ r.rewards ∨
    ∀ rm, row.rewardsManagerPubkey = some rm → (r.pools.lookup rm).isSome = true

instance : IsPreorder (Part.Rows .rewards) Backed where
  refl _ := ⟨rfl, fun _ h => .inl h⟩
  trans r r' r'' h₁ h₂ := by
    refine ⟨h₂.1.trans h₁.1, fun row hrow => ?_⟩
    rcases h₂.2 row hrow with hrow | hpool
    · exact h₁.2 row hrow
    · rw [h₁.1] at hpool
      exact .inr hpool

theorem keepsBacked_insertCoreReward (address txHash : String) (index : Int)
    (sender rewardId name : String) (amount : Int) (rm : Option String) (raw : Bytes)
    (height : Int) :
    Keeps (OnPart .rewards Backed) (BlockProg.exec (Db.insertCoreReward address txHash index sender
      rewardId name amount rm raw height)) := by
  apply keeps_onPart_exec
  intro db u db' h
  obtain ⟨a, -, h⟩ := except_bind_eq_ok.mp h
  obtain ⟨b, -, h⟩ := except_bind_eq_ok.mp h
  obtain ⟨c, -, h⟩ := except_bind_eq_ok.mp h
  obtain ⟨d, -, h⟩ := except_bind_eq_ok.mp h
  obtain ⟨e, -, h⟩ := except_bind_eq_ok.mp h
  obtain ⟨rm', -, h⟩ := except_bind_eq_ok.mp h
  split at h
  · cases h
  · rename_i hpool
    cases h
    refine ⟨rfl, fun row hrow => ?_⟩
    rcases List.mem_append.mp hrow with hrow | hrow
    · exact .inl hrow
    · obtain rfl := List.mem_singleton.mp hrow
      refine .inr fun rm hrm => ?_
      obtain rfl : rm' = some rm := hrm
      change (db.rewards.pools.lookup rm).isSome = true
      simpa [Option.isSome_iff_ne_none] using hpool

theorem keepsBacked_deleteCoreReward (address : String) :
    Keeps (OnPart .rewards Backed) (BlockProg.exec (Db.deleteCoreReward address)) := by
  apply keeps_onPart_exec
  intro db u db' h
  obtain ⟨a, -, h⟩ := except_bind_eq_ok.mp h
  cases h
  exact ⟨rfl, fun row hrow => .inl (List.mem_of_mem_filter hrow)⟩

namespace Server

variable (s : Server)

theorem keepsBacked_query {α : Type} (q : Query Db α) :
    Keeps (OnPart .rewards Backed) (BlockProg.query q) :=
  ((show Footprint [] (BlockProg.query q) from .query q).untouched (by simp)).onPart

theorem keepsBacked_deleteRewardBy (address signer lookup verb failure : String) :
    Keeps (OnPart .rewards Backed) (s.deleteRewardBy address signer lookup verb failure) := by
  unfold deleteRewardBy
  refine ((keepsBacked_query _).mapError _).bind fun reward => ?_
  refine (keeps_ofExcept _).bind fun _ => ?_
  exact (keepsBacked_deleteCoreReward _).mapError _

theorem keepsBacked_finalizeRewards (req : FinalizeBlockRequest) (txhash : String) (index : Int)
    {envelope : RewardMessage} (h : envelope.body ≠ none) :
    Keeps (OnPart .rewards Backed) (s.finalizeRewards req txhash index envelope) := by
  unfold finalizeRewards
  cases hbody : envelope.body with
  | none => exact absurd hbody h
  | some body =>
    refine (keeps_ofExcept _).bind fun signer => ?_
    match body.action with
    | none => exact keeps_fail _
    | some (.create msg) =>
      apply Keeps.mapError
      unfold finalizeCreateReward checkBlockPool
      refine Keeps.bind ?_ fun _ => (keeps_ofExcept _).bind fun address => ?_
      · exact ((keepsBacked_query _).mapError _).bind fun pool => keeps_ofExcept _
      · exact (keepsBacked_insertCoreReward _ _ _ _ _ _ _ _ _ _).mapError _
    | some (.delete msg) => exact (s.keepsBacked_deleteRewardBy _ _ _ _ _).mapError _

/-! ### One transaction of a block -/

/-- The transaction rotates the list of a pool: its signer was in the list it replaces. -/
def RotatedBy (tx : Bytes) (rm : PgText) (old : List PgText) : Prop :=
  ∃ stx envelope body msg signer, s.ext.unmarshalSigned tx = some stx ∧
    stx.transaction = some (.rewardPool envelope) ∧ envelope.body = some body ∧
    body.action = some (.setAuthorities msg) ∧ msg.rewardsManagerPubkey = rm.val ∧
    s.ext.protoRecover (.rewardPoolBody body) envelope.signature = .ok signer ∧
    ∃ a ∈ old, a.val = canonicalSigner s.rt signer

/-- Every pool that is there stays, and its list changes only by a rotation. -/
def Governed (tx : Bytes) (pools pools' : Table PgText (List PgText)) : Prop :=
  ∀ rm old, pools.lookup rm = some old →
    ∃ new, pools'.lookup rm = some new ∧ (new ≠ old → s.RotatedBy tx rm old)

/-- The reward manager of AUDIO, which has no pool. -/
def IsAudio (rm : PgText) : Prop :=
  trimSpace s.config.audioRewardsManagerPubkey ≠ "" ∧
    rm.val = trimSpace s.config.audioRewardsManagerPubkey

/-- The pools and rewards are in order: no pool is that of AUDIO, every list is in canonical form,
and every reward with a reward manager has a pool. -/
structure PoolsSound (r : RewardTables) : Prop where
  notAudio : ∀ rm, (r.pools.lookup rm).isSome = true → ¬ s.IsAudio rm
  canonical : ∀ rm list, r.pools.lookup rm = some list → Canonical s.rt list
  backed : ∀ row ∈ r.rewards, ∀ rm, row.rewardsManagerPubkey = some rm →
    (r.pools.lookup rm).isSome = true

/-- No pool goes, and what is new is in order, whatever was there. -/
structure PoolsGrow (r r' : RewardTables) : Prop where
  kept : ∀ rm, (r.pools.lookup rm).isSome = true → (r'.pools.lookup rm).isSome = true
  notAudio : ∀ rm, (r'.pools.lookup rm).isSome = true →
    (r.pools.lookup rm).isSome = true ∨ ¬ s.IsAudio rm
  canonical : ∀ rm list, r'.pools.lookup rm = some list →
    r.pools.lookup rm = some list ∨ Canonical s.rt list
  backed : ∀ row ∈ r'.rewards, row ∈ r.rewards ∨ ∀ rm, row.rewardsManagerPubkey = some rm →
    (r'.pools.lookup rm).isSome = true

variable {s}

theorem governed_of_eq {tx : Bytes} {pools pools' : Table PgText (List PgText)}
    (h : pools' = pools) : s.Governed tx pools pools' := by
  intro rm old hold
  exact ⟨old, h ▸ hold, fun hne => absurd rfl hne⟩

theorem PoolsGrow.refl (r : RewardTables) : s.PoolsGrow r r :=
  ⟨fun _ h => h, fun _ h => .inl h, fun _ _ h => .inl h, fun _ h => .inl h⟩

theorem PoolsGrow.trans {r r' r'' : RewardTables} (h : s.PoolsGrow r r')
    (h' : s.PoolsGrow r' r'') : s.PoolsGrow r r'' := by
  constructor
  · exact fun rm hrm => h'.kept rm (h.kept rm hrm)
  · intro rm hrm
    rcases h'.notAudio rm hrm with hold | hother
    · exact h.notAudio rm hold
    · exact .inr hother
  · intro rm list hlist
    rcases h'.canonical rm list hlist with hold | hnew
    · exact h.canonical rm list hold
    · exact .inr hnew
  · intro row hrow
    rcases h'.backed row hrow with hold | hnew
    · exact (h.backed row hold).imp_right fun hpool rm hrm => h'.kept rm (hpool rm hrm)
    · exact .inr hnew

theorem PoolsGrow.sound {r r' : RewardTables} (h : s.PoolsGrow r r') (hsound : s.PoolsSound r) :
    s.PoolsSound r' := by
  constructor
  · exact fun rm hrm => (h.notAudio rm hrm).elim (hsound.notAudio rm) id
  · exact fun rm list hlist => (h.canonical rm list hlist).elim (hsound.canonical rm list) id
  · intro row hrow rm hrm
    rcases h.backed row hrow with hold | hnew
    · exact h.kept rm (hsound.backed row hold rm hrm)
    · exact hnew rm hrm

theorem poolsGrow_of_backed {r r' : RewardTables} (h : Backed r r') : s.PoolsGrow r r' := by
  obtain ⟨hpools, hrewards⟩ := h
  refine ⟨?_, ?_, ?_, ?_⟩ <;> rw [hpools]
  · exact fun _ hrm => hrm
  · exact fun _ hrm => .inl hrm
  · exact fun _ _ hlist => .inl hlist
  · exact hrewards

theorem poolsGrow_of_sets {r : RewardTables} {pools' : Table PgText (List PgText)} {rm : PgText}
    {list : List PgText} (sets : r.pools.Sets pools' rm list)
    (hrm : (r.pools.lookup rm).isSome = true ∨ ¬ s.IsAudio rm) (hlist : Canonical s.rt list) :
    s.PoolsGrow r { r with pools := pools' } := by
  constructor
  · exact fun rm' hthere => sets.isSome hthere
  · intro rm' hthere
    by_cases heq : rm' = rm
    · rwa [heq]
    · rw [sets.lookup_of_ne heq] at hthere
      exact .inl hthere
  · intro rm' list' hlist'
    rcases sets.cases hlist' with ⟨-, rfl⟩ | ⟨-, hold⟩
    · exact .inr hlist
    · exact .inl hold
  · exact fun row hrow => .inl hrow

theorem checkPoolMessage_eq_ok {envelope : RewardPoolMessage} {body : RewardPoolBody}
    {msg : CreateRewardPool} {signer : String}
    (h : s.checkPoolMessage envelope body msg signer = .ok ()) :
    (trimSpace s.config.audioRewardsManagerPubkey ≠ "" →
      msg.rewardsManagerPubkey ≠ trimSpace s.config.audioRewardsManagerPubkey) ∧
    validateAuthorityList s.rt msg.authorities = .ok () ∧
    canonicalSigner s.rt signer ∈ canonicalAuthorities s.rt msg.authorities := by
  obtain ⟨_, hpubkey, h⟩ := except_bind_eq_ok.mp h
  obtain ⟨_, haddrs, h⟩ := except_bind_eq_ok.mp h
  obtain ⟨_, -, h⟩ := except_bind_eq_ok.mp h
  obtain ⟨_, -, hpubkey⟩ := except_bind_eq_ok.mp hpubkey
  have hreserved := refuseIf_eq_ok.mp hpubkey
  exact ⟨fun haudio heq => hreserved ⟨haudio, heq⟩, haddrs, not_not.mp (refuseIf_eq_ok.mp h)⟩

theorem PoolStep.grows {H : Int} {envelope : RewardPoolMessage} {r : RewardTables}
    {pools' : Table PgText (List PgText)} (h : s.PoolStep H envelope r.pools pools') :
    s.PoolsGrow r { r with pools := pools' } := by
  cases h with
  | same h =>
    subst h
    exact .refl r
  | created signed action check manager stored isNew sets =>
    obtain ⟨haudio, haddrs, -⟩ := checkPoolMessage_eq_ok check
    refine poolsGrow_of_sets sets (.inr ?_) (canonical_of_validateAuthorityList haddrs stored)
    rintro ⟨hset, heq⟩
    exact haudio hset (manager.symm.trans heq)
  | rotated signed action rotates sets =>
    refine poolsGrow_of_sets sets (.inl ?_)
      (canonical_of_validateAuthorityList rotates.addresses rotates.stored)
    rw [rotates.found]
    rfl

theorem PoolStep.governed {H : Int} {envelope : RewardPoolMessage} {tx : Bytes}
    {stx : SignedTransaction} {pools pools' : Table PgText (List PgText)}
    (h : s.PoolStep H envelope pools pools') (hdecode : s.ext.unmarshalSigned tx = some stx)
    (hbody : stx.transaction = some (.rewardPool envelope)) : s.Governed tx pools pools' := by
  cases h with
  | same h => exact governed_of_eq h
  | @created body msg signer rm list signed action check manager stored isNew sets =>
    intro rm' old hold
    have hne : rm' ≠ rm := by
      rintro rfl
      rw [isNew] at hold
      cases hold
    exact ⟨old, (sets.lookup_of_ne hne).trans hold, fun hchanged => absurd rfl hchanged⟩
  | @rotated body msg signer rm old list signed action rotates sets =>
    intro rm' old' hold
    by_cases heq : rm' = rm
    · subst heq
      obtain rfl : old = old' := Option.some.inj (rotates.found.symm.trans hold)
      refine ⟨list, sets.lookup_self, fun _ => ?_⟩
      exact ⟨stx, envelope, body, msg, signer, hdecode, hbody, signed.1, action,
        rotates.manager.symm, signed.2.2, rotates.listed⟩
    · exact ⟨old', (sets.lookup_of_ne heq).trans hold, fun hchanged => absurd rfl hchanged⟩

theorem pools_executeTx (req : FinalizeBlockRequest) (index : Nat) (tx : Bytes) (t : Txn Db)
    (hcurrent : ∀ stx msg, s.ext.unmarshalSigned tx = some stx →
      stx.transaction = some (.reward msg) → msg.body ≠ none) :
    s.Governed tx t.view.rewards.pools (s.executeTx req index tx t).2.view.rewards.pools ∧
      s.PoolsGrow t.view.rewards (s.executeTx req index tx t).2.view.rewards := by
  have hother : Part.rewards ∉ s.txParts tx →
      s.Governed tx t.view.rewards.pools (s.executeTx req index tx t).2.view.rewards.pools ∧
        s.PoolsGrow t.view.rewards (s.executeTx req index tx t).2.view.rewards := by
    intro hnot
    have hrewards : (s.executeTx req index tx t).2.view.rewards = t.view.rewards :=
      (s.footprint_executeTx req index tx).untouched (p := .rewards) hnot t
    rw [hrewards]
    exact ⟨governed_of_eq rfl, .refl _⟩
  cases hdecode : s.ext.unmarshalSigned tx with
  | none => exact hother (by simp [txParts, hdecode])
  | some stx =>
    cases hbody : stx.transaction with
    | none => exact hother (by simp [txParts, hdecode, hbody])
    | some body =>
      have hrewards : deregisteredAddress stx.transaction = "" →
          (s.executeTx req index tx t).2.view.rewards =
          (s.finalizeTransaction req stx (s.ext.toTxHashFromBytes tx) t).2.view.rewards :=
        fun hnone => (s.executeTx_finalizes hdecode hnone req index t).1 .rewards (by simp)
      unfold finalizeTransaction at hrewards
      simp only [hbody] at hrewards
      cases body with
      | reward msg =>
        rw [hrewards rfl]
        have hbacked : Backed _ _ := s.keepsBacked_finalizeRewards req
          (s.ext.toTxHashFromBytes tx) 0 (hcurrent stx msg hdecode hbody) t
        exact ⟨governed_of_eq hbacked.1, poolsGrow_of_backed hbacked⟩
      | rewardPool envelope =>
        rw [hrewards rfl]
        obtain ⟨pools', hpools, hstep⟩ :=
          s.poolStep_finalizeRewardPoolTransaction req envelope (s.ext.toTxHashFromBytes tx) 0 t
        rw [hpools]
        exact ⟨hstep.governed hdecode hbody, hstep.grows⟩
      | _ => exact hother (by simp [txParts, hdecode, hbody, TxBody.parts])

/-! ### Runs of accepted blocks -/

theorem Accepts.reward_body {req : FinalizeBlockRequest} (h : s.Accepts req) {tx : Bytes}
    (htx : tx ∈ req.txs) {stx : SignedTransaction} {msg : RewardMessage}
    (hdecode : s.ext.unmarshalSigned tx = some stx)
    (hbody : stx.transaction = some (.reward msg)) : msg.body ≠ none := by
  have hvalid : Except.ok (passed (s.isValidRewardTransaction msg req.height)) = .ok true :=
    h.passes_body s htx hdecode hbody (by simp)
  intro hnone
  unfold isValidRewardTransaction at hvalid
  rw [hnone] at hvalid
  dsimp only at hvalid
  split at hvalid <;> cases hvalid

variable (s)

/-- The pools along a block: they start as the database has them, every transaction governs them,
and the block commits the last of them. -/
structure BlockGoverns (db : Db) (b : Block) : Prop where
  start : ((s.executor db b).progress b.req 0).txn.view.rewards = db.rewards
  step : ∀ n tx, b.req.txs[n]? = some tx →
    s.Governed tx ((s.executor db b).progress b.req n).txn.view.rewards.pools
      ((s.executor db b).progress b.req (n + 1)).txn.view.rewards.pools
  commits : ∀ db', (s.executor db b).commitBlock b.req = some db' →
    db'.rewards = ((s.executor db b).progress b.req b.req.txs.length).txn.view.rewards

variable {s}

theorem executor_start (db : Db) (b : Block) :
    ((s.executor db b).progress b.req 0).txn.view.rewards = db.rewards :=
  (s.executor db b).openBlock_part b.req (p := .rewards) (by decide)

theorem pools_progress_succ {db : Db} {b : Block} (h : (s.voter db b).Accepts b.req) {n : Nat}
    {tx : Bytes} (hn : b.req.txs[n]? = some tx) :
    s.Governed tx ((s.executor db b).progress b.req n).txn.view.rewards.pools
      ((s.executor db b).progress b.req (n + 1)).txn.view.rewards.pools ∧
    s.PoolsGrow ((s.executor db b).progress b.req n).txn.view.rewards
      ((s.executor db b).progress b.req (n + 1)).txn.view.rewards := by
  rw [(s.executor db b).txn_progress_succ b.req hn]
  obtain ⟨hgoverned, hgrow⟩ := pools_executeTx (s := s.executor db b) b.req n tx
    ((s.executor db b).progress b.req n).txn
    fun stx msg hdecode hbody => h.reward_body (List.mem_of_getElem? hn) hdecode hbody
  exact ⟨hgoverned, hgrow.kept, hgrow.notAudio, hgrow.canonical, hgrow.backed⟩

theorem poolsGrow_progress {db : Db} {b : Block} (h : (s.voter db b).Accepts b.req) {n : Nat}
    (hn : n ≤ b.req.txs.length) :
    s.PoolsGrow db.rewards ((s.executor db b).progress b.req n).txn.view.rewards := by
  induction n with
  | zero =>
    rw [executor_start db b]
    exact .refl _
  | succ n ih =>
    have htx : b.req.txs[n]? = some (b.req.txs.get ⟨n, hn⟩) := by simp
    exact (ih (by omega)).trans (pools_progress_succ h htx).2

theorem blockGoverns_of_accepts {db : Db} {b : Block} (h : (s.voter db b).Accepts b.req) :
    s.BlockGoverns db b where
  start := executor_start db b
  step _ _ hn := (pools_progress_succ h hn).1
  commits _ hcommit := (s.executor db b).part_commitBlock hcommit (p := .rewards) (by decide)

theorem poolsGrow_views {db : Db} {bs : List Block}
    (hrun : s.EachBlock (fun db b => (s.voter db b).Accepts b.req) db bs) :
    ∀ view ∈ s.views db bs, s.PoolsGrow db.rewards view.rewards := by
  induction bs generalizing db with
  | nil => simp [views]
  | cons b bs ih =>
    obtain ⟨hb, hrest⟩ := hrun
    intro view hview
    rw [views, List.mem_append] at hview
    rcases hview with hview | hview
    · obtain ⟨n, hn, rfl⟩ := List.mem_map.mp hview
      exact poolsGrow_progress hb (by simpa [Nat.lt_succ_iff] using hn)
    · cases hcommit : (s.executor db b).commitBlock b.req with
      | none => simp [hcommit] at hview
      | some db' =>
        rw [hcommit] at hview
        have hlast := poolsGrow_progress hb le_rfl
        rw [← (blockGoverns_of_accepts hb).commits db' hcommit] at hlast
        exact hlast.trans (ih (hrest db' hcommit) view hview)

/-- Along a run of accepted blocks, the list of a pool that is there changes only by a rotation
that an authority in the list signed, and what pools and rewards are added is in order. -/
theorem pools_governed {db : Db} {bs : List Block}
    (hrun : s.EachBlock (fun db b => (s.voter db b).Accepts b.req) db bs) :
    s.EachBlock s.BlockGoverns db bs ∧ ∀ view ∈ s.views db bs,
      s.PoolsGrow db.rewards view.rewards ∧
        (s.PoolsSound db.rewards → s.PoolsSound view.rewards) := by
  refine ⟨hrun.mono fun _ _ => blockGoverns_of_accepts, fun view hview => ?_⟩
  have hgrow := poolsGrow_views hrun view hview
  exact ⟨hgrow, hgrow.sound⟩

/-! ### A pool and its rotations -/

/-- A list of authorities for the reward manager of 32 zero bytes, as the first key signs it. -/
structure RecordedRotation where
  authorities : List String
  bytes : Bytes
  digest : Externals.Digest
  signature : String
  signatureBytes : Bytes

namespace RecordedRotation

variable (r : RecordedRotation)

def body : RewardPoolBody where
  deadlineBlockHeight := 100
  action := some (.setAuthorities ⟨"11111111111111111111111111111111", r.authorities⟩)

def envelope : RewardPoolMessage := { body := some r.body, signature := r.signature }

def calls : Externals.Recorded where
  sha256 := [(r.bytes, r.digest)]
  sigToPub := [((r.digest.val, r.signatureBytes), firstKey.pubKey)]
  marshal := [(.rewardPoolBody r.body, r.bytes)]

end RecordedRotation

/-- A transaction that carries a rotation. -/
structure RecordedTx where
  rotation : RecordedRotation
  requestId : String
  bytes : Bytes
  digest : Externals.Digest

namespace RecordedTx

variable (r : RecordedTx)

def signed : SignedTransaction where
  requestId := r.requestId
  transaction := some (.rewardPool r.rotation.envelope)

def calls : Externals.Recorded where
  sha256 := [(r.bytes, r.digest)]
  unmarshalSigned := [(r.bytes, r.signed)]

def block (height : Int) : Block where
  req :=
    { txs := [r.bytes]
      misbehavior := []
      hash := bigEndian 32 1
      height := height
      time := { seconds := 1700000000 + height }
      proposerAddress := bigEndian 20 2 }
  voting := ⟨height - 1, false⟩
  executing := ⟨height - 1, false⟩

end RecordedTx

def admitSecond : RecordedRotation where
  authorities := ["0x7E5F4552091A69125d5DfCb7b8C2659029395Bdf", "0x2B5AD5c4795c026514f8317c7a215E218DcCD6cF"]
  bytes := bigEndian 40 0x8648a7d7a0a20313131313131313131313131313131313131313131313131313131313131313112 ++
    bigEndian 40 0x2a307837453546343535323039314136393132356435446643623762384332363539303239333935 ++
    bigEndian 40 0x426466122a3078324235414435633437393563303236353134663833313763376132313545323138 ++
    bigEndian 7 0x44634344366346
  digest := Externals.digest 0x476cf8ae404969b570d0f77fe141c5c0e2766f80433d9709359ca60aaadcbef4
  signature := "b72cc8be367a2072f794680876cce6e7126dcffe348eae78c4df574c0d2af52869" ++
    "614f52fb097ff5a7b21048742c9168e952463a98c8fe354a6146f0844bbe9601"
  signatureBytes := bigEndian 40 0xb72cc8be367a2072f794680876cce6e7126dcffe348eae78c4df574c0d2af52869614f52fb097ff5 ++
    bigEndian 25 0xa7b21048742c9168e952463a98c8fe354a6146f0844bbe9601

def dismissSecond : RecordedRotation where
  authorities := ["0x7E5F4552091A69125d5DfCb7b8C2659029395Bdf"]
  bytes := bigEndian 40 0x8648a7d4e0a20313131313131313131313131313131313131313131313131313131313131313112 ++
    bigEndian 40 0x2a307837453546343535323039314136393132356435446643623762384332363539303239333935 ++
    bigEndian 3 0x426466
  digest := Externals.digest 0x4875523f32b615b287845ceb03a5961914f5445c8a39c2e3318039f99d640b9a
  signature := "562a233a8ac5a6f151b9e21d616d5995205593e7b1f50cbefedf9c8b2a220cc344" ++
    "121b67ca45ffe5004c1b2020bb1fe5a6811ac0d9be81e9d1ed8998b26038a001"
  signatureBytes := bigEndian 40 0x562a233a8ac5a6f151b9e21d616d5995205593e7b1f50cbefedf9c8b2a220cc344121b67ca45ffe5 ++
    bigEndian 25 0x4c1b2020bb1fe5a6811ac0d9be81e9d1ed8998b26038a001

def bareSecond : RecordedRotation where
  authorities := ["2B5AD5c4795c026514f8317c7a215E218DcCD6cF"]
  bytes := bigEndian 40 0x8648a7d4c0a20313131313131313131313131313131313131313131313131313131313131313112 ++
    bigEndian 40 0x28324235414435633437393563303236353134663833313763376132313545323138446343443663 ++
    bigEndian 1 0x46
  digest := Externals.digest 0xe13ff1874b023faf2431623659128ffb18cf3bcabca382a155055f4485f4fb2a
  signature := "885acbe24179dc5b7f59d8f35bee3c9f34355a2777795e60d0a1a0d2ebed8cde57" ++
    "9777fb06d1518076282ef3ef875a677817ed6422e7affbdf90a30d92c8491701"
  signatureBytes := bigEndian 40 0x885acbe24179dc5b7f59d8f35bee3c9f34355a2777795e60d0a1a0d2ebed8cde579777fb06d15180 ++
    bigEndian 25 0x76282ef3ef875a677817ed6422e7affbdf90a30d92c8491701

/-- The rotation that admits the second key, in its envelope. -/
def admissionEnvelope : Bytes :=
  bigEndian 37 0x9a3f86020a7f08648a7d7a0a20313131313131313131313131313131313131313131313131 ++
    bigEndian 40 0x3131313131313131122a307837453546343535323039314136393132356435446643623762384332 ++
    bigEndian 40 0x363539303239333935426466122a3078324235414435633437393563303236353134663833313763 ++
    bigEndian 40 0x37613231354532313844634344366346128201623732636338626533363761323037326637393436 ++
    bigEndian 40 0x38303837366363653665373132366463666665333438656165373863346466353734633064326166 ++
    bigEndian 40 0x35323836393631346635326662303937666635613762323130343837343263393136386539353234 ++
    bigEndian 29 0x3633613938633866653335346136313436663038343462626539363031

def admission : RecordedTx where
  rotation := admitSecond
  requestId := "1"
  bytes := bigEndian 3 0x120131 ++ admissionEnvelope
  digest := Externals.digest 0x37206e743e2ab9f957d61055c9cbb3bc76d0a443b45e08e63f3bbaa620bcd750

def dismissal : RecordedTx where
  rotation := dismissSecond
  requestId := "2"
  bytes := bigEndian 40 0x1201329a3fda010a5308648a7d4e0a20313131313131313131313131313131313131313131313131 ++
    bigEndian 40 0x3131313131313131122a307837453546343535323039314136393132356435446643623762384332 ++
    bigEndian 40 0x36353930323933393542646612820135363261323333613861633561366631353162396532316436 ++
    bigEndian 40 0x31366435393935323035353933653762316635306362656665646639633862326132323063633334 ++
    bigEndian 40 0x34313231623637636134356666653530303463316232303230626231666535613638313161633064 ++
    bigEndian 25 0x39626538316539643165643839393862323630333861303031
  digest := Externals.digest 0x223cc1d7ea713f5b61776e57f45ca38ba007c9e9ad083bfea342a49af5ca881

def readmission : RecordedTx where
  rotation := admitSecond
  requestId := "3"
  bytes := bigEndian 3 0x120133 ++ admissionEnvelope
  digest := Externals.digest 0xd9eb561a0d0dcbdd85620969e23af4fc8233f63d012855a81d990f2332ae94f6

def handover : RecordedTx where
  rotation := bareSecond
  requestId := "4"
  bytes := bigEndian 40 0x1201349a3fd8010a5108648a7d4c0a20313131313131313131313131313131313131313131313131 ++
    bigEndian 40 0x31313131313131311228324235414435633437393563303236353134663833313763376132313545 ++
    bigEndian 40 0x32313844634344366346128201383835616362653234313739646335623766353964386633356265 ++
    bigEndian 40 0x65336339663334333535613237373737393565363064306131613064326562656438636465353739 ++
    bigEndian 40 0x37373766623036643135313830373632383265663365663837356136373738313765643634323265 ++
    bigEndian 23 0x3761666662646639306133306439326338343931373031
  digest := Externals.digest 0xc564e3e80357ab920527efbbaa6eef549344b698c4f6d25cd4b20283b76d624c

def rotationNode : Server :=
  .devnet (senderCalls ++ firstKey.calls ++ admitSecond.calls ++ dismissSecond.calls ++
    bareSecond.calls ++ admission.calls ++ dismissal.calls ++ readmission.calls ++ handover.calls)
    poolDb

def poolAuthorities (db : Db) : Option (List String) :=
  (db.rewards.pools.lookup firstPool).map (List.map PgText.val)

/-- The second key is admitted and dismissed again. -/
theorem pools_governed_dismissal :
    (rotationNode.views poolDb [admission.block 1, dismissal.block 2]).map poolAuthorities =
      [some ["0x7e5f4552091a69125d5dfcb7b8c2659029395bdf"],
        some ["0x2b5ad5c4795c026514f8317c7a215e218dccd6cf",
          "0x7e5f4552091a69125d5dfcb7b8c2659029395bdf"],
        some ["0x2b5ad5c4795c026514f8317c7a215e218dccd6cf",
          "0x7e5f4552091a69125d5dfcb7b8c2659029395bdf"],
        some ["0x7e5f4552091a69125d5dfcb7b8c2659029395bdf"]] ∧
    rotationNode.EachBlock rotationNode.BlockGoverns poolDb
      [admission.block 1, dismissal.block 2] := by
  refine And.imp_right (fun haccepted => (pools_governed haccepted).1) (?_ : _ ∧
    rotationNode.EachBlock (fun db b => (rotationNode.voter db b).Accepts b.req) poolDb
      [admission.block 1, dismissal.block 2])
  decide +kernel

end Server

end OpenAudio.Core
