import OpenAudio.Core.Rewards
import OpenAudio.Lib.Table

/-!
# Which reward pools are migrated

The keys of a reward pool are derived from a launchpad secret and a mint, and the secret has been
rotated once. A pool whose reward manager derives from the rotated secret is a duplicate if the mint
also has a pool under the original one: it is dropped, and its rewards move to that pool. The plan
is made over all the pools before anything is signed; the pools and the rewards are then signed with
the key of one of the pool's authorities.
-/

namespace OpenAudio.Genesis

open OpenAudio.Core

/-! ### Keys -/

inductive SecretGeneration where
  | original | rotated
deriving DecidableEq, Repr

namespace SecretGeneration

def text : SecretGeneration → String
  | original => "original"
  | rotated => "rotated"

def envVar : SecretGeneration → String
  | original => "LAUNCHPAD_OLD_SECRET"
  | rotated => "LAUNCHPAD_NEW_SECRET"

end SecretGeneration

/-- The derivations, over the private keys of the authorities and of the reward managers. -/
structure Launchpad (AuthKey RmKey : Type) where
  rt : GoRuntime
  base58Decode : String → Except String Bytes
  deriveRewardManagerKeypair : String → Bytes → RmKey
  /-- the base58 text of the public half -/
  pubkey : RmKey → String
  deriveClaimAuthority : String → Bytes → Except String AuthKey
  /-- `crypto.PubkeyToAddress(key.PublicKey).Hex()` -/
  address : AuthKey → String

/-- What a secret and a mint derive. -/
structure LaunchpadIdentity (AuthKey RmKey : Type) where
  mint : String
  generation : SecretGeneration
  rmKey : RmKey
  authKey : AuthKey

structure LaunchpadKeys (AuthKey RmKey : Type) where
  byRM : Table String (LaunchpadIdentity AuthKey RmKey) := ∅
  byAuthority : Table String AuthKey := ∅

section Keys

variable {AuthKey RmKey : Type} (lp : Launchpad AuthKey RmKey)

/-- The identity of one mint under one secret. -/
def deriveMint (g : SecretGeneration) (secret m : String) (keys : LaunchpadKeys AuthKey RmKey) :
    Except String (LaunchpadKeys AuthKey RmKey) := do
  let quoted := lp.rt.quote m
  let generation := g.text
  let raw ← (lp.base58Decode m).mapError fun e => s!"launchpad mint {quoted} is not valid base58: {e}"
  let got := raw.length
  refuseIf (got ≠ 32) s!"launchpad mint {quoted} decodes to {got} bytes, want 32"
  let rmKey := lp.deriveRewardManagerKeypair secret raw
  let rm := lp.pubkey rmKey
  let authKey ← (lp.deriveClaimAuthority secret raw).mapError fun e =>
    s!"derive claim authority for mint {m} under the {generation} secret: {e}"
  match keys.byRM.lookup rm with
  | some prior =>
    let priorGeneration := prior.generation.text
    let priorMint := prior.mint
    .error (s!"reward manager {rm} derives from both ({priorGeneration} secret, mint {priorMint}) " ++
      s!"and ({generation} secret, mint {m}); the two secrets or the mint list must be wrong")
  | none => return {
      byRM := keys.byRM.insert rm ⟨m, g, rmKey, authKey⟩
      byAuthority := keys.byAuthority.insert (lp.rt.toLower (lp.address authKey)) authKey }

def deriveMints (g : SecretGeneration) (secret : String) :
    List String → LaunchpadKeys AuthKey RmKey → Except String (LaunchpadKeys AuthKey RmKey)
  | [], keys => return keys
  | m :: ms, keys => do deriveMints g secret ms (← deriveMint lp g secret m keys)

def deriveGeneration (mints : List String) (g : SecretGeneration) (secret : String)
    (keys : LaunchpadKeys AuthKey RmKey) : Except String (LaunchpadKeys AuthKey RmKey) := do
  let name := g.envVar
  let got := (textBytes (trimPrefix secret "0x")).length
  refuseIf (got ≠ 64) s!"{name} must be 32-byte hex (64 characters); got {got} characters"
  deriveMints lp g secret mints keys

/-- `loadLaunchpadKeys` of the two secrets and the mint list; without any secret there are no
keys. -/
def loadLaunchpadKeys (original rotated : String) (mints : Except String (List String)) :
    Except String (Option (LaunchpadKeys AuthKey RmKey)) :=
  let both := "LAUNCHPAD_OLD_SECRET derives the reward managers, " ++
    "LAUNCHPAD_NEW_SECRET derives the authorities they carry"
  match trimSpace original, trimSpace rotated with
  | "", "" => return none
  | "", _ => .error s!"LAUNCHPAD_OLD_SECRET is not set; both launchpad secrets are required ({both})"
  | _, "" => .error s!"LAUNCHPAD_NEW_SECRET is not set; both launchpad secrets are required ({both})"
  | original, rotated => do
    let mints ← mints
    refuseIf (mints = []) ("LAUNCHPAD_OLD_SECRET is set but no mints were supplied: pass " ++
      "--launchpad-mints or set LAUNCHPAD_MINTS. A secret alone derives nothing; the mint is the " ++
      "other half of every key")
    let keys ← deriveGeneration lp mints .original original {}
    let keys ← deriveGeneration lp mints .rotated rotated keys
    return some keys

namespace LaunchpadKeys

variable {lp} (keys : LaunchpadKeys AuthKey RmKey)

def identityForRM (rm : String) : Option (LaunchpadIdentity AuthKey RmKey) := keys.byRM.lookup rm

def rmKeyForPool (rm : String) : Except String RmKey :=
  match keys.identityForRM rm with
  | some id => return id.rmKey
  | none => .error (s!"no launchpad mint derives reward manager {rm} under either the " ++
      "LAUNCHPAD_OLD_SECRET or the LAUNCHPAD_NEW_SECRET secret: either the mint list is missing " ++
      "that pool's mint, or neither secret is the one its reward manager account was created under")

variable (lp)

/-- The first of the authorities that has a derived key, with the key. -/
def authorityKeyFor (authorities : List String) : Except String (AuthKey × String) :=
  let derived := fun a => (keys.byAuthority.lookup (lp.rt.toLower (trimSpace a))).map (·, a)
  match authorities.findSome? derived with
  | some (key, a) =>
    let quoted := lp.rt.quote a
    if isHexAddress (trimSpace a) then return (key, trimSpace a)
    else .error s!"authority {quoted} is not a valid eth address"
  | none =>
    let listed := " ".intercalate authorities
    .error (s!"no launchpad mint derives any of the authorities [{listed}] under either the " ++
      "LAUNCHPAD_OLD_SECRET or the LAUNCHPAD_NEW_SECRET secret")

end LaunchpadKeys

end Keys

/-! ### The plan -/

/-- A row of `core_reward_pools`. -/
structure RewardPool where
  rewardsManagerPubkey : String
  authorities : List String
deriving DecidableEq, Repr

/-- A row of `core_rewards`. -/
structure RewardRow where
  rewardId : String
  name : String
  amount : Int
  rewardsManagerPubkey : String
deriving DecidableEq, Repr

structure RewardPlan where
  pools : List RewardPool := []
  remap : Table String String := ∅
  dropped : List String := []

section Plan

variable {AuthKey RmKey : Type} (lp : Launchpad AuthKey RmKey) (keys : LaunchpadKeys AuthKey RmKey)

/-- The pool of each mint under the original secret. -/
def originalByMint : List RewardPool → Table String String → Except String (Table String String)
  | [], originals => return originals
  | p :: pools, originals =>
    let rm := p.rewardsManagerPubkey
    match keys.identityForRM rm with
    | none => .error (s!"no launchpad mint derives reward manager {rm} under either secret: the " ++
        "mint list is incomplete, or neither LAUNCHPAD_OLD_SECRET nor LAUNCHPAD_NEW_SECRET is a " ++
        "secret this pool came from")
    | some id => originalByMint pools
      (if id.generation = .original then originals.insert id.mint rm else originals)

/-- The reward manager that the mint of a phantom pool has. -/
def realManager (originals : Table String String) (rm : String) : Option String :=
  match keys.identityForRM rm with
  | some id => if id.generation = .rotated then originals.lookup id.mint else none
  | none => none

def planPools (originals : Table String String) :
    List RewardPool → RewardPlan → Except String RewardPlan
  | [], plan => return plan
  | p :: pools, plan =>
    let rm := p.rewardsManagerPubkey
    match realManager keys originals rm with
    | some real => planPools originals pools
      { plan with remap := plan.remap.insert rm real, dropped := plan.dropped ++ [rm] }
    | none => do
      refuseIf (p.authorities = []) s!"reward pool {rm} has no authorities"
      let _ ← (keys.authorityKeyFor lp p.authorities).mapError fun e => s!"pool {rm}: {e}"
      planPools originals pools { plan with pools := plan.pools ++ [p] }

def planRewardPools (pools : List RewardPool) : Except String RewardPlan := do
  let originals ← originalByMint keys pools ∅
  let plan ← planPools lp keys originals pools {}
  return { plan with
    pools := plan.pools.insertionSort fun p q => p.rewardsManagerPubkey ≤ q.rewardsManagerPubkey
    dropped := plan.dropped.insertionSort (· ≤ ·) }

def RewardPlan.poolFor (plan : RewardPlan) (rm : String) : Option RewardPool :=
  plan.pools.find? fun p => p.rewardsManagerPubkey == rm

/-! ### What is emitted -/

structure RewardPoolTx (AuthKey RmKey : Type) where
  create : CreateRewardPool
  /-- signs the body -/
  signer : AuthKey
  /-- signs the body as the owner of the reward manager -/
  rmSigner : RmKey

structure RewardTx (AuthKey : Type) where
  create : CreateReward
  signer : AuthKey

def synthesizeRewardPoolTx (p : RewardPool) : Except String (RewardPoolTx AuthKey RmKey) := do
  let rm := p.rewardsManagerPubkey
  let (signer, _) ← (keys.authorityKeyFor lp p.authorities).mapError fun e => s!"pool {rm}: {e}"
  let rmSigner ← keys.rmKeyForPool rm
  return ⟨⟨rm, p.authorities⟩, signer, rmSigner⟩

/-- `synthesizeRewardTx`; the amount is converted to a `uint64`. -/
def synthesizeRewardTx (plan : RewardPlan) (r : RewardRow) (rm : String) :
    Except String (RewardTx AuthKey) := do
  let id := r.rewardId
  match plan.poolFor rm with
  | none => .error s!"reward {id} names reward manager {rm}, which no migrated pool covers"
  | some pool =>
    let (signer, _) ← (keys.authorityKeyFor lp pool.authorities).mapError fun e =>
      s!"reward {id}: {e}"
    return ⟨{ rewardId := id, name := r.name, amount := (r.amount % 2 ^ 64).toNat
              rewardsManagerPubkey := rm }, signer⟩

/-- The transaction of a reward, under the pool it moved to. -/
def emitReward (plan : RewardPlan) (r : RewardRow) : Except String (RewardTx AuthKey) :=
  let rm := r.rewardsManagerPubkey
  synthesizeRewardTx lp keys plan r ((plan.remap.lookup rm).getD rm)

/-- The transactions up to the first row that fails, and its error. -/
def emitUntilError {α β : Type} (emit : α → Except String β) : List α → List β × Option String
  | [] => ([], none)
  | a :: as =>
    match emit a with
    | .error e => ([], some e)
    | .ok b => (b :: (emitUntilError emit as).1, (emitUntilError emit as).2)

structure RewardEmission (AuthKey RmKey : Type) where
  pools : List (RewardPoolTx AuthKey RmKey) := []
  rewards : List (RewardTx AuthKey) := []
  error : Option String := none

/-- `writeRewards` with its keys and the rows it reads. -/
def writeRewards (pools : List RewardPool) (rewards : List RewardRow) :
    RewardEmission AuthKey RmKey :=
  match planRewardPools lp keys pools with
  | .error e => { error := some e }
  | .ok plan =>
    match emitUntilError (synthesizeRewardPoolTx lp keys) plan.pools with
    | (poolTxs, some e) => { pools := poolTxs, error := some e }
    | (poolTxs, none) =>
      let (rewardTxs, e) := emitUntilError (emitReward lp keys plan) rewards
      { pools := poolTxs, rewards := rewardTxs, error := e }

end Plan

/-! ### The key table -/

section Derived

variable {AuthKey RmKey : Type} {lp : Launchpad AuthKey RmKey}
  {keys keys' : LaunchpadKeys AuthKey RmKey}

/-- Every key stands under the address and the public key it has. -/
structure LaunchpadKeys.Derived (lp : Launchpad AuthKey RmKey)
    (keys : LaunchpadKeys AuthKey RmKey) : Prop where
  authority : ∀ a key, keys.byAuthority.lookup a = some key → a = lp.rt.toLower (lp.address key)
  manager : ∀ rm id, keys.byRM.lookup rm = some id → lp.pubkey id.rmKey = rm

theorem derived_empty : LaunchpadKeys.Derived lp ({} : LaunchpadKeys AuthKey RmKey) :=
  ⟨fun _ _ h => (by cases h), fun _ _ h => (by cases h)⟩

theorem LaunchpadKeys.Derived.deriveMint {g : SecretGeneration} {secret m : String}
    (hkeys : keys.Derived lp) (h : deriveMint lp g secret m keys = .ok keys') :
    keys'.Derived lp := by
  unfold Genesis.deriveMint at h
  obtain ⟨raw, -, h⟩ := except_bind_eq_ok.mp h
  obtain ⟨-, h⟩ := refuseIf_bind_eq_ok.mp h
  obtain ⟨authKey, -, h⟩ := except_bind_eq_ok.mp h
  split at h
  · cases h
  · cases h
    refine ⟨fun a key hkey => ?_, fun rm id hid => ?_⟩
    · rw [Table.lookup_insert_eq] at hkey
      split at hkey
      · rename_i ha
        cases hkey
        exact ha
      · exact hkeys.authority a key hkey
    · rw [Table.lookup_insert_eq] at hid
      split at hid
      · rename_i hrm
        cases hid
        exact hrm.symm
      · exact hkeys.manager rm id hid

theorem LaunchpadKeys.Derived.deriveMints {g : SecretGeneration} {secret : String}
    {mints : List String} (hkeys : keys.Derived lp)
    (h : deriveMints lp g secret mints keys = .ok keys') : keys'.Derived lp := by
  induction mints generalizing keys with
  | nil =>
    cases h
    exact hkeys
  | cons m ms ih =>
    obtain ⟨keys₁, h₁, h⟩ := except_bind_eq_ok.mp h
    exact ih (hkeys.deriveMint h₁) h

theorem derived_of_loadLaunchpadKeys {original rotated : String}
    {mints : Except String (List String)}
    (h : loadLaunchpadKeys lp original rotated mints = .ok (some keys)) : keys.Derived lp := by
  unfold loadLaunchpadKeys at h
  simp only at h
  split at h
  · cases h
  · cases h
  · cases h
  · obtain ⟨ms, -, h⟩ := except_bind_eq_ok.mp h
    obtain ⟨-, h⟩ := refuseIf_bind_eq_ok.mp h
    obtain ⟨keys₁, h₁, h⟩ := except_bind_eq_ok.mp h
    obtain ⟨keys₂, h₂, h⟩ := except_bind_eq_ok.mp h
    cases h
    obtain ⟨-, h₁⟩ := refuseIf_bind_eq_ok.mp h₁
    obtain ⟨-, h₂⟩ := refuseIf_bind_eq_ok.mp h₂
    exact (derived_empty.deriveMints h₁).deriveMints h₂

/-- The key is that of one of the listed addresses, compared as the chain compares them. -/
def IsKeyOf (lp : Launchpad AuthKey RmKey) (authorities : List String) (key : AuthKey) : Prop :=
  ∃ a ∈ authorities, isHexAddress (trimSpace a) = true ∧
    canonicalSigner lp.rt a = lp.rt.toLower (lp.address key)

theorem isKeyOf_of_authorityKeyFor (hkeys : keys.Derived lp) {authorities : List String}
    {key : AuthKey} {trimmed : String}
    (h : keys.authorityKeyFor lp authorities = .ok (key, trimmed)) :
    IsKeyOf lp authorities key := by
  unfold LaunchpadKeys.authorityKeyFor at h
  simp only at h
  split at h
  · rename_i key' a hfound
    split at h
    · rename_i hhex
      cases h
      obtain ⟨b, hb, hkey⟩ := List.exists_of_findSome?_eq_some hfound
      obtain ⟨found, hlookup, hpair⟩ := Option.map_eq_some_iff.mp hkey
      obtain ⟨rfl, rfl⟩ := Prod.mk.inj hpair
      exact ⟨b, hb, hhex, hkeys.authority _ _ hlookup⟩
    · cases h
  · cases h

end Derived

/-! ### The plan is closed -/

section Closed

variable {AuthKey RmKey : Type} {lp : Launchpad AuthKey RmKey} {keys : LaunchpadKeys AuthKey RmKey}
  {pools : List RewardPool} {originals originals' : Table String String} {plan plan' : RewardPlan}

theorem originalByMint_eq_ok (h : originalByMint keys pools originals = .ok originals') :
    (∀ p ∈ pools, ∃ id, keys.identityForRM p.rewardsManagerPubkey = some id) ∧
    ∀ mint rm, originals'.lookup mint = some rm → originals.lookup mint = some rm ∨
      ∃ p ∈ pools, p.rewardsManagerPubkey = rm ∧ ∃ id, keys.identityForRM rm = some id ∧
        id.mint = mint ∧ id.generation = .original := by
  induction pools generalizing originals with
  | nil =>
    cases h
    exact ⟨fun _ hp => absurd hp List.not_mem_nil, fun _ _ h => .inl h⟩
  | cons p pools ih =>
    unfold originalByMint at h
    simp only at h
    split at h
    · cases h
    · rename_i id hid
      obtain ⟨hknown, hfound⟩ := ih h
      refine ⟨List.forall_mem_cons.mpr ⟨⟨id, hid⟩, hknown⟩, fun mint rm hlookup => ?_⟩
      rcases hfound mint rm hlookup with hold | ⟨q, hq, hrm, hid'⟩
      · split at hold
        · rename_i horiginal
          rw [Table.lookup_insert_eq] at hold
          split at hold
          · rename_i hmint
            cases hold
            exact .inr ⟨p, List.mem_cons_self, rfl, id, hid, hmint.symm, horiginal⟩
          · exact .inl hold
        · exact .inl hold
      · exact .inr ⟨q, List.mem_cons_of_mem p hq, hrm, hid'⟩

/-- The second pass: a pool with a real manager is remapped to it and the others are planned. -/
theorem planPools_eq_ok (h : planPools lp keys originals pools plan = .ok plan') :
    plan'.pools = plan.pools ++
      pools.filter (fun p => (realManager keys originals p.rewardsManagerPubkey).isNone) ∧
    (∀ rm, plan'.remap.lookup rm = if rm ∈ pools.map (·.rewardsManagerPubkey) then
        (realManager keys originals rm).or (plan.remap.lookup rm) else plan.remap.lookup rm) ∧
    ∀ p ∈ pools, realManager keys originals p.rewardsManagerPubkey = none →
      ∃ key, keys.authorityKeyFor lp p.authorities = .ok key := by
  induction pools generalizing plan with
  | nil =>
    cases h
    exact ⟨(List.append_nil _).symm, fun _ => rfl, fun _ hp => absurd hp List.not_mem_nil⟩
  | cons p pools ih =>
    unfold planPools at h
    simp only at h
    split at h
    · rename_i real hreal
      obtain ⟨hpools, hremap, hsigned⟩ := ih h
      refine ⟨?_, fun rm => ?_, List.forall_mem_cons.mpr ⟨fun hnone => ?_, hsigned⟩⟩
      · rw [hpools, List.filter_cons, hreal]
        rfl
      · rw [hremap]
        simp only [List.map_cons, List.mem_cons, Table.lookup_insert_eq]
        by_cases hrm : rm = p.rewardsManagerPubkey
        · subst hrm
          simp [hreal]
        · simp [hrm]
      · rw [hreal] at hnone
        cases hnone
    · rename_i hnone
      obtain ⟨-, h⟩ := refuseIf_bind_eq_ok.mp h
      obtain ⟨key, hkey, h⟩ := except_bind_eq_ok.mp h
      obtain ⟨hpools, hremap, hsigned⟩ := ih h
      refine ⟨?_, fun rm => ?_, List.forall_mem_cons.mpr
        ⟨fun _ => ⟨key, except_mapError_eq_ok.mp hkey⟩, hsigned⟩⟩
      · rw [hpools, List.filter_cons, hnone]
        simp
      · rw [hremap]
        simp only [List.map_cons, List.mem_cons]
        by_cases hrm : rm = p.rewardsManagerPubkey
        · subst hrm
          simp [hnone]
        · simp [hrm]

/-- Both passes together: planned are the pools without a real manager, and the others are
remapped to theirs, which is the original pool of their mint. -/
theorem planRewardPools_eq_ok (h : planRewardPools lp keys pools = .ok plan) :
    ∃ originals, (∀ p ∈ pools, ∃ id, keys.identityForRM p.rewardsManagerPubkey = some id) ∧
      (∀ mint rm, originals.lookup mint = some rm → ∃ p ∈ pools, p.rewardsManagerPubkey = rm ∧
        ∃ id, keys.identityForRM rm = some id ∧ id.mint = mint ∧ id.generation = .original) ∧
      plan.pools.Perm
        (pools.filter fun p => (realManager keys originals p.rewardsManagerPubkey).isNone) ∧
      (∀ rm, plan.remap.lookup rm = if rm ∈ pools.map (·.rewardsManagerPubkey) then
        realManager keys originals rm else none) ∧
      ∀ p ∈ plan.pools, ∃ key, keys.authorityKeyFor lp p.authorities = .ok key := by
  unfold planRewardPools at h
  obtain ⟨originals, horiginals, h⟩ := except_bind_eq_ok.mp h
  obtain ⟨plan₁, hplan, h⟩ := except_bind_eq_ok.mp h
  cases h
  obtain ⟨hknown, hfound⟩ := originalByMint_eq_ok horiginals
  obtain ⟨hpools, hremap, hsigned⟩ := planPools_eq_ok hplan
  rw [List.nil_append] at hpools
  have hperm := List.perm_insertionSort
    (fun p q : RewardPool => p.rewardsManagerPubkey ≤ q.rewardsManagerPubkey) plan₁.pools
  refine ⟨originals, hknown, fun mint rm hlookup => ?_, hpools ▸ hperm, fun rm => ?_, ?_⟩
  · exact (hfound mint rm hlookup).resolve_left (by simp)
  · rw [hremap]
    simp
  · intro p hp
    rw [hperm.mem_iff, hpools, List.mem_filter, Option.isNone_iff_eq_none] at hp
    exact hsigned p hp.1 hp.2

/-- What the later lookups rely on. -/
structure PlanClosed (keys : LaunchpadKeys AuthKey RmKey) (pools : List RewardPool)
    (plan : RewardPlan) : Prop where
  /-- a listed pool is planned or remapped, and not both -/
  split : ∀ p ∈ pools, Xor (p ∈ plan.pools) (∃ rm, plan.remap.lookup p.rewardsManagerPubkey = some rm)
  listed : ∀ p ∈ plan.pools, p ∈ pools
  /-- what a pool is remapped to is planned, and is the pool of its mint under the original secret -/
  target : ∀ p ∈ pools, ∀ rm, plan.remap.lookup p.rewardsManagerPubkey = some rm →
    ∃ q ∈ plan.pools, q.rewardsManagerPubkey = rm ∧
      ∃ id id', keys.identityForRM p.rewardsManagerPubkey = some id ∧
        keys.identityForRM rm = some id' ∧ id'.mint = id.mint ∧ id'.generation = .original
  distinct : (plan.pools.map (·.rewardsManagerPubkey)).Nodup

theorem planClosed (hdistinct : (pools.map (·.rewardsManagerPubkey)).Nodup)
    (h : planRewardPools lp keys pools = .ok plan) : PlanClosed keys pools plan := by
  obtain ⟨originals, hknown, hfound, hperm, hremap, -⟩ := planRewardPools_eq_ok h
  have hplanned : ∀ p ∈ pools, (p ∈ plan.pools ↔
      realManager keys originals p.rewardsManagerPubkey = none) := by
    intro p hp
    rw [hperm.mem_iff, List.mem_filter, Option.isNone_iff_eq_none]
    exact and_iff_right hp
  have hmoved : ∀ p ∈ pools, plan.remap.lookup p.rewardsManagerPubkey =
      realManager keys originals p.rewardsManagerPubkey := by
    intro p hp
    rw [hremap, if_pos (List.mem_map_of_mem hp)]
  refine ⟨fun p hp => ?_, fun p hp => ?_, fun p hp rm hrm => ?_, ?_⟩
  · rw [hplanned p hp, hmoved p hp]
    cases realManager keys originals p.rewardsManagerPubkey with
    | none => exact .inl ⟨rfl, fun ⟨_, hsome⟩ => by cases hsome⟩
    | some real => exact .inr ⟨⟨real, rfl⟩, fun hnone => by cases hnone⟩
  · rw [hperm.mem_iff] at hp
    exact List.mem_of_mem_filter hp
  · rw [hmoved p hp] at hrm
    obtain ⟨id, hid⟩ := hknown p hp
    rw [realManager, hid] at hrm
    simp only at hrm
    split at hrm
    · obtain ⟨q, hq, hqrm, id', hid', hmint, horiginal⟩ := hfound _ _ hrm
      -- a pool under the original secret is never remapped
      have hreal : realManager keys originals q.rewardsManagerPubkey = none := by
        rw [realManager, hqrm, hid']
        simp [horiginal]
      exact ⟨q, (hplanned q hq).mpr hreal, hqrm, id, id', hid, hid', hmint, horiginal⟩
    · cases hrm
  · rw [(hperm.map _).nodup_iff]
    exact hdistinct.sublist (List.filter_sublist.map _)

theorem poolFor_of_mem (hclosed : PlanClosed keys pools plan) {q : RewardPool} (hq : q ∈ plan.pools) :
    plan.poolFor q.rewardsManagerPubkey = some q := by
  unfold RewardPlan.poolFor
  obtain ⟨p, hp⟩ := Option.isSome_iff_exists.mp (List.find?_isSome
    (p := fun p : RewardPool => p.rewardsManagerPubkey == q.rewardsManagerPubkey).mpr
    ⟨q, hq, beq_self_eq_true _⟩)
  have hkey : p.rewardsManagerPubkey = q.rewardsManagerPubkey := by
    simpa using List.find?_some hp
  rw [hp, List.inj_on_of_nodup_map hclosed.distinct (List.mem_of_find?_eq_some hp) hq hkey]

/-- The planned pool that the rewards of a listed manager go to. -/
theorem exists_planned (hclosed : PlanClosed keys pools plan) {rm : String}
    (hrm : rm ∈ pools.map (·.rewardsManagerPubkey)) :
    ∃ q ∈ plan.pools, q.rewardsManagerPubkey = (plan.remap.lookup rm).getD rm := by
  obtain ⟨p, hp, rfl⟩ := List.mem_map.mp hrm
  rcases hclosed.split p hp with ⟨hplanned, hnot⟩ | ⟨⟨real, hreal⟩, -⟩
  · have hnone : plan.remap.lookup p.rewardsManagerPubkey = none := by
      rw [Option.eq_none_iff_forall_not_mem]
      exact fun real hreal => hnot ⟨real, hreal⟩
    exact ⟨p, hplanned, by rw [hnone]; rfl⟩
  · obtain ⟨q, hq, hqrm, -⟩ := hclosed.target p hp real hreal
    exact ⟨q, hq, by rw [hreal]; exact hqrm⟩

theorem emitUntilError_of_ok {α β : Type} {emit : α → Except String β} {P : α → β → Prop}
    {as : List α} (h : ∀ a ∈ as, ∃ b, emit a = .ok b ∧ P a b) :
    (emitUntilError emit as).2 = none ∧ List.Forall₂ P as (emitUntilError emit as).1 := by
  induction as with
  | nil => exact ⟨rfl, .nil⟩
  | cons a as ih =>
    obtain ⟨⟨b, hb, hP⟩, hrest⟩ := List.forall_mem_cons.mp h
    unfold emitUntilError
    rw [hb]
    exact ⟨(ih hrest).1, .cons hP (ih hrest).2⟩

end Closed

/-! ### Main results -/

section Main

variable {AuthKey RmKey : Type} {lp : Launchpad AuthKey RmKey} {keys : LaunchpadKeys AuthKey RmKey}
  {pools : List RewardPool} {plan : RewardPlan}

/-- The transaction of a pool, signed by the key of one of its authorities and by its manager. -/
def EmittedPool (lp : Launchpad AuthKey RmKey) (keys : LaunchpadKeys AuthKey RmKey) (p : RewardPool)
    (tx : RewardPoolTx AuthKey RmKey) : Prop :=
  synthesizeRewardPoolTx lp keys p = .ok tx ∧
    tx.create = ⟨p.rewardsManagerPubkey, p.authorities⟩ ∧ IsKeyOf lp p.authorities tx.signer ∧
    lp.pubkey tx.rmSigner = p.rewardsManagerPubkey

/-- The transaction of a reward under a pool, signed by the key of one of the pool's authorities. -/
def EmittedReward (lp : Launchpad AuthKey RmKey) (keys : LaunchpadKeys AuthKey RmKey)
    (plan : RewardPlan) (r : RewardRow) (tx : RewardTx AuthKey) (q : RewardPool) : Prop :=
  emitReward lp keys plan r = .ok tx ∧ tx.create.rewardId = r.rewardId ∧
    tx.create.rewardsManagerPubkey = q.rewardsManagerPubkey ∧ IsKeyOf lp q.authorities tx.signer

theorem exists_emittedPool (hkeys : keys.Derived lp) (h : planRewardPools lp keys pools = .ok plan)
    {p : RewardPool} (hp : p ∈ plan.pools) : ∃ tx, EmittedPool lp keys p tx := by
  obtain ⟨originals, hknown, -, hperm, -, hsigned⟩ := planRewardPools_eq_ok h
  obtain ⟨⟨signer, trimmed⟩, hsigner⟩ := hsigned p hp
  rw [hperm.mem_iff] at hp
  obtain ⟨id, hid⟩ := hknown p (List.mem_of_mem_filter hp)
  have hrun : synthesizeRewardPoolTx lp keys p =
      .ok ⟨⟨p.rewardsManagerPubkey, p.authorities⟩, signer, id.rmKey⟩ := by
    unfold synthesizeRewardPoolTx LaunchpadKeys.rmKeyForPool
    simp only
    rw [hsigner, hid]
    rfl
  exact ⟨_, hrun, rfl, isKeyOf_of_authorityKeyFor hkeys hsigner, hkeys.manager _ _ hid⟩

theorem exists_emittedReward (hkeys : keys.Derived lp)
    (hdistinct : (pools.map (·.rewardsManagerPubkey)).Nodup)
    (h : planRewardPools lp keys pools = .ok plan) {r : RewardRow}
    (hr : r.rewardsManagerPubkey ∈ pools.map (·.rewardsManagerPubkey)) :
    ∃ tx, ∃! q, q ∈ plan.pools ∧ EmittedReward lp keys plan r tx q := by
  have hclosed := planClosed hdistinct h
  obtain ⟨originals, -, -, -, -, hsigned⟩ := planRewardPools_eq_ok h
  obtain ⟨q, hq, hrm⟩ := exists_planned hclosed hr
  obtain ⟨⟨signer, trimmed⟩, hsigner⟩ := hsigned q hq
  have hrun : emitReward lp keys plan r =
      .ok ⟨{ rewardId := r.rewardId, name := r.name, amount := (r.amount % 2 ^ 64).toNat
             rewardsManagerPubkey := q.rewardsManagerPubkey }, signer⟩ := by
    unfold emitReward synthesizeRewardTx
    simp only
    rw [← hrm, poolFor_of_mem hclosed hq]
    simp only
    rw [hsigner]
    rfl
  refine ⟨_, q, ⟨hq, hrun, rfl, rfl, isKeyOf_of_authorityKeyFor hkeys hsigner⟩, ?_⟩
  rintro q' ⟨hq', -, -, hsame, -⟩
  exact List.inj_on_of_nodup_map hclosed.distinct hq' hq hsame.symm

/-- With derived keys and pools of distinct reward managers, a plan that is accepted splits the
pools into planned and remapped ones, remaps to planned pools of the same mint under the original
secret, emits every planned pool, and emits every reward of a listed pool under exactly one planned
pool, each signed by a key of the pool's authorities. If every reward names a listed pool, the run
emits them all. -/
theorem rewardPlan_closed {original rotated : String} {mints : Except String (List String)}
    (hkeys : loadLaunchpadKeys lp original rotated mints = .ok (some keys))
    (hdistinct : (pools.map (·.rewardsManagerPubkey)).Nodup)
    (hplan : planRewardPools lp keys pools = .ok plan) :
    PlanClosed keys pools plan ∧
    (∀ p ∈ plan.pools, ∃ tx, EmittedPool lp keys p tx) ∧
    (∀ r : RewardRow, r.rewardsManagerPubkey ∈ pools.map (·.rewardsManagerPubkey) →
      ∃ tx, ∃! q, q ∈ plan.pools ∧ EmittedReward lp keys plan r tx q) ∧
    ∀ rewards : List RewardRow,
      (∀ r ∈ rewards, r.rewardsManagerPubkey ∈ pools.map (·.rewardsManagerPubkey)) →
      (writeRewards lp keys pools rewards).error = none ∧
      List.Forall₂ (EmittedPool lp keys) plan.pools (writeRewards lp keys pools rewards).pools ∧
      List.Forall₂ (fun r tx => ∃ q ∈ plan.pools, EmittedReward lp keys plan r tx q) rewards
        (writeRewards lp keys pools rewards).rewards := by
  have hderived := derived_of_loadLaunchpadKeys hkeys
  have hpool := fun p (hp : p ∈ plan.pools) => exists_emittedPool hderived hplan hp
  have hreward := fun (r : RewardRow) hr => exists_emittedReward hderived hdistinct hplan (r := r) hr
  refine ⟨planClosed hdistinct hplan, hpool, hreward, fun rewards hlisted => ?_⟩
  obtain ⟨hpoolsOk, hpools⟩ : _ ∧ List.Forall₂ (EmittedPool lp keys) plan.pools
      (emitUntilError (synthesizeRewardPoolTx lp keys) plan.pools).1 := by
    apply emitUntilError_of_ok
    intro p hp
    obtain ⟨tx, htx⟩ := hpool p hp
    exact ⟨tx, htx.1, htx⟩
  obtain ⟨hrewardsOk, hrewards⟩ :
      _ ∧ List.Forall₂ (fun r tx => ∃ q ∈ plan.pools, EmittedReward lp keys plan r tx q) rewards
        (emitUntilError (emitReward lp keys plan) rewards).1 := by
    apply emitUntilError_of_ok
    intro r hr
    obtain ⟨tx, q, ⟨hq, htx⟩, -⟩ := hreward r (hlisted r hr)
    exact ⟨tx, htx.1, q, hq, htx⟩
  have hrun : writeRewards lp keys pools rewards =
      { pools := (emitUntilError (synthesizeRewardPoolTx lp keys) plan.pools).1
        rewards := (emitUntilError (emitReward lp keys plan) rewards).1
        error := (emitUntilError (emitReward lp keys plan) rewards).2 } := by
    unfold writeRewards
    rw [hplan]
    simp only
    split
    · rename_i e he
      rw [he] at hpoolsOk
      cases hpoolsOk
    · rename_i he
      rw [he]
  rw [hrun]
  exact ⟨hrewardsOk, hpools, hrewards⟩

end Main

/-! ### A mint with two pools -/

def oneDigitSecret (c : Char) : String := String.ofList (List.replicate 64 c)

/-- What a secret derives for a mint: the scalar and the seed of its keys, and their texts. -/
structure RecordedIdentity where
  scalar : Nat
  address : String
  seed : Nat
  pubkey : String

def originalIdentity : RecordedIdentity where
  scalar := 0xfd44db2ce307a788b4e005226cb56c6844c4d6504b3019437aad476fffc4257b
  address := "0xAbcF85Be21aB0B82B294ecC12b2EFcBb65b3BD03"
  seed := 0x5398b0fe354cd01fe280df8682e00e82c96e3ba79e74b3f7a5aac9e55909fcaf
  pubkey := "8CgciaguVshTciGS5xw3F5Ps6fMiKNrGnLTgcv2spWi3"

def rotatedIdentity : RecordedIdentity where
  scalar := 0xeae2173b1bc8b75d405d96335d71de7a3597043b01205d0dd0dac5b49e00c3d1
  address := "0xEFfd8bB971Eb3cB01df6A1A96815B67C756DA3cc"
  seed := 0x7a78d96910c21bf93d1d1098a69f640281a75d71cf3d4d27eb2e9b75b13efbea
  pubkey := "ESRyPMovkcGEo18UftSwGDYpVa72T8EsiuPDmNkU7Ssn"

def recordedMint : String := "So11111111111111111111111111111111111111112"

/-- The derivations for one mint and two secrets, as the real functions return them. -/
def recordedLaunchpad : Launchpad Nat Nat :=
  let identity (secret : String) :=
    if secret = oneDigitSecret '1' then originalIdentity else rotatedIdentity
  { rt := .amd64
    base58Decode := fun m => if m = recordedMint then
        .ok (bigEndian 32 0x069b8857feab8184fb687f634618c035dac439dc1aeb3b5598a0f00000000001)
      else .error "not recorded"
    deriveRewardManagerKeypair := fun secret _ => (identity secret).seed
    pubkey := fun seed =>
      if seed = originalIdentity.seed then originalIdentity.pubkey else rotatedIdentity.pubkey
    deriveClaimAuthority := fun secret _ => .ok (identity secret).scalar
    address := fun scalar => if scalar = originalIdentity.scalar then originalIdentity.address
      else rotatedIdentity.address }

def loadedKeys : Except String (Option (LaunchpadKeys Nat Nat)) :=
  loadLaunchpadKeys recordedLaunchpad (oneDigitSecret '1') (oneDigitSecret '2') (.ok [recordedMint])

def firstKeys : LaunchpadKeys Nat Nat :=
  match loadedKeys with
  | .ok (some keys) => keys
  | _ => {}

def twoPools : List RewardPool :=
  [⟨originalIdentity.pubkey, [rotatedIdentity.address]⟩,
    ⟨rotatedIdentity.pubkey, [rotatedIdentity.address]⟩]

def twoPoolsPlan : RewardPlan :=
  match planRewardPools recordedLaunchpad firstKeys twoPools with
  | .ok plan => plan
  | .error _ => {}

def phantomReward : RewardRow := ⟨"r", "", 1, rotatedIdentity.pubkey⟩

/-- The pool under the rotated secret is dropped, and its reward goes to the other one. -/
theorem phantomReward_moves :
    loadedKeys = .ok (some firstKeys) ∧
    planRewardPools recordedLaunchpad firstKeys twoPools = .ok twoPoolsPlan ∧
    twoPoolsPlan.remap.lookup rotatedIdentity.pubkey = some originalIdentity.pubkey ∧
    ∃ tx, ∃! q, q ∈ twoPoolsPlan.pools ∧
      EmittedReward recordedLaunchpad firstKeys twoPoolsPlan phantomReward tx q := by
  have hkeys : loadedKeys = .ok (some firstKeys) := rfl
  have hplan : planRewardPools recordedLaunchpad firstKeys twoPools = .ok twoPoolsPlan := rfl
  have hclosed := rewardPlan_closed hkeys (by decide +kernel) hplan
  exact ⟨hkeys, hplan, by decide +kernel, hclosed.2.2.1 phantomReward (by decide +kernel)⟩

end OpenAudio.Genesis
