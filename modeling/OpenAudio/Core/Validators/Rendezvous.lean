import OpenAudio.Core.Registration
import OpenAudio.Lib.Ranks
import Mathlib.Data.Finset.Card

/-!
# Attestors

Registrations and deregistrations need the signatures of peers that a key picks out of all
validators. Every validator answers alike, since the choice depends on the set of the validators and
the signers only, not on the order in which a database or a transaction lists them.
-/

namespace OpenAudio.Core

/-! ### The source's steps -/

/-- The excluded address is overwritten with the last one, and the list cut by one. -/
def deleteInPlace (addrs : List String) (excludeAddress : String) : List String :=
  match addrs.idxOf? excludeAddress with
  | some i => (addrs.set i (addrs.getLastD "")).dropLast
  | none => addrs

/-- `attestationHasEnoughSigners`, on the addresses in the order the query returns them. -/
def hasEnoughSigners (ext : Externals) (addrs signers : List String) (rendezvousKey : Bytes)
    (rendezvousSize signersNeeded : Int) (excludeAddress : String) : Bool :=
  let filteredAddrs := deleteInPlace addrs excludeAddress
  let signersNeeded := min (filteredAddrs.length : Int) signersNeeded
  let rendezvous := getAttestorRendezvous ext filteredAddrs rendezvousKey rendezvousSize
  decide (countSigners signers rendezvous signersNeeded ≤ 0)

/-! ### The order of the rendezvous -/

section Order

variable (ext : Externals) (key : Bytes)

def score (addr : String) : Bytes := ext.sha256 (textBytes addr ++ key)

/-- The rendezvous order for a key: by score, then by address. -/
def RendezvousLe (a b : String) : Prop :=
  score ext key a < score ext key b ∨ (score ext key a = score ext key b ∧ a ≤ b)

instance : DecidableRel (RendezvousLe ext key) := fun _ _ => inferInstanceAs (Decidable (_ ∨ _))

instance : IsTrans String (RendezvousLe ext key) where
  trans a b c := by
    rintro (hab | ⟨hab, hab'⟩) (hbc | ⟨hbc, hbc'⟩)
    · exact .inl (List.lt_trans hab hbc)
    · exact .inl (hbc ▸ hab)
    · exact .inl (hab ▸ hbc)
    · exact .inr ⟨hab.trans hbc, hab'.trans hbc'⟩

instance : Std.Total (RendezvousLe ext key) where
  total a b := by
    by_cases hab : score ext key a < score ext key b
    · exact .inl (.inl hab)
    by_cases hba : score ext key b < score ext key a
    · exact .inr (.inl hba)
    have hscore : score ext key a = score ext key b :=
      List.le_antisymm (List.not_lt.mp hba) (List.not_lt.mp hab)
    exact (le_total a b).imp (fun h => .inr ⟨hscore, h⟩) fun h => .inr ⟨hscore.symm, h⟩

instance : Std.Antisymm (RendezvousLe ext key) where
  antisymm a b := by
    rintro (hab | ⟨hab, hab'⟩) (hba | ⟨hba, hba'⟩)
    · exact absurd hba (List.lt_asymm hab)
    · exact absurd (hba ▸ hab) (List.lt_irrefl _)
    · exact absurd (hab ▸ hba) (List.lt_irrefl _)
    · exact le_antisymm hab' hba'

theorem tupleLe_iff (a b : String) :
    RendezvousLe ext key a b ↔ tupleLe (a, score ext key a) (b, score ext key b) = true := by
  unfold RendezvousLe tupleLe
  dsimp only
  split
  · rename_i h
    simp [h]
  · rename_i h
    simp [h]

theorem sort_tuples_eq (addrs : List String) :
    (addrs.map fun addr => (addr, ext.sha256 (textBytes addr ++ key))).insertionSort
      (fun a b => tupleLe a b = true) =
        (addrs.insertionSort (RendezvousLe ext key)).map fun addr => (addr, score ext key addr) := by
  symm
  apply List.map_insertionSort
  intro a _ b _
  exact tupleLe_iff ext key a b

theorem getAttestorRendezvous_eq (addrs : List String) (size : Int) :
    getAttestorRendezvous ext addrs key size =
      ((addrs.insertionSort (RendezvousLe ext key)).take size.toNat).dedup := by
  unfold getAttestorRendezvous
  dsimp only
  rw [sort_tuples_eq, ← List.map_take, List.map_map]
  simp [Function.comp_def]

theorem mem_getAttestorRendezvous {addrs : List String} (hdistinct : addrs.Nodup) (size : Int)
    (a : String) : a ∈ getAttestorRendezvous ext addrs key size ↔
      a ∈ addrs ∧ rank (RendezvousLe ext key) addrs a < size.toNat := by
  rw [getAttestorRendezvous_eq, List.mem_dedup, mem_take_insertionSort_iff _ hdistinct]

end Order

/-! ### Counting the signers -/

theorem countSigners_eq (signers rendezvous : List String) (hnodup : rendezvous.Nodup)
    (needed : Int) : countSigners signers rendezvous needed =
      needed - (signers.toFinset ∩ rendezvous.toFinset).card := by
  induction signers generalizing rendezvous needed with
  | nil => simp [countSigners]
  | cons signer signers ih =>
    rw [countSigners]
    split
    · rename_i hmem
      rw [ih _ (hnodup.erase signer)]
      have hset : (signer :: signers).toFinset ∩ rendezvous.toFinset =
          insert signer (signers.toFinset ∩ (rendezvous.erase signer).toFinset) := by
        ext a
        simp only [List.toFinset_cons, Finset.mem_inter, Finset.mem_insert, List.mem_toFinset,
          hnodup.mem_erase_iff]
        by_cases ha : a = signer
        · simp [ha, hmem]
        · simp [ha]
      have hnew : signer ∉ signers.toFinset ∩ (rendezvous.erase signer).toFinset := by
        simp [hnodup.mem_erase_iff]
      rw [hset, Finset.card_insert_of_notMem hnew]
      push_cast
      omega
    · rename_i hmem
      rw [ih _ hnodup]
      have hset : (signer :: signers).toFinset ∩ rendezvous.toFinset =
          signers.toFinset ∩ rendezvous.toFinset := by
        ext a
        simp only [List.toFinset_cons, Finset.mem_inter, Finset.mem_insert, List.mem_toFinset]
        constructor
        · rintro ⟨rfl | ha, hr⟩
          · exact absurd hr hmem
          · exact ⟨ha, hr⟩
        · rintro ⟨ha, hr⟩
          exact ⟨.inr ha, hr⟩
      rw [hset]

theorem nodup_getAttestorRendezvous (ext : Externals) (addrs : List String) (key : Bytes)
    (size : Int) : (getAttestorRendezvous ext addrs key size).Nodup := List.nodup_dedup _

/-! ### Deleting in place -/

theorem deleteInPlace_append {before after : List String} {a : String} (hnew : a ∉ before) :
    deleteInPlace (before ++ a :: after) a =
      ((before ++ a :: after).set before.length ((before ++ a :: after).getLastD "")).dropLast := by
  have hidx : (before ++ a :: after).idxOf? a = some before.length := by
    rw [List.idxOf?_eq_some_iff]
    refine ⟨by simp, by simp, ?_⟩
    intro j hj
    rw [List.getElem_append_left hj]
    intro heq
    exact hnew (heq ▸ List.getElem_mem hj)
  rw [deleteInPlace, hidx]

theorem deleteInPlace_perm (addrs : List String) (a : String) :
    (deleteInPlace addrs a).Perm (addrs.erase a) := by
  by_cases hmem : a ∈ addrs
  · obtain ⟨before, after, rfl, hnew⟩ := List.eq_append_cons_of_mem hmem
    rw [deleteInPlace_append hnew, List.erase_append_right _ hnew, List.erase_cons_head]
    rcases List.eq_nil_or_concat after with rfl | ⟨middle, last, rfl⟩
    · simp
    · have hshape : before ++ a :: middle.concat last = (before ++ a :: middle) ++ [last] := by
        simp
      have hset : (before ++ a :: middle).set before.length last = before ++ last :: middle := by
        simp
      rw [hshape, List.getLastD_concat, List.set_append_left _ _ (by simp), List.dropLast_concat,
        hset, List.concat_eq_append]
      exact (List.perm_append_singleton last middle).symm.append_left before
  · have hnone : addrs.idxOf? a = none := List.idxOf?_eq_none_iff.mpr hmem
    rw [deleteInPlace, hnone, List.erase_of_not_mem hmem]

/-! ### The answer -/

section Answer

variable (ext : Externals) (key : Bytes) (rSize needed : Int) (excludeAddress : String)

theorem hasEnoughSigners_eq (addrs signers : List String) :
    hasEnoughSigners ext addrs signers key rSize needed excludeAddress =
      decide (min ((addrs.erase excludeAddress).length : Int) needed ≤
        (signers.toFinset ∩ (getAttestorRendezvous ext (addrs.erase excludeAddress) key
          rSize).toFinset).card) := by
  have hperm := deleteInPlace_perm addrs excludeAddress
  have hsame : getAttestorRendezvous ext (deleteInPlace addrs excludeAddress) key rSize =
      getAttestorRendezvous ext (addrs.erase excludeAddress) key rSize := by
    rw [getAttestorRendezvous_eq, getAttestorRendezvous_eq, insertionSort_eq_of_perm _ hperm]
  unfold hasEnoughSigners
  dsimp only
  rw [countSigners_eq _ _ (nodup_getAttestorRendezvous ..), hperm.length_eq, hsame]
  rw [decide_eq_decide]
  omega

theorem attestationHasEnoughSigners_eq (db : Db) (signers : List String) :
    attestationHasEnoughSigners ext db signers key rSize needed excludeAddress =
      hasEnoughSigners ext db.getAllEthAddressesOfRegisteredNodes signers key rSize needed
        excludeAddress := by
  rw [hasEnoughSigners_eq]
  unfold attestationHasEnoughSigners
  dsimp only
  rw [countSigners_eq _ _ (nodup_getAttestorRendezvous ..)]
  rw [decide_eq_decide]
  omega

theorem hasEnoughSigners_congr {addrs addrs' signers signers' : List String}
    (haddrs : addrs.Perm addrs') (hsigners : ∀ a, a ∈ signers ↔ a ∈ signers') :
    hasEnoughSigners ext addrs signers key rSize needed excludeAddress =
      hasEnoughSigners ext addrs' signers' key rSize needed excludeAddress := by
  have hset : signers.toFinset = signers'.toFinset := by
    ext a
    simp [hsigners a]
  have herase := haddrs.erase excludeAddress
  rw [hasEnoughSigners_eq, hasEnoughSigners_eq, hset, herase.length_eq, getAttestorRendezvous_eq,
    getAttestorRendezvous_eq, insertionSort_eq_of_perm _ herase]

/-- With distinct validators there are enough signers exactly if as many of them as needed are among
the first validators in the rendezvous order, and every order of the validators and every list of
the same signers gives the same answer. -/
theorem hasEnoughSigners_iff {addrs : List String} (hdistinct : addrs.Nodup)
    (signers : List String) :
    (∀ addrs' signers', addrs.Perm addrs' → (∀ a, a ∈ signers ↔ a ∈ signers') →
      hasEnoughSigners ext addrs' signers' key rSize needed excludeAddress =
        hasEnoughSigners ext addrs signers key rSize needed excludeAddress) ∧
    (∀ db : Db, db.getAllEthAddressesOfRegisteredNodes = addrs →
      attestationHasEnoughSigners ext db signers key rSize needed excludeAddress =
        hasEnoughSigners ext addrs signers key rSize needed excludeAddress) ∧
    let validators := addrs.filter (· != excludeAddress)
    let n : Int := validators.length
    hasEnoughSigners ext addrs signers key rSize needed excludeAddress = true ↔
      min needed n ≤ ((signers.toFinset.filter fun a => a ∈ validators ∧
        (rank (RendezvousLe ext key) validators a : Int) < min rSize n).card : Int) := by
  refine ⟨?_, ?_, ?_⟩
  · intro addrs' signers' haddrs hsigners
    exact (hasEnoughSigners_congr ext key rSize needed excludeAddress haddrs hsigners).symm
  · rintro db rfl
    exact attestationHasEnoughSigners_eq ext key rSize needed excludeAddress db signers
  · intro validators n
    have herase : addrs.erase excludeAddress = validators := hdistinct.erase_eq_filter excludeAddress
    have hvalidators : validators.Nodup := hdistinct.filter _
    -- an address among the validators has fewer of them before it than there are
    have hattestors : signers.toFinset ∩ (getAttestorRendezvous ext validators key rSize).toFinset =
        signers.toFinset.filter fun a => a ∈ validators ∧
          (rank (RendezvousLe ext key) validators a : Int) < min rSize n := by
      ext a
      simp only [Finset.mem_inter, Finset.mem_filter, List.mem_toFinset,
        mem_getAttestorRendezvous ext key hvalidators]
      refine and_congr_right fun _ => and_congr_right fun ha => ?_
      have hlt := rank_lt_length (RendezvousLe ext key) ha
      simp only [n]
      omega
    rw [hasEnoughSigners_eq, decide_eq_true_eq, herase, hattestors, min_comm]

end Answer

def rendezvousCalls : Externals.Recorded where
  sha256 :=
    [(textBytes "0xA" ++ [7], Externals.digest
      0x1430cbaa0f0961fb8416d91d2b0ab3020e6f5885707874fbfa928db0e7861b44),
     (textBytes "0xB" ++ [7], Externals.digest
      0xa62536b37d3267014910529071c3d2c915995c4d89cd5009a4de4071f67b1ec4),
     (textBytes "0xC" ++ [7], Externals.digest
      0x054cf2e6988f9bb89b3bc17712339a6a348f6993c2da19afee07ef9743d35537),
     (textBytes "a" ++ textBytes "k", Externals.digest
      0x7f093592aebbb47767b5655699cdab8c86c4b24f5c93e3b22a3c2538856e9bf1),
     (textBytes "b" ++ textBytes "k", Externals.digest
      0x7a7db4726ec27397cbbd002d9819a07656cce115b481522a6caa6e24d4725695)]

def threeNodesDb : Db :=
  { Db.empty with validators :=
      [{ Server.firstNode with ethAddress := ⟨"0xA", by decide⟩ },
       { Server.firstNode with ethAddress := ⟨"0xB", by decide⟩ },
       { Server.firstNode with ethAddress := ⟨"0xC", by decide⟩ }] }

/-- Two of the three nodes attest the jailing of the third, one of them twice. -/
theorem hasEnoughSigners_threeNodes :
    let ext := rendezvousCalls.externals
    let addrs := ["0xA", "0xB", "0xC"]
    let signers := ["0xB", "0xA", "0xB"]
    addrs.Nodup ∧ hasEnoughSigners ext addrs signers [7] 2 3 "0xC" = true ∧
      hasEnoughSigners ext addrs.reverse ["0xA", "0xB"] [7] 2 3 "0xC" =
        hasEnoughSigners ext addrs signers [7] 2 3 "0xC" ∧
      attestationHasEnoughSigners ext threeNodesDb signers [7] 2 3 "0xC" =
        hasEnoughSigners ext addrs signers [7] 2 3 "0xC" := by
  intro ext addrs signers
  have hdistinct : addrs.Nodup := by decide
  obtain ⟨hsame, hdb, hanswer⟩ := hasEnoughSigners_iff ext [7] 2 3 "0xC" hdistinct signers
  refine ⟨hdistinct, hanswer.mpr (by decide +kernel), hsame _ _ (List.reverse_perm addrs).symm ?_,
    hdb threeNodesDb rfl⟩
  intro a
  simp only [signers, List.mem_cons, List.not_mem_nil, or_false]
  tauto

/-! ### Hosts that come and go -/

/-- `filterLiveHosts`, with the URLs that `url.Parse` takes -/
def filterLiveHosts (parses : String → Bool) (hosts deadHosts : List String) : List String :=
  hosts.foldl (fun liveHosts h =>
    if deadHosts.any fun dead => decide ((textBytes dead).IsInfix (textBytes h)) || h == dead then
      liveHosts
    else if parses h = false then liveHosts
    else if h ∈ liveHosts then liveHosts
    else liveHosts ++ [h]) []

/-- The hosts of a hasher are different ones. -/
structure RendezvousHasher where
  hosts : List String
  distinct : hosts.Nodup

theorem nodup_filterLiveHosts (parses : String → Bool) (hosts deadHosts : List String) :
    (filterLiveHosts parses hosts deadHosts).Nodup := by
  refine List.foldlRecOn hosts _ List.nodup_nil fun liveHosts hnodup h _ => ?_
  split_ifs with _ _ hmem
  · exact hnodup
  · exact hnodup
  · exact hnodup
  · exact List.nodup_append.mpr ⟨hnodup, List.nodup_singleton h, by
      rintro a ha b hb rfl
      exact hmem (List.mem_singleton.mp hb ▸ ha)⟩

namespace RendezvousHasher

/-- `NewRendezvousHasher` and `UpdateHosts` -/
def new (parses : String → Bool) (hosts deadHosts : List String) : RendezvousHasher :=
  ⟨filterLiveHosts parses hosts deadHosts, nodup_filterLiveHosts parses hosts deadHosts⟩

/-- `RendezvousHasher.Rank`. `HostTuples` are compared as `NodeTuples` are. -/
def rank (ext : Externals) (rh : RendezvousHasher) (key : String) : List String :=
  let tuples := rh.hosts.map fun host => (host, ext.sha256 (textBytes host ++ textBytes key))
  (tuples.insertionSort fun a b => tupleLe a b = true).map (·.1)

variable (ext : Externals)

theorem rank_eq (rh : RendezvousHasher) (key : String) :
    rh.rank ext key = rh.hosts.insertionSort (RendezvousLe ext (textBytes key)) := by
  unfold rank
  dsimp only
  rw [sort_tuples_eq, List.map_map]
  simp [Function.comp_def]

theorem rank_perm (rh : RendezvousHasher) (key : String) : (rh.rank ext key).Perm rh.hosts := by
  rw [rank_eq]
  exact List.perm_insertionSort _ _

theorem rank_restrict {rh rh' : RendezvousHasher} (h : ∀ host ∈ rh'.hosts, host ∈ rh.hosts)
    (key : String) :
    rh'.rank ext key = (rh.rank ext key).filter fun host => decide (host ∈ rh'.hosts) := by
  rw [rank_eq, rank_eq]
  apply insertionSort_eq_filter
  refine (List.perm_ext_iff_of_nodup rh'.distinct (rh.distinct.filter _)).mpr fun host => ?_
  rw [List.mem_filter, decide_eq_true_eq]
  exact ⟨fun hhost => ⟨h host hhost, hhost⟩, And.right⟩

end RendezvousHasher

/-- The attestors without one of the validators. -/
theorem getAttestorRendezvous_erase (ext : Externals) (key : Bytes) (size : Int)
    {addrs : List String} (hdistinct : addrs.Nodup) (v a : String) :
    a ∈ getAttestorRendezvous ext (addrs.erase v) key size ↔
      if v ∈ getAttestorRendezvous ext addrs key size then
        (a ∈ getAttestorRendezvous ext addrs key size ∧ a ≠ v) ∨
          (addrs.insertionSort (RendezvousLe ext key))[size.toNat]? = some a
      else a ∈ getAttestorRendezvous ext addrs key size := by
  have hnodup := (List.perm_insertionSort (RendezvousLe ext key) addrs).nodup_iff.mpr hdistinct
  simp only [getAttestorRendezvous_eq, List.mem_dedup, insertionSort_erase]
  split
  · rename_i hv
    rw [take_erase_of_mem hv, List.mem_append, (hnodup.sublist (List.take_sublist _ _)).mem_erase_iff,
      Option.mem_toList, and_comm]
  · rename_i hv
    rw [take_erase_of_not_mem hv]

/-- All live hosts are ranked, each once. Ranking some of them is ranking all of them and keeping
these, in whatever order both were supplied. Without a validator that was not picked the attestors are the same ones; without one
that was, the next one takes its place, if there is one. -/
theorem rendezvous_least_disruption (ext : Externals) (parses : String → Bool) :
    (∀ key hosts deadHosts, ((RendezvousHasher.new parses hosts deadHosts).rank ext key).Perm
      (filterLiveHosts parses hosts deadHosts)) ∧
    (∀ key hosts deadHosts hosts' deadHosts',
      (∀ host ∈ filterLiveHosts parses hosts' deadHosts',
        host ∈ filterLiveHosts parses hosts deadHosts) →
      (RendezvousHasher.new parses hosts' deadHosts').rank ext key =
        ((RendezvousHasher.new parses hosts deadHosts).rank ext key).filter fun host =>
          decide (host ∈ filterLiveHosts parses hosts' deadHosts')) ∧
    ∀ key size (addrs : List String), addrs.Nodup → ∀ v,
      (v ∉ getAttestorRendezvous ext addrs key size → ∀ a,
        a ∈ getAttestorRendezvous ext (addrs.erase v) key size ↔
          a ∈ getAttestorRendezvous ext addrs key size) ∧
      (v ∈ getAttestorRendezvous ext addrs key size → ∀ a,
        a ∈ getAttestorRendezvous ext (addrs.erase v) key size ↔
          (a ∈ getAttestorRendezvous ext addrs key size ∧ a ≠ v) ∨
            (addrs.insertionSort (RendezvousLe ext key))[size.toNat]? = some a) := by
  refine ⟨fun key hosts deadHosts => RendezvousHasher.rank_perm ext _ key,
    fun key hosts deadHosts hosts' deadHosts' h => RendezvousHasher.rank_restrict ext h key, ?_⟩
  intro key size addrs hdistinct v
  refine ⟨fun hv a => ?_, fun hv a => ?_⟩
  · rw [getAttestorRendezvous_erase ext key size hdistinct, if_neg hv]
  · rw [getAttestorRendezvous_erase ext key size hdistinct, if_pos hv]

/-- The first of three validators leaves, and one of two hosts. -/
theorem rendezvous_without_first :
    let ext := rendezvousCalls.externals
    (RendezvousHasher.new (fun _ => true) ["b"] []).rank ext "k" =
      ((RendezvousHasher.new (fun _ => true) ["b", "a"] []).rank ext "k").filter
        (fun host => decide (host ∈ ["b"])) ∧
    (∀ a, a ∈ getAttestorRendezvous ext (["0xA", "0xB", "0xC"].erase "0xA") [7] 2 ↔
      (a ∈ getAttestorRendezvous ext ["0xA", "0xB", "0xC"] [7] 2 ∧ a ≠ "0xA") ∨
        (["0xA", "0xB", "0xC"].insertionSort (RendezvousLe ext [7]))[2]? = some a) := by
  intro ext
  obtain ⟨-, hrank, hattestors⟩ := rendezvous_least_disruption ext fun _ => true
  exact ⟨hrank "k" ["b", "a"] [] ["b"] [] (by decide +kernel),
    (hattestors [7] 2 ["0xA", "0xB", "0xC"] (by decide) "0xA").2 (by decide +kernel)⟩

end OpenAudio.Core
