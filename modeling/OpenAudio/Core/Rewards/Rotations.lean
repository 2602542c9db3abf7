import OpenAudio.Core.Rewards.Pools

/-!
# Rotations of a pool

A rotation replaces the list of a pool by the one it carries. The list may hold any text of 40
hexadecimal digits, but only the address of a key, with its marker, is ever recovered from a
signature. The signature covers the body alone, and nothing records which bodies were applied.
-/

namespace OpenAudio.Core

open Prog

/-! ### The text of a recovered address -/

section Texts

variable (ext : Externals)

theorem map_toUpper_checksumHex {address : Bytes} (h : address.length = 20) :
    (ext.checksumHex address).toList.map Char.toUpper =
      '0' :: 'X' :: (hexChars address).map Char.toUpper := by
  have hcase : ∀ cs ds : List Char, cs.length ≤ ds.length →
      (List.zipWith (fun c d => if (hexDigit d).any (7 < ·) then c.toUpper else c) cs ds).map
        Char.toUpper = cs.map Char.toUpper := by
    intro cs
    induction cs with
    | nil => simp
    | cons c cs ih =>
      intro ds hlen
      cases ds with
      | nil => simp at hlen
      | cons d ds =>
        rw [List.zipWith_cons_cons, List.map_cons, List.map_cons, ih ds (by simpa using hlen)]
        split
        · rw [toUpper_toUpper]
        · rfl
  unfold Externals.checksumHex
  rw [String.toList_ofList, List.map_cons, List.map_cons, hcase]
  · rfl
  · rw [length_hexChars, length_hexChars, ext.keccak256_length]
    omega

theorem namedAddress_checksumHex {address : Bytes} (h : address.length = 20) :
    namedAddress (ext.checksumHex address) = some address := by
  refine namedAddress_eq_some.mpr ⟨?_, h⟩
  rw [← hexBytes_map_toUpper, ← withoutMarker_map_toUpper, map_toUpper_checksumHex ext h,
    withoutMarker, if_pos (by simp), hexBytes_map_toUpper, hexBytes_hexChars]

theorem length_pubkeyToAddress (key : Bytes) : (ext.pubkeyToAddress key).length = 20 := by
  rw [Externals.pubkeyToAddress, List.length_drop, ext.keccak256_length]

theorem ethRecover_eq_ok {signature : String} {data key : Bytes} {address : String}
    (h : ext.ethRecover signature data = .ok (key, address)) :
    address = ext.checksumHex (ext.pubkeyToAddress key) := by
  unfold Externals.ethRecover at h
  split at h
  · cases h
  split at h
  · cases h
  · cases h
    rfl

theorem canonicalSigner_checksumHex (rt : GoRuntime) {address : Bytes} (h : address.length = 20) :
    canonicalSigner rt (ext.checksumHex address) = rt.toLower (ext.checksumHex address) := by
  have key : ∀ c : Char, c.toNat < 128 → IsAddressChar c → isGoSpace c = false := by
    refine ascii_forall ?_
    unfold IsAddressChar
    decide
  rw [canonicalSigner, trimSpace_of_forall]
  intro c hc
  have hchar := isAddressChar_of_named (namedAddress_checksumHex ext h) c hc
  exact key c hchar.ascii hchar

/-- The text begins with the marker, in either case. -/
def Marked (text : String) : Prop :=
  ['0', 'x'] <+: text.toList ∨ ['0', 'X'] <+: text.toList

instance (text : String) : Decidable (Marked text) := inferInstanceAs (Decidable (_ ∨ _))

theorem marked_iff {text : String} :
    Marked text ↔ ∃ d rest, text.toList = '0' :: d :: rest ∧ (d = 'x' ∨ d = 'X') := by
  constructor
  · rintro (⟨rest, h⟩ | ⟨rest, h⟩)
    · exact ⟨'x', rest, h.symm, .inl rfl⟩
    · exact ⟨'X', rest, h.symm, .inr rfl⟩
  · rintro ⟨d, rest, h, rfl | rfl⟩
    · exact .inl ⟨rest, h.symm⟩
    · exact .inr ⟨rest, h.symm⟩

/-- The texts that are compared as a recovered address are those that name it with the marker. -/
theorem toLower_eq_canonicalSigner_iff (rt : GoRuntime) {text : String} {address : Bytes}
    (htext : ∀ c ∈ text.toList, IsAddressChar c) (h : address.length = 20) :
    rt.toLower text = canonicalSigner rt (ext.checksumHex address) ↔
      Marked text ∧ namedAddress text = some address := by
  have hchecksum := namedAddress_checksumHex ext h
  have hascii : ∀ c ∈ text.toList, c.toNat < 128 := fun c hc => (htext c hc).ascii
  have hascii' : ∀ c ∈ (ext.checksumHex address).toList, c.toNat < 128 :=
    fun c hc => (isAddressChar_of_named hchecksum c hc).ascii
  rw [canonicalSigner_checksumHex ext rt h, marked_iff]
  constructor
  · intro heq
    have hupper : text.toList.map Char.toUpper =
        (ext.checksumHex address).toList.map Char.toUpper := by
      rw [← map_toUpper_toLower rt hascii, heq, map_toUpper_toLower rt hascii']
    refine ⟨?_, (namedAddress_congr hupper).trans hchecksum⟩
    rw [map_toUpper_checksumHex ext h] at hupper
    obtain ⟨c, cs, hcs, hc, hrest⟩ := List.map_eq_cons_iff.mp hupper
    obtain ⟨d, rest, rfl, hd, -⟩ := List.map_eq_cons_iff.mp hrest
    obtain rfl : c = '0' := (toUpper_eq_iff_marker c).1.mp hc
    exact ⟨d, rest, hcs, (toUpper_eq_iff_marker d).2.mp (.inr hd)⟩
  · rintro ⟨⟨d, rest, hcs, hd⟩, hnamed⟩
    apply toLower_congr rt hascii hascii'
    obtain ⟨hbytes, -⟩ := namedAddress_eq_some.mp hnamed
    rw [hcs, withoutMarker, if_pos ⟨rfl, hd⟩] at hbytes
    rw [map_toUpper_checksumHex ext h, hcs, List.map_cons, List.map_cons,
      map_toUpper_of_hexBytes hbytes (hexBytes_hexChars address)]
    rcases hd with rfl | rfl
    · rfl
    · rfl

end Texts

namespace Server

variable (s : Server)

/-! ### Lists with a signer -/

/-- Some text of the list is the one an address that a signature recovers to is compared as. -/
def Recoverable (list : List PgText) : Prop :=
  ∃ a ∈ list, ∃ signature data key address,
    s.ext.ethRecover signature data = .ok (key, address) ∧ a.val = canonicalSigner s.rt address

/-- One of the addresses is written with the marker and is that of a key a signature recovers to. -/
def NamesKey (addrs : List String) : Prop :=
  ∃ a ∈ addrs, Marked (trimSpace a) ∧ ∃ signature data key address,
    s.ext.ethRecover signature data = .ok (key, address) ∧
      namedAddress (trimSpace a) = some (s.ext.pubkeyToAddress key)

variable {s}

/-- A stored list has a signer exactly if the list it was given as names a key. -/
theorem recoverable_iff_namesKey {addrs : List String}
    (h : validateAuthorityList s.rt addrs = .ok ()) {list : List PgText}
    (hlist : list.map PgText.val = canonicalAuthorities s.rt addrs) :
    s.Recoverable list ↔ s.NamesKey addrs := by
  obtain ⟨-, hhex⟩ := validateAuthorityList_eq_ok.mp h
  have hspells : ∀ a ∈ addrs, ∀ key, s.rt.toLower (trimSpace a) =
      canonicalSigner s.rt (s.ext.checksumHex (s.ext.pubkeyToAddress key)) ↔
      Marked (trimSpace a) ∧ namedAddress (trimSpace a) = some (s.ext.pubkeyToAddress key) :=
    fun a ha key => toLower_eq_canonicalSigner_iff s.ext s.rt
      (isAddressChar_of_isHexAddress (hhex a ha)) (length_pubkeyToAddress s.ext key)
  constructor
  · rintro ⟨stored, hstored, signature, data, key, address, hrecover, hval⟩
    have hmem := List.mem_map_of_mem (f := PgText.val) hstored
    rw [hlist, mem_canonicalAuthorities] at hmem
    obtain ⟨-, a, ha, heq⟩ := hmem
    obtain rfl := ethRecover_eq_ok s.ext hrecover
    obtain ⟨hmarked, hnamed⟩ := (hspells a ha key).mp (heq.trans hval)
    exact ⟨a, ha, hmarked, signature, data, key, _, hrecover, hnamed⟩
  · rintro ⟨a, ha, hmarked, signature, data, key, address, hrecover, hnamed⟩
    obtain rfl := ethRecover_eq_ok s.ext hrecover
    have heq := (hspells a ha key).mpr ⟨hmarked, hnamed⟩
    have hmem : s.rt.toLower (trimSpace a) ∈ list.map PgText.val := by
      rw [hlist, mem_canonicalAuthorities]
      refine ⟨?_, a, ha, rfl⟩
      rw [Ne, s.rt.toLower_eq_empty_iff]
      exact ne_empty_of_isHexAddress (hhex a ha)
    obtain ⟨stored, hstored, hval⟩ := List.mem_map.mp hmem
    exact ⟨stored, hstored, signature, data, key, _, hrecover, hval.trans heq⟩

/-! ### A rotation in a block -/

theorem Rotates.unique {pools : Table PgText (List PgText)} {msg : SetRewardPoolAuthorities}
    {signer signer' : String} {rm rm' : PgText} {old old' list list' : List PgText}
    (h : s.Rotates pools msg signer rm old list) (h' : s.Rotates pools msg signer' rm' old' list') :
    rm = rm' ∧ old = old' ∧ list = list' := by
  obtain rfl : rm = rm' := PgText.ext (h.manager.trans h'.manager.symm)
  refine ⟨rfl, Option.some.inj (h.found.symm.trans h'.found), ?_⟩
  exact List.map_injective_iff.mpr (fun a b => PgText.ext) (h.stored.trans h'.stored.symm)

theorem finalizeSet_aborted {t : Txn Db} (h : t.aborted = true) (msg : SetRewardPoolAuthorities)
    (signer : String) : ∃ e, (s.finalizeSetRewardPoolAuthorities msg signer t).1 = .error e := by
  unfold finalizeSetRewardPoolAuthorities
  cases validateRewardsManagerPubkeyShape s.ext msg.rewardsManagerPubkey with
  | error e => exact ⟨e, rfl⟩
  | ok _ =>
    rw [ofExcept_ok_bind]
    cases validateAuthorityList s.rt msg.authorities with
    | error e => exact ⟨e, rfl⟩
    | ok _ =>
      rw [ofExcept_ok_bind]
      rcases BlockProg.query_context_cases s!"failed to load pool {msg.rewardsManagerPubkey}"
          (Db.getRewardPool msg.rewardsManagerPubkey) t with ⟨e, t', hquery, -⟩ | ⟨_, hlive, -⟩
      · exact ⟨e, congrArg Prod.fst (bind_of_error (bind_of_error hquery))⟩
      · rw [h] at hlive
        cases hlive

/-- The pool body that stands in a transaction, with its signature. -/
def signedPoolBody (s : Server) (tx : Bytes) : Option (RewardPoolBody × String) :=
  match s.bodyOf tx with
  | some (.rewardPool envelope) => envelope.body.map fun body => (body, envelope.signature)
  | _ => none

theorem signedPoolBody_eq_some {tx : Bytes} {body : RewardPoolBody} {signature : String} :
    s.signedPoolBody tx = some (body, signature) ↔ ∃ stx envelope,
      s.ext.unmarshalSigned tx = some stx ∧ stx.transaction = some (.rewardPool envelope) ∧
      envelope.body = some body ∧ envelope.signature = signature := by
  constructor
  · intro h
    unfold signedPoolBody at h
    split at h
    · rename_i envelope hbody
      obtain ⟨stx, hdecode, hstx⟩ := Option.bind_eq_some_iff.mp hbody
      obtain ⟨body', hbody', heq⟩ := Option.map_eq_some_iff.mp h
      cases heq
      exact ⟨stx, envelope, hdecode, hstx, hbody', rfl⟩
    · cases h
  · rintro ⟨stx, envelope, hdecode, hstx, hbody, rfl⟩
    simp [signedPoolBody, bodyOf, hdecode, hstx, hbody]

variable (s)

/-- A signed body goes through at a height on the state of a block: it would replace `old` by
`list`. -/
def Admits (blockHeight : Int) (t : Txn Db) (body : RewardPoolBody) (signature : String)
    (msg : SetRewardPoolAuthorities) (rm : PgText) (old list : List PgText) : Prop :=
  t.aborted = false ∧ blockHeight ≤ body.deadlineBlockHeight ∧ ∃ signer,
    s.ext.protoRecover (.rewardPoolBody body) signature = .ok signer ∧
      s.Rotates t.view.rewards.pools msg signer rm old list

variable {s}

theorem Admits.unique {H : Int} {t : Txn Db} {body : RewardPoolBody} {signature : String}
    {msg : SetRewardPoolAuthorities} {rm rm' : PgText} {old old' list list' : List PgText}
    (h : s.Admits H t body signature msg rm old list)
    (h' : s.Admits H t body signature msg rm' old' list') : rm = rm' ∧ old = old' ∧ list = list' := by
  obtain ⟨-, -, signer, -, hrotates⟩ := h
  obtain ⟨-, -, signer', -, hrotates'⟩ := h'
  exact hrotates.unique hrotates'

theorem executeTx_poolMessage {tx : Bytes} {stx : SignedTransaction} {envelope : RewardPoolMessage}
    (hdecode : s.ext.unmarshalSigned tx = some stx)
    (hstx : stx.transaction = some (.rewardPool envelope)) (req : FinalizeBlockRequest)
    (index : Nat) (t : Txn Db) :
    (s.txOutcome req index tx t).1 =
      (if (s.finalizeRewardPoolTransaction req envelope (s.ext.toTxHashFromBytes tx) 0 t).1.isOk
        then .ok else .failed) ∧
    (s.executeTx req index tx t).2.view.rewards =
      (s.finalizeRewardPoolTransaction req envelope (s.ext.toTxHashFromBytes tx) 0
        t).2.view.rewards := by
  have hother : deregisteredAddress stx.transaction = "" := by
    rw [hstx]
    rfl
  have hcode := s.txOutcome_finalizes hdecode hother req index t
  have hpart : (s.executeTx req index tx t).2.view.rewards = _ :=
    (s.executeTx_finalizes hdecode hother req index t).1 .rewards (by simp)
  unfold finalizeTransaction at hcode hpart
  simp only [hstx] at hcode hpart
  exact ⟨hcode, hpart⟩

/-- What a rotation does where it stands: it replaces the list if it goes through, and otherwise
fails and leaves the pools. -/
theorem executeTx_rotation {tx : Bytes} {body : RewardPoolBody} {signature : String}
    {msg : SetRewardPoolAuthorities} (htx : s.signedPoolBody tx = some (body, signature))
    (haction : body.action = some (.setAuthorities msg)) (req : FinalizeBlockRequest) (index : Nat)
    (t : Txn Db) :
    (∃ rm old list, s.Admits req.height t body signature msg rm old list ∧
      (s.txOutcome req index tx t).1 = .ok ∧
      (s.executeTx req index tx t).2.view.rewards.pools = t.view.rewards.pools.insert rm list) ∨
    ((∀ rm old list, ¬ s.Admits req.height t body signature msg rm old list) ∧
      (s.txOutcome req index tx t).1 = .failed ∧
      (s.executeTx req index tx t).2.view.rewards.pools = t.view.rewards.pools) := by
  obtain ⟨stx, envelope, hdecode, hstx, hbody, rfl⟩ := signedPoolBody_eq_some.mp htx
  obtain ⟨hcode, hrewards⟩ := executeTx_poolMessage hdecode hstx req index t
  rw [hcode, hrewards]
  have hfoot := s.footprint_finalizeRewardPoolTransaction req envelope
    (s.ext.toTxHashFromBytes tx) 0
  rcases s.finalizeRewardPoolTransaction_cases req envelope (s.ext.toTxHashFromBytes tx) 0 with
    ⟨e, hrun, hnone⟩ | ⟨body', signer, ⟨hbody', hdeadline, hsigner⟩, hrun⟩
  · -- not signed in time
    rw [hrun]
    refine .inr ⟨fun rm old list h => ?_, rfl, rfl⟩
    obtain ⟨-, hdeadline, signer, hsigner, -⟩ := h
    rw [hnone body signer ⟨hbody, hdeadline, hsigner⟩] at haction
    cases haction
  obtain rfl : body = body' := Option.some.inj (hbody.symm.trans hbody')
  rcases hrun with ⟨msg', haction', -⟩ | ⟨msg', haction', hrun⟩
  · rw [haction] at haction'
    cases haction'
  obtain rfl : msg = msg' := by
    rw [haction] at haction'
    cases haction'
    rfl
  rw [hrun] at hfoot ⊢
  by_cases hdead : t.aborted = true
  · obtain ⟨e, herror⟩ := finalizeSet_aborted (s := s) hdead msg signer
    rw [hfoot.later t hdead, Prog.mapError, herror]
    refine .inr ⟨fun rm old list h => ?_, rfl, rfl⟩
    rw [h.1] at hdead
    cases hdead
  rw [Bool.not_eq_true] at hdead
  obtain ⟨db, _⟩ := t
  cases hdead
  rw [Prog.mapError]
  rcases s.finalizeSet_live db msg signer with ⟨rm, old, list, hrotates, hfin⟩ | ⟨hnot, e, hfin⟩
  · rw [hfin]
    exact .inl ⟨rm, old, list, ⟨rfl, hdeadline, signer, hsigner, hrotates⟩, rfl, rfl⟩
  · rw [hfin]
    refine .inr ⟨fun rm old list h => ?_, rfl, rfl⟩
    obtain ⟨-, -, signer', hsigner', hrotates⟩ := h
    obtain rfl : signer = signer' := Except.ok.inj (hsigner.symm.trans hsigner')
    exact hnot rm old list hrotates

/-! ### No signer left -/

variable (s)

/-- Every list the pools have newly is one a signer can authorize with. -/
def LeavesSigner (pools pools' : Table PgText (List PgText)) : Prop :=
  ∀ rm list, pools'.lookup rm = some list → pools.lookup rm = some list ∨ s.Recoverable list

variable {s}

theorem recoverable_of_created {envelope : RewardPoolMessage} {body : RewardPoolBody}
    {msg : CreateRewardPool} {signer : String} {H : Int} {list : List PgText}
    (hsigned : s.SignedBy H envelope body signer)
    (hcheck : s.checkPoolMessage envelope body msg signer = .ok ())
    (hlist : list.map PgText.val = canonicalAuthorities s.rt msg.authorities) :
    s.Recoverable list := by
  obtain ⟨-, -, hmem⟩ := checkPoolMessage_eq_ok hcheck
  rw [← hlist] at hmem
  obtain ⟨a, ha, hval⟩ := List.mem_map.mp hmem
  obtain ⟨-, -, hrecover⟩ := hsigned
  unfold Externals.protoRecover at hrecover
  cases hkey : s.ext.ethRecover envelope.signature (s.ext.marshal (.rewardPoolBody body)) with
  | error e =>
    rw [hkey] at hrecover
    cases hrecover
  | ok recovered =>
    rw [hkey] at hrecover
    obtain rfl : recovered.2 = signer := Except.ok.inj hrecover
    exact ⟨a, ha, envelope.signature, _, recovered.1, recovered.2, hkey, hval⟩

/-- A pool transaction leaves a signer exactly if the list of a rotation that goes through, and
changes the list, names a key with its marker. -/
theorem leavesSigner_iff_namesKey {tx : Bytes} {stx : SignedTransaction}
    {envelope : RewardPoolMessage} (hdecode : s.ext.unmarshalSigned tx = some stx)
    (hstx : stx.transaction = some (.rewardPool envelope)) (req : FinalizeBlockRequest)
    (index : Nat) (t : Txn Db) :
    s.LeavesSigner t.view.rewards.pools (s.executeTx req index tx t).2.view.rewards.pools ↔
      ∀ body msg rm old list, envelope.body = some body →
        body.action = some (.setAuthorities msg) →
        s.Admits req.height t body envelope.signature msg rm old list → list ≠ old →
        s.NamesKey msg.authorities := by
  constructor
  · intro h body msg rm old list hbody haction hadmits hne
    have htx : s.signedPoolBody tx = some (body, envelope.signature) :=
      signedPoolBody_eq_some.mpr ⟨stx, envelope, hdecode, hstx, hbody, rfl⟩
    rcases executeTx_rotation htx haction req index t with
      ⟨rm', old', list', hadmits', -, hpools⟩ | ⟨hnot, -⟩
    · obtain ⟨rfl, rfl, rfl⟩ := hadmits.unique hadmits'
      obtain ⟨-, -, signer, -, hrotates⟩ := hadmits
      rw [hpools] at h
      rcases h rm list (Table.sets_insert _ _ _).lookup_self with hold | hrecoverable
      · exact absurd (Option.some.inj (hold.symm.trans hrotates.found)) hne
      · exact (recoverable_iff_namesKey hrotates.addresses hrotates.stored).mp hrecoverable
    · exact absurd hadmits (hnot rm old list)
  · intro h
    obtain ⟨-, hrewards⟩ := executeTx_poolMessage hdecode hstx req index t
    by_cases hdead : t.aborted = true
    · rw [hrewards, (s.footprint_finalizeRewardPoolTransaction req envelope _ 0).later t hdead]
      exact fun rm list hlist => .inl hlist
    rw [Bool.not_eq_true] at hdead
    obtain ⟨pools', hpools, hstep⟩ :=
      s.poolStep_finalizeRewardPoolTransaction req envelope (s.ext.toTxHashFromBytes tx) 0 t
    rw [hrewards, hpools]
    intro rm' list' hlist'
    cases hstep with
    | same heq =>
      rw [heq] at hlist'
      exact .inl hlist'
    | created signed action check manager stored isNew sets =>
      rcases sets.cases hlist' with ⟨-, rfl⟩ | ⟨-, hold⟩
      · exact .inr (recoverable_of_created signed check stored)
      · exact .inl hold
    | @rotated body msg signer rm old list signed action rotates sets =>
      rcases sets.cases hlist' with ⟨rfl, rfl⟩ | ⟨-, hold⟩
      · by_cases hne : list' = old
        · rw [hne]
          exact .inl rotates.found
        · obtain ⟨hbody, hdeadline, hsigner⟩ := signed
          refine .inr ((recoverable_iff_namesKey rotates.addresses rotates.stored).mpr ?_)
          exact h body msg rm' old list' hbody action
            ⟨hdead, hdeadline, signer, hsigner, rotates⟩ hne
      · exact .inl hold

/-- The admission of the second key leaves the first one, which signed it. -/
theorem leavesSigner_admission :
    rotationNode.NamesKey admitSecond.authorities ∧
    rotationNode.LeavesSigner poolDb.rewards.pools
      (rotationNode.executeTx (admission.block 1).req 0 admission.bytes
        (Txn.begin poolDb)).2.view.rewards.pools := by
  have hkey : Marked (trimSpace "0x7E5F4552091A69125d5DfCb7b8C2659029395Bdf") ∧
      rotationNode.ext.ethRecover admitSecond.signature admitSecond.bytes =
        .ok (firstKey.pubKey, "0x7E5F4552091A69125d5DfCb7b8C2659029395Bdf") ∧
      namedAddress (trimSpace "0x7E5F4552091A69125d5DfCb7b8C2659029395Bdf") =
        some (rotationNode.ext.pubkeyToAddress firstKey.pubKey) := by
    decide +kernel
  obtain ⟨hmarked, hrecover, hnamed⟩ := hkey
  have hnames : rotationNode.NamesKey admitSecond.authorities :=
    ⟨_, List.mem_cons_self, hmarked, _, _, _, _, hrecover, hnamed⟩
  have hdecode : rotationNode.ext.unmarshalSigned admission.bytes = some admission.signed := by
    decide +kernel
  refine ⟨hnames, (leavesSigner_iff_namesKey hdecode rfl _ 0 (Txn.begin poolDb)).mpr ?_⟩
  intro body msg rm old list hbody haction _ _
  cases hbody
  cases haction
  exact hnames

/-- The pool is handed over to the second key, whose address is stored without its marker. The
block is accepted and committed, and no signature recovers to the text that is stored. -/
theorem handover_leaves_no_signer :
    (rotationNode.voter poolDb (handover.block 1)).Accepts (handover.block 1).req ∧
    (rotationNode.commitAll poolDb [handover.block 1]).map poolAuthorities =
      some (some ["2b5ad5c4795c026514f8317c7a215e218dccd6cf"]) ∧
    ∀ signature data key address, rotationNode.ext.ethRecover signature data = .ok (key, address) →
      canonicalSigner rotationNode.rt address ≠ "2b5ad5c4795c026514f8317c7a215e218dccd6cf" := by
  refine and_assoc.mp ⟨by decide +kernel, fun signature data key address hrecover heq => ?_⟩
  obtain rfl := ethRecover_eq_ok _ hrecover
  have htext : rotationNode.rt.toLower "2b5ad5c4795c026514f8317c7a215e218dccd6cf" =
        "2b5ad5c4795c026514f8317c7a215e218dccd6cf" ∧
      isHexAddress "2b5ad5c4795c026514f8317c7a215e218dccd6cf" = true ∧
      ¬ Marked "2b5ad5c4795c026514f8317c7a215e218dccd6cf" := by decide +kernel
  obtain ⟨hlower, hhex, hbare⟩ := htext
  -- a text that is compared as a recovered address has the marker
  have hmarked := (toLower_eq_canonicalSigner_iff rotationNode.ext rotationNode.rt
    (isAddressChar_of_isHexAddress hhex) (length_pubkeyToAddress _ key)).mp (hlower.trans heq.symm)
  exact hbare hmarked.1

/-! ### A body that stands in a run again -/

/-- A reward message has a body. -/
def Execution.HasRewardBody (e : Execution) : Prop :=
  ∀ stx msg, e.node.ext.unmarshalSigned e.tx = some stx → stx.transaction = some (.reward msg) →
    msg.body ≠ none

/-- A transaction changes the pools only as a pool message, and then as one. -/
theorem Execution.poolStep_or_eq {e : Execution} (hcurrent : e.HasRewardBody) :
    e.after.view.rewards.pools = e.before.view.rewards.pools ∨
      ∃ stx envelope, e.node.ext.unmarshalSigned e.tx = some stx ∧
        stx.transaction = some (.rewardPool envelope) ∧
        e.node.PoolStep e.req.height envelope e.before.view.rewards.pools
          e.after.view.rewards.pools := by
  obtain ⟨s, req, index, tx, t⟩ := e
  dsimp only [after] at hcurrent ⊢
  have hother : Part.rewards ∉ s.txParts tx →
      (s.executeTx req index tx t).2.view.rewards.pools = t.view.rewards.pools := by
    intro hnot
    have hrewards : (s.executeTx req index tx t).2.view.rewards = t.view.rewards :=
      (s.footprint_executeTx req index tx).untouched (p := .rewards) hnot t
    rw [hrewards]
  cases hdecode : s.ext.unmarshalSigned tx with
  | none => exact .inl (hother (by simp [txParts, hdecode]))
  | some stx =>
    cases hbody : stx.transaction with
    | none => exact .inl (hother (by simp [txParts, hdecode, hbody]))
    | some body =>
      cases body with
      | reward msg =>
        have hrewards : (s.executeTx req index tx t).2.view.rewards = _ :=
          (s.executeTx_finalizes hdecode (by rw [hbody]; rfl) req index t).1 .rewards (by simp)
        unfold finalizeTransaction at hrewards
        simp only [hbody] at hrewards
        have hbacked : Backed _ _ := s.keepsBacked_finalizeRewards req
          (s.ext.toTxHashFromBytes tx) 0 (hcurrent stx msg hdecode hbody) t
        rw [hrewards]
        exact .inl hbacked.1
      | rewardPool envelope =>
        obtain ⟨-, hrewards⟩ := executeTx_poolMessage hdecode hbody req index t
        obtain ⟨pools', hpools, hstep⟩ :=
          s.poolStep_finalizeRewardPoolTransaction req envelope (s.ext.toTxHashFromBytes tx) 0 t
        rw [hrewards, hpools]
        exact .inr ⟨stx, envelope, rfl, hbody, hstep⟩
      | _ => exact .inl (hother (by simp [txParts, hdecode, hbody, TxBody.parts]))

def Execution.Admits (e : Execution) (body : RewardPoolBody) (signature : String)
    (msg : SetRewardPoolAuthorities) (rm : PgText) (old list : List PgText) : Prop :=
  e.node.Admits e.req.height e.before body signature msg rm old list

def Execution.KeepsLists (e : Execution) : Prop :=
  ∀ rm, e.after.view.rewards.pools.lookup rm = e.before.view.rewards.pools.lookup rm

/-- The signed body stands in the transaction, however it is wrapped. -/
def Execution.Carries (e : Execution) (body : RewardPoolBody) (signature : String) : Prop :=
  e.node.signedPoolBody e.tx = some (body, signature)

instance (e : Execution) (body : RewardPoolBody) (signature : String) :
    Decidable (e.Carries body signature) := inferInstanceAs (Decidable (_ = _))

/-- The list a transaction sets for the pool of a reward manager, if it is a rotation of that pool
and goes through. -/
def Execution.setsList (e : Execution) (pubkey : String) : Option (List String) := do
  let (body, _) ← e.node.signedPoolBody e.tx
  match body.action with
  | some (.setAuthorities msg) =>
    if msg.rewardsManagerPubkey = pubkey ∧ e.code = .ok then
      some (canonicalAuthorities e.node.rt msg.authorities)
    else none
  | _ => none

/-- The list of the last rotation of the pool that goes through; the one it has, if there is none. -/
def listAfter (pubkey : String) (list : List String) (es : List Execution) : List String :=
  es.foldl (fun list e => (e.setsList pubkey).getD list) list

variable (s)

/-- Once the body was applied, it changes no list again, wherever it stands in the run. -/
def AppliesOnce (body : RewardPoolBody) (signature : String) (db : Db) (bs : List Block) : Prop :=
  (s.executions db bs).Pairwise fun e e' => e.Carries body signature →
    e'.Carries body signature → e.code = .ok → e'.KeepsLists

variable {s}

theorem Execution.code_eq_ok_iff {e : Execution} {body : RewardPoolBody} {signature : String}
    {msg : SetRewardPoolAuthorities} (he : e.Carries body signature)
    (haction : body.action = some (.setAuthorities msg)) :
    e.code = .ok ↔ ∃ rm old list, e.Admits body signature msg rm old list := by
  rcases executeTx_rotation he haction e.req e.index e.before with
    ⟨rm, old, list, hadmits, hcode, -⟩ | ⟨hnot, hcode, -⟩
  · exact ⟨fun _ => ⟨rm, old, list, hadmits⟩, fun _ => hcode⟩
  · constructor
    · intro hok
      rw [Execution.code, hcode] at hok
      cases hok
    · rintro ⟨rm, old, list, hadmits⟩
      exact absurd hadmits (hnot rm old list)

/-- Where a rotation goes through, the pool has the list it carries afterwards. -/
theorem Execution.Admits.lookup_after {e : Execution} {body : RewardPoolBody} {signature : String}
    {msg : SetRewardPoolAuthorities} {rm : PgText} {old list : List PgText}
    (h : e.Admits body signature msg rm old list) (he : e.Carries body signature)
    (haction : body.action = some (.setAuthorities msg)) :
    e.after.view.rewards.pools.lookup rm = some list := by
  rcases executeTx_rotation he haction e.req e.index e.before with
    ⟨rm', old', list', h', -, hpools⟩ | ⟨hnot, -⟩
  · obtain ⟨rfl, rfl, rfl⟩ := Server.Admits.unique h h'
    rw [Execution.after, hpools]
    exact (Table.sets_insert _ _ _).lookup_self
  · exact absurd h (hnot rm old list)

theorem Execution.keepsLists_iff {e : Execution} {body : RewardPoolBody} {signature : String}
    {msg : SetRewardPoolAuthorities} (he : e.Carries body signature)
    (haction : body.action = some (.setAuthorities msg)) :
    e.KeepsLists ↔ ∀ rm old list, e.Admits body signature msg rm old list → list = old := by
  constructor
  · intro hkeeps rm old list hadmits
    have hafter := hadmits.lookup_after he haction
    obtain ⟨-, -, signer, -, hrotates⟩ := hadmits
    exact Option.some.inj ((hafter.symm.trans (hkeeps rm)).trans hrotates.found)
  · intro hsame
    rcases executeTx_rotation he haction e.req e.index e.before with
      ⟨rm, old, list, hadmits, -, hpools⟩ | ⟨-, -, hpools⟩
    · have hsets := Table.sets_insert e.before.view.rewards.pools rm list
      rw [← hpools, hsame rm old list hadmits] at hsets
      obtain ⟨-, -, signer, -, hrotates⟩ := hadmits
      exact hsets.lookup_eq hrotates.found
    · intro rm
      rw [Execution.after, hpools]

/-! ### The list of a pool along a run -/

/-- The step: a transaction leaves the list of a pool unless it is a rotation of it. -/
theorem Execution.lookup_after {e : Execution} (hcurrent : e.HasRewardBody) {rm : PgText}
    {old : List PgText}
    (hold : e.before.view.rewards.pools.lookup rm = some old) :
    ∃ new, e.after.view.rewards.pools.lookup rm = some new ∧
      new.map PgText.val = (e.setsList rm.val).getD (old.map PgText.val) := by
  by_cases hrotation : ∃ body signature msg, e.Carries body signature ∧
      body.action = some (.setAuthorities msg)
  · obtain ⟨body, signature, msg, he, haction⟩ := hrotation
    have hsets : e.setsList rm.val = if msg.rewardsManagerPubkey = rm.val ∧ e.code = .ok then
        some (canonicalAuthorities e.node.rt msg.authorities) else none := by
      rw [setsList, show e.node.signedPoolBody e.tx = _ from he]
      simp only [Option.bind_eq_bind, Option.bind_some, haction]
    rcases executeTx_rotation he haction e.req e.index e.before with
      ⟨rm', old', list', ⟨-, -, signer, -, hrotates⟩, hcode, hpools⟩ | ⟨-, hcode, hpools⟩
    · have hset := Table.sets_insert e.before.view.rewards.pools rm' list'
      rw [← hpools] at hset
      by_cases heq : rm = rm'
      · subst heq
        refine ⟨list', hset.lookup_self, ?_⟩
        rw [hsets, if_pos ⟨hrotates.manager.symm, hcode⟩]
        exact hrotates.stored
      · refine ⟨old, (hset.lookup_of_ne heq).trans hold, ?_⟩
        rw [hsets, if_neg fun h => heq (PgText.ext (h.1.symm.trans hrotates.manager.symm))]
        rfl
    · refine ⟨old, by rw [Execution.after, hpools, hold], ?_⟩
      rw [hsets, if_neg fun h => by rw [Execution.code, hcode] at h; cases h.2]
      rfl
  · have hsets : e.setsList rm.val = none := by
      unfold setsList
      cases hbody : e.node.signedPoolBody e.tx with
      | none => rfl
      | some signed =>
        match haction : signed.1.action with
        | some (.setAuthorities msg) => exact absurd ⟨_, _, msg, hbody, haction⟩ hrotation
        | some (.create msg) => simp [haction]
        | none => simp [haction]
    refine ⟨old, ?_, by rw [hsets]; rfl⟩
    rcases e.poolStep_or_eq hcurrent with heq | ⟨stx, envelope, hdecode, hbody, hstep⟩
    · rw [heq, hold]
    cases hstep with
    | same heq => rw [heq, hold]
    | created signed action check manager stored isNew sets =>
      refine (sets.lookup_of_ne ?_).trans hold
      rintro rfl
      rw [isNew] at hold
      cases hold
    | rotated signed action rotates sets =>
      exact absurd ⟨_, _, _, signedPoolBody_eq_some.mpr ⟨stx, envelope, hdecode, hbody, signed.1, rfl⟩,
        action⟩ hrotation

/-- Every transaction starts on the rewards the one before it has left. -/
def Linked : RewardTables → List Execution → Prop
  | _, [] => True
  | r, e :: es => e.before.view.rewards = r ∧ Linked e.after.view.rewards es

theorem linked_block {db : Db} {b : Block} {later : List Execution}
    (hlater : Linked ((s.executor db b).progress b.req b.req.txs.length).txn.view.rewards later)
    {txs : List Bytes} {k : Nat} (htxs : b.req.txs.drop k = txs) (hk : k ≤ b.req.txs.length) :
    Linked ((s.executor db b).progress b.req k).txn.view.rewards
      ((txs.zipIdx k).map (fun (tx, n) => ⟨s.executor db b, b.req, n, tx,
        ((s.executor db b).progress b.req n).txn⟩) ++ later) := by
  induction txs generalizing k with
  | nil =>
    obtain rfl : k = b.req.txs.length := by
      have := List.drop_eq_nil_iff.mp htxs
      omega
    exact hlater
  | cons tx txs ih =>
    have htx : b.req.txs[k]? = some tx := by
      rw [← List.head?_drop, htxs]
      rfl
    have hlt : k < b.req.txs.length := (List.getElem?_eq_some_iff.mp htx).1
    have hrest : b.req.txs.drop (k + 1) = txs := by
      rw [← List.tail_drop, htxs]
      rfl
    refine ⟨rfl, ?_⟩
    have h := ih hrest hlt
    rw [(s.executor db b).txn_progress_succ b.req htx] at h
    exact h

/-- The run: the transactions of all its blocks are linked, from the database on. -/
theorem linked_executions (db : Db) (bs : List Block) : Linked db.rewards (s.executions db bs) := by
  induction bs generalizing db with
  | nil => trivial
  | cons b bs ih =>
    rw [← executor_start db b]
    refine linked_block ?_ rfl (Nat.zero_le _)
    cases hcommit : (s.executor db b).commitBlock b.req with
    | none => trivial
    | some db' =>
      have hend : db'.rewards =
          ((s.executor db b).progress b.req b.req.txs.length).txn.view.rewards :=
        (s.executor db b).part_commitBlock hcommit (p := .rewards) (by decide)
      rw [← hend]
      exact ih db'

theorem reward_body_of_mem_executions {db : Db} {bs : List Block}
    (hrun : s.EachBlock (fun db b => (s.voter db b).Accepts b.req) db bs) {e : Execution}
    (he : e ∈ s.executions db bs) :
    e.node.rt = s.rt ∧ e.HasRewardBody := by
  induction bs generalizing db with
  | nil => cases he
  | cons b bs ih =>
    obtain ⟨hb, hrest⟩ := hrun
    rcases List.mem_append.mp he with he | he
    · obtain ⟨⟨tx, n⟩, hmem, rfl⟩ := List.mem_map.mp he
      have htx := List.mem_of_getElem? (List.mem_zipIdx_iff_getElem?.mp hmem)
      exact ⟨rfl, fun stx msg hdecode hbody => hb.reward_body htx hdecode hbody⟩
    · cases hcommit : (s.executor db b).commitBlock b.req with
      | none => simp [hcommit] at he
      | some db' =>
        rw [hcommit] at he
        exact ih (hrest db' hcommit) he

/-- Where a transaction of linked ones stands, a pool has the list of the last rotation before. -/
theorem lookup_of_linked {es : List Execution} {r : RewardTables} (hlinked : Linked r es)
    (hcurrent : ∀ e ∈ es, e.HasRewardBody) {rm : PgText} {old : List PgText}
    (hold : r.pools.lookup rm = some old) {n : Nat} {e : Execution} (he : es[n]? = some e) :
    ∃ new, e.before.view.rewards.pools.lookup rm = some new ∧
      new.map PgText.val = listAfter rm.val (old.map PgText.val) (es.take n) := by
  induction es generalizing r old n with
  | nil => cases he
  | cons first es ih =>
    obtain ⟨hfirst, hlinked⟩ := hlinked
    cases n with
    | zero =>
      cases he
      exact ⟨old, by rw [hfirst, hold], rfl⟩
    | succ n =>
      rw [← hfirst] at hold
      obtain ⟨new, hnew, hval⟩ := first.lookup_after (hcurrent first List.mem_cons_self) hold
      obtain ⟨last, hlast, hlist⟩ :=
        ih hlinked (fun e he => hcurrent e (List.mem_cons_of_mem _ he)) hnew he
      exact ⟨last, hlast, by rw [hlist, hval]; rfl⟩

theorem Linked.drop {es : List Execution} {r : RewardTables} (h : Linked r es) {n : Nat}
    {e : Execution} (he : es[n]? = some e) : Linked e.after.view.rewards (es.drop (n + 1)) := by
  induction es generalizing r n with
  | nil => cases he
  | cons first es ih =>
    cases n with
    | zero =>
      cases he
      exact h.2
    | succ n => exact ih h.2 he

/-- Where a rotation that went through stands again, the pool has the list of the last rotation in
between. -/
theorem lists_between {body : RewardPoolBody} {signature : String} {msg : SetRewardPoolAuthorities}
    (haction : body.action = some (.setAuthorities msg)) {db : Db} {bs : List Block}
    (hrun : s.EachBlock (fun db b => (s.voter db b).Accepts b.req) db bs) {i j : Nat}
    {e e' : Execution} (hij : i < j) (hi : (s.executions db bs)[i]? = some e)
    (hj : (s.executions db bs)[j]? = some e') (he : e.Carries body signature) (hcode : e.code = .ok)
    {rm : PgText} {old list : List PgText} (hadmits' : e'.Admits body signature msg rm old list) :
    list.map PgText.val = canonicalAuthorities s.rt msg.authorities ∧
      old.map PgText.val = listAfter msg.rewardsManagerPubkey
        (canonicalAuthorities s.rt msg.authorities) (((s.executions db bs).take j).drop (i + 1)) := by
  obtain ⟨rm', old', list', hadmits⟩ := (Execution.code_eq_ok_iff he haction).mp hcode
  have hafter := hadmits.lookup_after he haction
  obtain ⟨-, -, signer, -, hrotates⟩ := hadmits
  obtain ⟨-, -, signer', -, hrotates'⟩ := hadmits'
  obtain rfl : rm = rm' := PgText.ext (hrotates'.manager.trans hrotates.manager.symm)
  have hj' : ((s.executions db bs).drop (i + 1))[j - (i + 1)]? = some e' := by
    rw [List.getElem?_drop, ← hj]
    congr 1
    omega
  obtain ⟨new, hnew, hlist⟩ := lookup_of_linked ((linked_executions db bs).drop hi)
    (fun e he => (reward_body_of_mem_executions hrun (List.mem_of_mem_drop he)).2) hafter hj'
  obtain rfl : new = old := Option.some.inj (hnew.symm.trans hrotates'.found)
  have hrt := (reward_body_of_mem_executions hrun (List.mem_of_getElem? hi)).1
  have hrt' := (reward_body_of_mem_executions hrun (List.mem_of_getElem? hj)).1
  rw [hrotates.stored, hrt, hrotates.manager, ← List.drop_take] at hlist
  exact ⟨hrotates'.stored.trans (by rw [hrt']), hlist⟩

end Server

end OpenAudio.Core
