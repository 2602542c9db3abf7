import OpenAudio.Core.Abci.Blocks

/-!
# One proof for each validator

A storage proof has to be signed by a registered validator and name its comet address, but the name
is compared up to case and the row is stored under the name as it is written. The rows of a
challenge belong to different validators as long as every proof writes the address as it is
registered.
-/

namespace OpenAudio.Core

open Prog

/-! ### Rows stay -/

def ProofsKept (rows rows' : Table (PgText × Int) StorageProofRow) : Prop :=
  ∀ k, (rows.lookup k).isSome = true → (rows'.lookup k).isSome = true

instance : IsPreorder (Part.Rows .storageProofs) ProofsKept where
  refl _ _ h := h
  trans _ _ _ h₁ h₂ k h := h₂ k (h₁ k h)

theorem proofsKept_insert (rows : Table (PgText × Int) StorageProofRow) (k : PgText × Int)
    (row : StorageProofRow) : ProofsKept rows (rows.insert k row) := by
  intro j hj
  exact (Table.sets_insert rows k row).isSome hj

theorem proofsKept_update (rows : Table (PgText × Int) StorageProofRow) (k : PgText × Int)
    (f : StorageProofRow → StorageProofRow) : ProofsKept rows (rows.update k f) := by
  intro j hj
  cases hk : rows.lookup k with
  | none => rwa [Table.update_of_none hk]
  | some row => exact (Table.sets_update hk f).isSome hj

section Statements

theorem keeps_insertStorageProof (height : Int) (address cid signature : String)
    (provers : List String) :
    Keeps (OnPart .storageProofs ProofsKept)
      (BlockProg.exec (Db.insertStorageProof height address cid signature provers)) := by
  apply keeps_onPart_exec
  intro db u db' h
  obtain ⟨a, -, h⟩ := except_bind_eq_ok.mp h
  obtain ⟨c, -, h⟩ := except_bind_eq_ok.mp h
  obtain ⟨sig, -, h⟩ := except_bind_eq_ok.mp h
  obtain ⟨ps, -, h⟩ := except_bind_eq_ok.mp h
  split at h
  · cases h
  · cases h
    exact proofsKept_insert _ _ _

theorem keeps_insertFailedStorageProof (height : Int) (address : String) :
    Keeps (OnPart .storageProofs ProofsKept)
      (BlockProg.exec (Db.insertFailedStorageProof height address)) := by
  apply keeps_onPart_exec
  intro db u db' h
  obtain ⟨a, -, h⟩ := except_bind_eq_ok.mp h
  split at h
  · cases h
  · cases h
    exact proofsKept_insert _ _ _

theorem keeps_updateStorageProof (proof : String) (status : ProofStatus) (height : Int)
    (address : String) :
    Keeps (OnPart .storageProofs ProofsKept)
      (BlockProg.exec (Db.updateStorageProof proof status height address)) := by
  apply keeps_onPart_exec
  intro db u db' h
  obtain ⟨p, -, h⟩ := except_bind_eq_ok.mp h
  obtain ⟨a, -, h⟩ := except_bind_eq_ok.mp h
  cases h
  exact proofsKept_update _ _ _

end Statements

namespace Server

variable (s : Server)

theorem keepsProofs_query {α : Type} (q : Query Db α) :
    Keeps (OnPart .storageProofs ProofsKept) (BlockProg.query q) :=
  ((show Footprint [] (BlockProg.query q) from .query q).untouched (by simp)).onPart

theorem keepsProofs_finalizeStorageProof (tx : SignedTransaction) (sp : StorageProof)
    (height : Int) :
    Keeps (OnPart .storageProofs ProofsKept) (s.finalizeStorageProof tx sp height) := by
  unfold finalizeStorageProof
  cases s.isValidStorageProofTx tx sp height with
  | error e => exact keeps_fail e
  | ok _ =>
    refine (keepsProofs_query _).attempt.bind fun existing => ?_
    match existing with
    | .ok false => exact (keeps_insertStorageProof _ _ _ _ _).mapError _
    | .ok true => exact keeps_pure ()
    | .error _ => exact keeps_pure ()

theorem keepsProofs_resolveChallenge (spv : StorageProofVerification)
    (proofs : List (PgText × StorageProofRow)) (nodes peers : List PgText) :
    Keeps (OnPart .storageProofs ProofsKept) (resolveChallenge spv proofs nodes peers) := by
  unfold resolveChallenge
  refine Keeps.bind (Keeps.forEach fun p => ?_) fun _ => Keeps.forEach fun peer => ?_
  · exact (keeps_updateStorageProof _ _ _ _).mapError _
  · exact .ite (keeps_insertFailedStorageProof _ _) (keeps_pure ())

theorem keepsProofs_finalizeStorageProofVerification (spv : StorageProofVerification)
    (height : Int) :
    Keeps (OnPart .storageProofs ProofsKept) (s.finalizeStorageProofVerification spv height) := by
  unfold finalizeStorageProofVerification
  cases s.isValidStorageProofVerificationTx spv height with
  | error e => exact keeps_fail e
  | ok _ =>
    refine ((keepsProofs_query _).mapError _).bind fun proofs => ?_
    unfold settleChallenge
    split
    · have hcollect := (s.footprint_collectConsensus spv.proof proofs).untouched
        (p := .storageProofs) (by simp)
      refine hcollect.onPart.bind fun r => ?_
      exact .ite (keepsProofs_resolveChallenge _ _ _ _) (keeps_pure ())
    · exact keeps_pure ()

theorem keepsProofs_finalizeTransaction (req : FinalizeBlockRequest) (stx : SignedTransaction)
    (txHash : String) :
    Keeps (OnPart .storageProofs ProofsKept) (s.finalizeTransaction req stx txHash) := by
  have hfoot := s.footprint_finalizeTransaction req stx txHash
  unfold finalizeTransaction at *
  cases hbody : stx.transaction with
  | none => exact keeps_fail _
  | some body =>
    rw [hbody] at hfoot
    cases body with
    | storageProof sp => exact s.keepsProofs_finalizeStorageProof stx sp req.height
    | storageProofVerification spv =>
      exact s.keepsProofs_finalizeStorageProofVerification spv req.height
    | _ => exact (hfoot.untouched (by simp [TxBody.parts])).onPart

theorem keepsProofs_executeTx (req : FinalizeBlockRequest) (index : Nat) (tx : Bytes) :
    Keeps (OnPart .storageProofs ProofsKept) (s.executeTx req index tx) :=
  s.keeps_executeTx (by simp) (s.keepsProofs_finalizeTransaction req) index tx

/-! ### The proofs a run writes -/

/-- The validator a proof is signed by: the committed row of the recovered address. -/
def proverOf (tx : SignedTransaction) (sp : StorageProof) : Option ValidatorRow :=
  match s.ext.ethRecover tx.signature (s.ext.marshal (.storageProof sp)) with
  | .error _ => none
  | .ok (_, address) => (s.readOne (Db.getRegisteredNodeByEthAddress s.ext.rows address)).toOption

/-- A row of storage_proofs that finalizing a StorageProof transaction wrote. -/
structure WrittenProof where
  height : Int
  address : PgText
  prover : Option ValidatorRow
deriving DecidableEq

def WrittenProof.key (p : WrittenProof) : PgText × Int := (p.address, p.height)

/-- The row the transaction at `n` writes, if it is a StorageProof whose row is absent before it
and there after it. -/
def writtenProof (req : FinalizeBlockRequest) (n : Nat) : Option WrittenProof :=
  match (req.txs[n]?).bind s.ext.unmarshalSigned with
  | some stx =>
    match stx.transaction with
    | some (.storageProof sp) =>
      match PgText.ofString sp.address with
      | .ok a =>
        if (s.progress req n).txn.view.storageProofs.lookup (a, sp.height) = none ∧
            ((s.progress req (n + 1)).txn.view.storageProofs.lookup (a, sp.height)).isSome = true
        then some ⟨sp.height, a, s.proverOf stx sp⟩ else none
      | .error _ => none
    | _ => none
  | none => none

/-- The rows the first `n` transactions of a block write. -/
def blockProofs (req : FinalizeBlockRequest) (n : Nat) : List WrittenProof :=
  (List.range n).filterMap (s.writtenProof req)

def runProofs : Db → List Block → List WrittenProof
  | _, [] => []
  | db, b :: bs =>
    (s.executor db b).blockProofs b.req b.req.txs.length ++
      match (s.executor db b).commitBlock b.req with
      | some db' => runProofs db' bs
      | none => []

/-- The rows of one challenge belong to validators that `id` tells apart. -/
def OneProofEach (id : ValidatorRow → PgText) (ps : List WrittenProof) : Prop :=
  ps.Pairwise fun p q => p.height = q.height → p.prover.map id ≠ q.prover.map id

instance (id : ValidatorRow → PgText) (ps : List WrittenProof) : Decidable (OneProofEach id ps) :=
  inferInstanceAs (Decidable (List.Pairwise _ _))

/-- Every proof of the block names the address as the signer's row has it. -/
def SpelledAsRegistered (req : FinalizeBlockRequest) : Prop :=
  ∀ tx ∈ req.txs, ∀ stx sp v, s.ext.unmarshalSigned tx = some stx →
    stx.transaction = some (.storageProof sp) → s.proverOf stx sp = some v →
    sp.address = v.cometAddress.val

section Written

variable {s} {req : FinalizeBlockRequest} {n : Nat} {p : WrittenProof}

theorem writtenProof_eq_some (h : s.writtenProof req n = some p) :
    ∃ tx stx sp, req.txs[n]? = some tx ∧ s.ext.unmarshalSigned tx = some stx ∧
      stx.transaction = some (.storageProof sp) ∧ p.address.val = sp.address ∧
      p.height = sp.height ∧ p.prover = s.proverOf stx sp ∧
      (s.progress req n).txn.view.storageProofs.lookup p.key = none ∧
      ((s.progress req (n + 1)).txn.view.storageProofs.lookup p.key).isSome = true := by
  unfold writtenProof at h
  cases hdecode : (req.txs[n]?).bind s.ext.unmarshalSigned with
  | none => simp [hdecode] at h
  | some stx =>
    obtain ⟨tx, htx, hstx⟩ := Option.bind_eq_some_iff.mp hdecode
    simp only [hdecode] at h
    split at h
    · rename_i sp hbody
      cases ha : PgText.ofString sp.address with
      | error e => simp [ha] at h
      | ok a =>
        simp only [ha] at h
        split at h
        · rename_i hrow
          cases h
          exact ⟨tx, stx, sp, htx, hstx, hbody, PgText.val_of_ofString ha, rfl, rfl, hrow⟩
        · cases h
    · cases h

theorem blockProofs_succ :
    s.blockProofs req (n + 1) = s.blockProofs req n ++ (s.writtenProof req n).toList := by
  unfold blockProofs
  rw [List.range_succ, List.filterMap_append]
  cases hw : s.writtenProof req n <;> simp [hw]

variable (s) in
variable (req) in
theorem blockProofs_keys (hn : n ≤ req.txs.length) :
    (s.blockProofs req n).Pairwise (fun p q => p.key ≠ q.key) ∧
      ∀ p ∈ s.blockProofs req n, s.committed.storageProofs.lookup p.key = none ∧
        ((s.progress req n).txn.view.storageProofs.lookup p.key).isSome = true := by
  induction n with
  | zero => exact ⟨List.Pairwise.nil, fun p hp => absurd hp List.not_mem_nil⟩
  | succ n ih =>
    obtain ⟨hpair, hrows⟩ := ih (by omega)
    have hstep := s.onPart_progress (s.keepsProofs_executeTx req) (Nat.le_succ n) hn
    have hstart : ProofsKept s.committed.storageProofs
        (s.progress req n).txn.view.storageProofs :=
      s.part_progress (p := .storageProofs) (by simp) (s.keepsProofs_executeTx req) (by omega)
    rw [blockProofs_succ]
    cases hw : s.writtenProof req n with
    | none =>
      simp only [Option.toList_none, List.append_nil]
      exact ⟨hpair, fun p hp => ⟨(hrows p hp).1, hstep _ (hrows p hp).2⟩⟩
    | some q =>
      obtain ⟨-, -, -, -, -, -, -, -, -, hbefore, hafter⟩ := writtenProof_eq_some hw
      simp only [Option.toList_some, List.pairwise_append, List.mem_append, List.mem_singleton]
      refine ⟨⟨hpair, List.pairwise_singleton _ _, ?_⟩, ?_⟩
      · rintro p hp q rfl hkey
        have hp := (hrows p hp).2
        rw [hkey, hbefore] at hp
        cases hp
      · rintro p (hp | rfl)
        · exact ⟨(hrows p hp).1, hstep _ (hrows p hp).2⟩
        · refine ⟨?_, hafter⟩
          by_contra hold
          have hthere := hstart p.key (Option.isSome_iff_ne_none.mpr hold)
          rw [hbefore] at hthere
          cases hthere

end Written

theorem runProofs_keys (db : Db) (bs : List Block) :
    (s.runProofs db bs).Pairwise (fun p q => p.key ≠ q.key) ∧
      ∀ p ∈ s.runProofs db bs, db.storageProofs.lookup p.key = none := by
  induction bs generalizing db with
  | nil => exact ⟨List.Pairwise.nil, fun p hp => absurd hp List.not_mem_nil⟩
  | cons b bs ih =>
    obtain ⟨hpair, hrows⟩ := blockProofs_keys (s.executor db b) b.req le_rfl
    unfold runProofs
    cases hcommit : (s.executor db b).commitBlock b.req with
    | none =>
      simp only [List.append_nil]
      exact ⟨hpair, fun p hp => (hrows p hp).1⟩
    | some db' =>
      obtain ⟨hpair', hnew⟩ := ih db'
      have hend : db'.storageProofs =
          ((s.executor db b).progress b.req b.req.txs.length).txn.view.storageProofs :=
        (s.executor db b).part_commitBlock hcommit (p := .storageProofs) (by simp)
      have hkept : ProofsKept db.storageProofs db'.storageProofs := by
        rw [hend]
        exact (s.executor db b).part_progress (p := .storageProofs) (by simp)
          ((s.executor db b).keepsProofs_executeTx b.req) le_rfl
      simp only [List.pairwise_append, List.mem_append]
      refine ⟨⟨hpair, hpair', ?_⟩, ?_⟩
      · intro p hp q hq hkey
        have hthere := (hrows p hp).2
        rw [← hend, hkey, hnew q hq] at hthere
        cases hthere
      · rintro p (hp | hp)
        · exact (hrows p hp).1
        · by_contra hold
          have hthere := hkept p.key (Option.isSome_iff_ne_none.mpr hold)
          rw [hnew p hp] at hthere
          cases hthere

theorem forall_runProofs {P : Db → Block → Prop} {R : WrittenProof → Prop}
    (hblock : ∀ db b, P db b →
      ∀ p ∈ (s.executor db b).blockProofs b.req b.req.txs.length, R p)
    {db : Db} {bs : List Block} (hrun : s.EachBlock P db bs) : ∀ p ∈ s.runProofs db bs, R p := by
  induction bs generalizing db with
  | nil => exact fun p hp => absurd hp List.not_mem_nil
  | cons b bs ih =>
    obtain ⟨hb, hrest⟩ := hrun
    intro p hp
    rcases List.mem_append.mp hp with hp | hp
    · exact hblock db b hb p hp
    · cases hcommit : (s.executor db b).commitBlock b.req with
      | none => simp [hcommit] at hp
      | some db' =>
        rw [hcommit] at hp
        exact ih (hrest db' hcommit) p hp

/-! ### Who wrote a row -/

theorem proverOf_isSome {stx : SignedTransaction} {sp : StorageProof} {height : Int}
    (h : s.isValidStorageProofTx stx sp height = .ok ()) : (s.proverOf stx sp).isSome = true := by
  unfold isValidStorageProofTx at h
  obtain ⟨-, h⟩ := refuseIf_bind_eq_ok.mp h
  obtain ⟨⟨key, address⟩, hrecover, h⟩ := except_bind_eq_ok.mp h
  obtain ⟨node, hnode, -⟩ := except_bind_eq_ok.mp h
  have hrecover := except_mapError_eq_ok.mp hrecover
  have hnode := except_mapError_eq_ok.mp hnode
  unfold proverOf
  simp only [hrecover, hnode]
  rfl

theorem mem_of_proverOf {stx : SignedTransaction} {sp : StorageProof} {v : ValidatorRow}
    (h : s.proverOf stx sp = some v) : v ∈ s.committed.validators := by
  unfold proverOf at h
  split at h
  · cases h
  · unfold readOne at h
    split at h
    · rename_i node hquery
      cases h
      obtain ⟨a, -, hpick⟩ := except_bind_eq_ok.mp hquery
      have hpick : s.ext.rows.pick (s.committed.validators.filter fun v => v.ethAddress == a) =
          some v := Except.ok.inj hpick
      exact List.mem_of_mem_filter (s.ext.rows.mem_of_pick hpick)
    · cases h
    · cases h

theorem valid_of_writtenProof {req : FinalizeBlockRequest} {n : Nat} {p : WrittenProof}
    (h : s.writtenProof req n = some p) :
    ∃ stx sp, p.height = sp.height ∧ p.prover = s.proverOf stx sp ∧
      s.isValidStorageProofTx stx sp req.height = .ok () := by
  obtain ⟨tx, stx, sp, htx, hdecode, hbody, -, hheight, hprover, hbefore, hafter⟩ :=
    writtenProof_eq_some h
  refine ⟨stx, sp, hheight, hprover, ?_⟩
  cases hvalid : s.isValidStorageProofTx stx sp req.height with
  | ok _ => rfl
  | error e =>
    have hfin : s.finalizeTransaction req stx (s.ext.toTxHashFromBytes tx) = fail e := by
      unfold finalizeTransaction
      simp only [hbody]
      unfold finalizeStorageProof
      rw [hvalid]
    have hother : deregisteredAddress stx.transaction = "" := by
      rw [hbody]
      rfl
    have hpart := (s.executeTx_finalizes hdecode hother req n (s.progress req n).txn).1
      .storageProofs (by simp)
    -- a proof that is refused leaves the rows alone
    have hsame : (s.progress req (n + 1)).txn.view.storageProofs =
        (s.progress req n).txn.view.storageProofs := by
      rw [s.txn_progress_succ req htx]
      refine hpart.trans ?_
      rw [hfin]
      rfl
    rw [hsame, hbefore] at hafter
    cases hafter

theorem prover_isSome_of_writtenProof {req : FinalizeBlockRequest} {n : Nat} {p : WrittenProof}
    (h : s.writtenProof req n = some p) : p.prover.isSome = true := by
  obtain ⟨stx, sp, -, hprover, hvalid⟩ := s.valid_of_writtenProof h
  rw [hprover]
  exact s.proverOf_isSome hvalid

/-- In a run whose proofs name their addresses as they are registered, the rows of a challenge
belong to registered validators with different comet addresses; and where every wallet is registered
under one comet address throughout, to different wallets. -/
theorem oneProofEach_of_spelledAsRegistered {db : Db} {bs : List Block}
    (h : s.EachBlock (fun db b => (s.executor db b).SpelledAsRegistered b.req) db bs) :
    (∀ p ∈ s.runProofs db bs, p.prover.isSome = true) ∧
      OneProofEach ValidatorRow.cometAddress (s.runProofs db bs) ∧
      ∀ comet : PgText → PgText,
        s.EachBlock (fun db _ => ∀ v ∈ db.validators, v.cometAddress = comet v.ethAddress) db bs →
        OneProofEach ValidatorRow.ethAddress (s.runProofs db bs) := by
  have hsome : ∀ p ∈ s.runProofs db bs, p.prover.isSome = true := by
    refine s.forall_runProofs (fun db b _ p hp => ?_) h
    obtain ⟨n, -, hn⟩ := List.mem_filterMap.mp hp
    exact (s.executor db b).prover_isSome_of_writtenProof hn
  have hspelled : ∀ p ∈ s.runProofs db bs, ∀ v, p.prover = some v → p.address = v.cometAddress := by
    refine s.forall_runProofs (fun db b hb p hp v hv => ?_) h
    obtain ⟨n, -, hn⟩ := List.mem_filterMap.mp hp
    obtain ⟨tx, stx, sp, htx, hdecode, hbody, haddress, -, hprover, -⟩ := writtenProof_eq_some hn
    have hname := hb tx (List.mem_of_getElem? htx) stx sp v hdecode hbody (hprover ▸ hv)
    exact PgText.ext (haddress.trans hname)
  have hcomet : OneProofEach ValidatorRow.cometAddress (s.runProofs db bs) := by
    refine (s.runProofs_keys db bs).1.imp_of_mem fun {p q} hp hq hkey hheight hsame => hkey ?_
    obtain ⟨v, hv⟩ := Option.isSome_iff_exists.mp (hsome p hp)
    obtain ⟨w, hw⟩ := Option.isSome_iff_exists.mp (hsome q hq)
    have hvw : v.cometAddress = w.cometAddress := by simpa [hv, hw] using hsame
    have haddress : p.address = q.address := by
      rw [hspelled p hp v hv, hspelled q hq w hw, hvw]
    exact Prod.ext haddress hheight
  refine ⟨hsome, hcomet, fun comet hreg => ?_⟩
  have hrow : ∀ p ∈ s.runProofs db bs, ∀ v, p.prover = some v →
      v.cometAddress = comet v.ethAddress := by
    refine s.forall_runProofs (fun db b hb p hp v hv => ?_) hreg
    obtain ⟨n, -, hn⟩ := List.mem_filterMap.mp hp
    obtain ⟨tx, stx, sp, -, -, -, -, -, hprover, -⟩ := writtenProof_eq_some hn
    exact hb v ((s.executor db b).mem_of_proverOf (hprover ▸ hv))
  refine hcomet.imp_of_mem fun {p q} hp hq hdistinct hheight hsame => hdistinct hheight ?_
  obtain ⟨v, hv⟩ := Option.isSome_iff_exists.mp (hsome p hp)
  obtain ⟨w, hw⟩ := Option.isSome_iff_exists.mp (hsome q hq)
  have hvw : v.ethAddress = w.ethAddress := by simpa [hv, hw] using hsame
  rw [hv, hw, Option.map_some, Option.map_some, hrow p hp v hv, hrow q hq w hw, hvw]

/-! ### Two spellings -/

/-- A StorageProof transaction for the challenge of height 1, signed with the key. -/
structure RecordedStorageProof where
  key : Externals.RecordedKey
  address : String
  bytes : Bytes
  digest : Externals.Digest
  signature : String
  signatureBytes : Bytes
  tx : Bytes
  txDigest : Externals.Digest

namespace RecordedStorageProof

variable (r : RecordedStorageProof)

def proof : StorageProof := { height := 1, address := r.address }

def signed : SignedTransaction :=
  { signature := r.signature, transaction := some (.storageProof r.proof) }

def calls : Externals.Recorded where
  sha256 := [(r.bytes, r.digest), (r.tx, r.txDigest)]
  sigToPub := [((r.digest.val, r.signatureBytes), r.key.pubKey)]
  marshal := [(.storageProof r.proof, r.bytes)]
  unmarshalSigned := [(r.tx, r.signed)]

end RecordedStorageProof

def registeredSpelling : RecordedStorageProof where
  key := firstKey
  address := "21FE31DFA154A261626BF854046FD2271B7BED4B"
  bytes := bigEndian 40 0x8011228323146453331444641313534413236313632364246383534303436464432323731423742 ++
    bigEndian 4 0x45443442
  digest := Externals.digest 0xb7fb5191b401d32e9c28415fe4635c2341262cb2f1a1c7fff85a4674e1c8fe17
  signature := "a38cd8b1c93b510d78b342ee7558d0f3b448de1b793a7f149780748f0f4298720a" ++
    "170276d93c1dee28ac50141d778a89a3ea124d8642190dccde588ccdcddccb00"
  signatureBytes := bigEndian 40 0xa38cd8b1c93b510d78b342ee7558d0f3b448de1b793a7f149780748f0f4298720a170276d93c1dee ++
    bigEndian 25 0x28ac50141d778a89a3ea124d8642190dccde588ccdcddccb00
  tx := bigEndian 40 0xa820161333863643862316339336235313064373862333432656537353538643066336234343864 ++
    bigEndian 40 0x65316237393361376631343937383037343866306634323938373230613137303237366439336331 ++
    bigEndian 40 0x64656532386163353031343164373738613839613365613132346438363432313930646363646535 ++
    bigEndian 40 0x38386363646364646363623030ea3e2c080112283231464533314446413135344132363136323642 ++
    bigEndian 20 0x4638353430343646443232373142374245443442
  txDigest := Externals.digest 0xfc8eddd6bc6a63d8d22b834a14706636093dbfb11528a98114a610eaa45dca2c

def lowerSpelling : RecordedStorageProof where
  key := firstKey
  address := "21fe31dfa154a261626bf854046fd2271b7bed4b"
  bytes := bigEndian 40 0x8011228323166653331646661313534613236313632366266383534303436666432323731623762 ++
    bigEndian 4 0x65643462
  digest := Externals.digest 0xfd8ac50e22502b48468cf2f2e765139349160f07ba9b4a68881bede4182e87db
  signature := "5594a738ba4db56db7eeef7144095987a4e3819e7e7f96527a45856e4584cb3906" ++
    "5f42e26c5278a654db2de272d7326274c5ff66fd64270aedbf91fd1ce02bc300"
  signatureBytes := bigEndian 40 0x5594a738ba4db56db7eeef7144095987a4e3819e7e7f96527a45856e4584cb39065f42e26c5278a6 ++
    bigEndian 25 0x54db2de272d7326274c5ff66fd64270aedbf91fd1ce02bc300
  tx := bigEndian 40 0xa820135353934613733386261346462353664623765656566373134343039353938376134653338 ++
    bigEndian 40 0x31396537653766393635323761343538353665343538346362333930363566343265323663353237 ++
    bigEndian 40 0x38613635346462326465323732643733323632373463356666363666643634323730616564626639 ++
    bigEndian 40 0x31666431636530326263333030ea3e2c080112283231666533316466613135346132363136323662 ++
    bigEndian 20 0x6638353430343666643232373162376265643462
  txDigest := Externals.digest 0xba71d0924a447f65fe2c73d14824f99efd6ed46a86da9e1592cbb9118fac0e9e

/-- Another validator's proof. -/
def secondProof : RecordedStorageProof where
  key := secondKey
  address := "39F713D0A644253F04529421B9F51B9B08979D08"
  bytes := bigEndian 40 0x8011228333946373133443041363434323533463034353239343231423946353142394230383937 ++
    bigEndian 4 0x39443038
  digest := Externals.digest 0xa91a3ca70b89b24a38903e3bea1ce0def6d5d9e58f4688876b8ebe62a7c528
  signature := "0a7d04a1ab2c0bd553d7704ae020a9da3a4443ac54009133c5b92aacfe03449a65" ++
    "919d799a96fd6b87945dc62b917521043e933fdbea83620fb2a8b10c5a50be00"
  signatureBytes := bigEndian 40 0xa7d04a1ab2c0bd553d7704ae020a9da3a4443ac54009133c5b92aacfe03449a65919d799a96fd6b ++
    bigEndian 25 0x87945dc62b917521043e933fdbea83620fb2a8b10c5a50be00
  tx := bigEndian 40 0xa820130613764303461316162326330626435353364373730346165303230613964613361343434 ++
    bigEndian 40 0x33616335343030393133336335623932616163666530333434396136353931396437393961393666 ++
    bigEndian 40 0x64366238373934356463363262393137353231303433653933336664626561383336323066623261 ++
    bigEndian 40 0x38623130633561353062653030ea3e2c080112283339463731334430413634343235334630343532 ++
    bigEndian 20 0x3934323142394635314239423038393739443038
  txDigest := Externals.digest 0x5f870ad17aa0cbd4c637e2053378a82141174e513b18460c4c10466883ed14f7

def secondProver : ValidatorRow :=
  { secondNode with ethAddress := ⟨"0x2B5AD5c4795c026514f8317c7a215E218DcCD6cF", by decide⟩ }

def challengeDb : Db :=
  { Db.empty with
    chain := { Db.empty.chain with
      blocks := AList.insert (1, ⟨Config.devnet.chainID, by decide⟩)
        ⟨⟨encodeHex (bigEndian 32 0x10), nulFree_encodeHex _⟩,
          ⟨encodeHex (bigEndian 20 2), nulFree_encodeHex _⟩, 0⟩ ∅ }
    validators := [firstNode, secondProver] }

def challengeNode : Server :=
  .devnet (registeredSpelling.calls ++ lowerSpelling.calls ++ secondProof.calls ++ firstKey.calls ++
    secondKey.calls ++
    { sha256 := [(registeredSpelling.tx ++ lowerSpelling.tx,
          Externals.digest 0x43003e28e68cde1a005e30479d8d2b1703a6b69fe8f7378cd11bb8a4a5a24fdb),
        (registeredSpelling.tx ++ secondProof.tx,
          Externals.digest 0x357991c2d03dc859c47a6eb61a3607b994b64777712a06535f5fca135879ec70)] })
    challengeDb

def proofBlock (txs : List Bytes) : Block where
  req :=
    { txs := txs
      misbehavior := []
      hash := bigEndian 32 2
      height := 2
      time := { seconds := 1700000000 }
      proposerAddress := bigEndian 20 2 }
  voting := ⟨1, false⟩
  executing := ⟨1, false⟩

/-- Two validators prove the challenge, each under its registered address. -/
theorem oneProofEach_registeredSpelling :
    let block := proofBlock [registeredSpelling.tx, secondProof.tx]
    (challengeNode.voter challengeDb block).Accepts block.req ∧
      (challengeNode.runProofs challengeDb [block]).map WrittenProof.height = [1, 1] ∧
      OneProofEach ValidatorRow.cometAddress (challengeNode.runProofs challengeDb [block]) := by
  intro block
  have hwritten : (challengeNode.voter challengeDb block).Accepts block.req ∧
      (challengeNode.runProofs challengeDb [block]).map WrittenProof.height = [1, 1] := by
    decide +kernel
  have hdecode : ∀ tx ∈ block.req.txs, ∃ r ∈ [registeredSpelling, secondProof],
      challengeNode.ext.unmarshalSigned tx = some r.signed := by decide +kernel
  have hprover : ∀ r ∈ [registeredSpelling, secondProof],
      ∀ v ∈ (challengeNode.executor challengeDb block).proverOf r.signed r.proof,
        r.proof.address = v.cometAddress.val := by decide +kernel
  refine ⟨hwritten.1, hwritten.2, (challengeNode.oneProofEach_of_spelledAsRegistered ?_).2.1⟩
  refine ⟨?_, fun _ _ => trivial⟩
  intro tx htx stx sp v hstx hbody hv
  obtain ⟨r, hr, hsigned⟩ := hdecode tx htx
  obtain rfl : r.signed = stx := Option.some.inj (hsigned.symm.trans hstx)
  obtain rfl : r.proof = sp := by simpa [RecordedStorageProof.signed] using hbody
  exact hprover r hr v (Option.mem_def.mpr hv)

/-- Both proofs pass validation and both rows are stored: the signer's address is compared up to
case, the rows by their text. -/
theorem two_proofs_of_one_validator :
    (challengeNode.voter challengeDb (proofBlock [registeredSpelling.tx, lowerSpelling.tx])).Accepts
        (proofBlock [registeredSpelling.tx, lowerSpelling.tx]).req ∧
      (challengeNode.commitAll challengeDb
        [proofBlock [registeredSpelling.tx, lowerSpelling.tx]]).isSome = true ∧
      ¬ OneProofEach ValidatorRow.cometAddress (challengeNode.runProofs challengeDb
        [proofBlock [registeredSpelling.tx, lowerSpelling.tx]]) := by
  decide +kernel

end Server

end OpenAudio.Core
