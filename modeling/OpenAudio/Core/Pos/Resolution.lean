import Mathlib.Data.List.Dedup
import OpenAudio.Core.Pos.Provers

/-!
# What a revealed proof does

A verification reads every recorded proof of its height, looks up the row of each prover and checks
the stored signature against the revealed bytes. One prover that cannot be looked up ends it with an
error. Otherwise a majority of matching provers resolves the challenge: each prover passes or fails,
and an address without a proof fails if it is mentioned often enough in the lists of the matching
provers.
-/

namespace OpenAudio.Core

open Prog

def StorageProofRow.signature (p : StorageProofRow) : Option Bytes :=
  base64Decode (match p.proofSignature with | some sig => sig.val | none => "")

namespace Server

variable (s : Server)

/-- The key a prover's signature is checked under: the key of its row, which must not be jailed. -/
def proverKey (db : Db) (address : PgText) : Option Bytes :=
  match s.ext.rows.pick (db.validators.filter fun v => v.cometAddress == address) with
  | some node => if node.jailed = true then none else base64Decode node.cometPubKey.val
  | none => none

/-- The recorded signature is one of the revealed bytes under the key. -/
def signedUnder (key proof : Bytes) (p : StorageProofRow) : Bool :=
  match p.signature with
  | some sig => s.ext.cometVerify key proof sig
  | none => false

/-- Both the key and the signature can be read. -/
def Checkable (db : Db) (p : PgText × StorageProofRow) : Prop :=
  (s.proverKey db p.1).isSome = true ∧ p.2.signature.isSome = true

/-- The signature matches the revealed proof under the key of the prover's row. -/
def matched (db : Db) (proof : Bytes) (p : PgText × StorageProofRow) : Bool :=
  match s.proverKey db p.1 with
  | some key => s.signedUnder key proof p.2
  | none => false

/-! ### The check of one prover, and of all of them -/

theorem proofMatches_live (proof : Bytes) (db : Db) (p : PgText × StorageProofRow) :
    (s.Checkable db p ∧
      s.proofMatches proof p.1 p.2 ⟨db, false⟩ = (.ok (s.matched db proof p), ⟨db, false⟩)) ∨
    (¬ s.Checkable db p ∧ ∃ e, s.proofMatches proof p.1 p.2 ⟨db, false⟩ = (.error e, ⟨db, false⟩)) := by
  have hquery : Db.getRegisteredNodeByCometAddress s.ext.rows p.1.val db =
      .ok (s.ext.rows.pick (db.validators.filter fun v => v.cometAddress == p.1)) := by
    rw [Db.getRegisteredNodeByCometAddress, PgText.ofString_val]
    rfl
  have hrun := BlockProg.context_of_ok s!"could not fetch node with address {p.1.val}"
    (BlockProg.query_of_ok (t := ⟨db, false⟩) rfl hquery)
  unfold proofMatches
  rw [bind_of_ok hrun]
  unfold Checkable matched proverKey
  cases s.ext.rows.pick (db.validators.filter fun v => v.cometAddress == p.1) with
  | none => exact .inr ⟨by simp, _, rfl⟩
  | some node =>
    by_cases hjailed : node.jailed = true
    · refine .inr ⟨by simp [hjailed], .plain s!"prover node at address {p.1.val} is jailed", ?_⟩
      apply bind_of_error
      rw [rejectIf_apply, if_pos hjailed]
    · have hpass : (rejectIf (node.jailed = true)
          (.plain s!"prover node at address {p.1.val} is jailed") : BlockProg Unit) ⟨db, false⟩ =
          (.ok (), ⟨db, false⟩) := by rw [rejectIf_apply, if_neg hjailed]
      simp only [if_neg hjailed]
      rw [bind_of_ok hpass]
      unfold signedUnder StorageProofRow.signature
      cases base64Decode (match p.2.proofSignature with | some sig => sig.val | none => "") with
      | none => exact .inr ⟨by simp, _, rfl⟩
      | some sigBytes =>
        cases base64Decode node.cometPubKey.val with
        | none => exact .inr ⟨by simp, _, rfl⟩
        | some pubKey => exact .inl ⟨by simp, rfl⟩

theorem collectConsensus_live (proof : Bytes) (db : Db) (proofs : List (PgText × StorageProofRow)) :
    ((∀ p ∈ proofs, s.Checkable db p) ∧ s.collectConsensus proof proofs ⟨db, false⟩ =
      (.ok ((proofs.filter (s.matched db proof)).map (·.1),
        (proofs.filter (s.matched db proof)).flatMap (·.2.proverAddresses)), ⟨db, false⟩)) ∨
    ((¬ ∀ p ∈ proofs, s.Checkable db p) ∧
      ∃ e, s.collectConsensus proof proofs ⟨db, false⟩ = (.error e, ⟨db, false⟩)) := by
  induction proofs with
  | nil => exact .inl ⟨by simp, rfl⟩
  | cons p proofs ih =>
    unfold collectConsensus
    rcases s.proofMatches_live proof db p with ⟨hcheck, hrun⟩ | ⟨hcheck, e, hrun⟩
    · rw [bind_of_ok hrun]
      rcases ih with ⟨hrest, hloop⟩ | ⟨hrest, e, hloop⟩
      · refine .inl ⟨List.forall_mem_cons.mpr ⟨hcheck, hrest⟩, ?_⟩
        rw [bind_of_ok hloop]
        cases hm : s.matched db proof p with
        | true => simp [hm, pure_apply]
        | false => simp [hm, pure_apply]
      · refine .inr ⟨fun h => hrest fun q hq => h q (List.mem_cons_of_mem p hq), e, ?_⟩
        exact bind_of_error hloop
    · exact .inr ⟨fun h => hcheck (h p List.mem_cons_self), e, bind_of_error hrun⟩

/-! ### The statements of a resolution -/

/-- Marking the provers of a list: each of their rows gets the proof and its status. -/
theorem markProvers_live (proof : PgText) (status : PgText → ProofStatus) (height : Int)
    (msg : PgText → String) (proofs : List (PgText × StorageProofRow)) (db : Db) :
    ∃ rows, forEach proofs (fun p => BlockProg.context (msg p.1)
        (BlockProg.exec (Db.updateStorageProof proof.val (status p.1) height p.1.val)))
        ⟨db, false⟩ = (.ok (), ⟨{ db with storageProofs := rows }, false⟩) ∧
      ∀ k, rows.lookup k = if k.2 = height ∧ k.1 ∈ proofs.map (·.1)
        then (db.storageProofs.lookup k).map
          fun r => { r with proof := some proof, status := status k.1 }
        else db.storageProofs.lookup k := by
  induction proofs generalizing db with
  | nil => exact ⟨db.storageProofs, rfl, by simp⟩
  | cons p proofs ih =>
    let change := fun r : StorageProofRow => { r with proof := some proof, status := status p.1 }
    have hstep : Db.updateStorageProof proof.val (status p.1) height p.1.val db =
        .ok ((), { db with storageProofs := db.storageProofs.update (p.1, height) change }) := by
      rw [Db.updateStorageProof, PgText.ofString_val, PgText.ofString_val]
      rfl
    have hrun := BlockProg.context_of_ok (msg p.1) (BlockProg.exec_of_ok hstep)
    obtain ⟨rows, hloop, hrows⟩ :=
      ih { db with storageProofs := db.storageProofs.update (p.1, height) change }
    refine ⟨rows, ?_, ?_⟩
    · rw [forEach, bind_of_ok hrun, hloop]
    · intro k
      rw [hrows k]
      simp only [Table.lookup_update]
      by_cases hk : k = (p.1, height)
      · subst hk
        cases db.storageProofs.lookup (p.1, height) <;> simp [change]
      · have hother : k.2 = height → k.1 ≠ p.1 := fun hh ha => hk (Prod.ext ha hh)
        by_cases hh : k.2 = height
        · simp [hk, hh, hother hh, -List.mem_map]
        · simp [hk, hh]

/-- The row of an address that sent no proof. -/
def failedProof : StorageProofRow := ⟨none, none, none, [], .fail⟩

theorem insertMissing_live (majority : PgText → Prop) [DecidablePred majority] (height : Int)
    (peers : List PgText) (hnodup : peers.Nodup) (db : Db)
    (habsent : ∀ peer ∈ peers, db.storageProofs.lookup (peer, height) = none) :
    ∃ rows, forEach peers (fun peer => if majority peer then
        BlockProg.logged (BlockProg.exec (Db.insertFailedStorageProof height peer.val))
        else pure ()) ⟨db, false⟩ = (.ok (), ⟨{ db with storageProofs := rows }, false⟩) ∧
      ∀ k, rows.lookup k = if k.2 = height ∧ k.1 ∈ peers ∧ majority k.1 then some failedProof
        else db.storageProofs.lookup k := by
  induction peers generalizing db with
  | nil => exact ⟨db.storageProofs, rfl, by simp⟩
  | cons peer peers ih =>
    obtain ⟨hnew, hnodup⟩ := List.nodup_cons.mp hnodup
    rw [forEach]
    by_cases hm : majority peer
    · have hstep : Db.insertFailedStorageProof height peer.val db = .ok ((),
          { db with storageProofs := db.storageProofs.insert (peer, height) failedProof }) := by
        refine except_bind_eq_ok.mpr ⟨peer, PgText.ofString_val peer, ?_⟩
        rw [if_neg (by simp [habsent peer List.mem_cons_self])]
        rfl
      have hrun : BlockProg.logged (BlockProg.exec (Db.insertFailedStorageProof height peer.val))
          ⟨db, false⟩ = (.ok (), ⟨{ db with
            storageProofs := db.storageProofs.insert (peer, height) failedProof }, false⟩) := by
        rw [BlockProg.logged, BlockProg.exec_of_ok hstep]
      obtain ⟨rows, hloop, hrows⟩ := ih hnodup
        { db with storageProofs := db.storageProofs.insert (peer, height) failedProof } (by
          intro other hother
          have hne : (other, height) ≠ (peer, height) := by
            rintro ⟨⟩
            exact hnew hother
          exact (AList.lookup_insert_ne hne).trans (habsent other (List.mem_cons_of_mem peer hother)))
      refine ⟨rows, ?_, ?_⟩
      · rw [if_pos hm, bind_of_ok hrun, hloop]
      · intro k
        rw [hrows k, Table.lookup_insert_eq]
        by_cases hk : k = (peer, height)
        · subst hk
          simp [hm]
        · have hother : k.2 = height → k.1 ≠ peer := fun hh ha => hk (Prod.ext ha hh)
          by_cases hh : k.2 = height
          · simp [hk, hh, hother hh]
          · simp [hk, hh]
    · obtain ⟨rows, hloop, hrows⟩ :=
        ih hnodup db fun other hother => habsent other (List.mem_cons_of_mem peer hother)
      refine ⟨rows, ?_, ?_⟩
      · rw [if_neg hm]
        exact hloop
      · intro k
        rw [hrows k]
        by_cases hk : k.1 = peer
        · simp [hk, hm]
        · simp [hk]

/-! ### The rows after a verification -/

theorem mem_getStorageProofs {db : Db} {height : Int} {p : PgText × StorageProofRow} :
    p ∈ Db.getStorageProofs height db ↔ db.storageProofs.lookup (p.1, height) = some p.2 := by
  rw [← Table.mem_entries_iff, Db.getStorageProofs, List.mem_map]
  constructor
  · rintro ⟨e, he, rfl⟩
    obtain ⟨hmem, hheight⟩ := List.mem_filter.mp he
    obtain rfl : e.1.2 = height := by simpa using hheight
    exact hmem
  · intro h
    exact ⟨_, List.mem_filter.mpr ⟨h, by simp⟩, rfl⟩

def matching (db : Db) (spv : StorageProofVerification) : List (PgText × StorageProofRow) :=
  (Db.getStorageProofs spv.height db).filter (s.matched db spv.proof)

/-- How often the matching provers mention an address, with every repetition. -/
def mentions (db : Db) (spv : StorageProofVerification) (peer : PgText) : Nat :=
  ((s.matching db spv).map fun p => p.2.proverAddresses.count peer).sum

/-- How many of the matching provers mention an address. -/
def namers (db : Db) (spv : StorageProofVerification) (peer : PgText) : Nat :=
  (s.matching db spv).countP fun p => decide (peer ∈ p.2.proverAddresses)

/-- The verification resolves its challenge: it is valid at the height of the block, the challenge
is open, every recorded prover can be checked and more than half of them match. -/
structure Resolves (db : Db) (spv : StorageProofVerification) (blockHeight : Int) : Prop where
  valid : s.isValidStorageProofVerificationTx spv blockHeight = .ok ()
  unresolved : ∃ p, s.ext.rows.pick (Db.getStorageProofs spv.height db) = some p ∧
    p.2.status = .unresolved
  checkable : ∀ p ∈ Db.getStorageProofs spv.height db, s.Checkable db p
  majority : (Db.getStorageProofs spv.height db).length < 2 * (s.matching db spv).length

def resolvedRow (db : Db) (spv : StorageProofVerification) (k : PgText × Int) :
    Option StorageProofRow :=
  if k.2 = spv.height then
    match db.storageProofs.lookup k with
    | some row => some { row with
        proof := some ⟨encodeHex spv.proof, nulFree_encodeHex spv.proof⟩
        status := if s.matched db spv.proof (k.1, row) = true then .pass else .fail }
    | none =>
      if (Db.getStorageProofs spv.height db).length < 2 * s.mentions db spv k.1
      then some failedProof else none
  else db.storageProofs.lookup k

section Lists

variable {s} {db : Db} {spv : StorageProofVerification} {a : PgText}

theorem mem_provers {height : Int} : a ∈ (Db.getStorageProofs height db).map (·.1) ↔
    (db.storageProofs.lookup (a, height)).isSome = true := by
  rw [List.mem_map, Option.isSome_iff_exists]
  constructor
  · rintro ⟨p, hp, rfl⟩
    exact ⟨p.2, mem_getStorageProofs.mp hp⟩
  · rintro ⟨row, hrow⟩
    exact ⟨(a, row), mem_getStorageProofs.mpr hrow, rfl⟩

theorem mem_matching {p : PgText × StorageProofRow} : p ∈ s.matching db spv ↔
    db.storageProofs.lookup (p.1, spv.height) = some p.2 ∧ s.matched db spv.proof p = true := by
  rw [matching, List.mem_filter, mem_getStorageProofs]

theorem mem_matching_map {row : StorageProofRow}
    (hrow : db.storageProofs.lookup (a, spv.height) = some row) :
    a ∈ (s.matching db spv).map (·.1) ↔ s.matched db spv.proof (a, row) = true := by
  rw [List.mem_map]
  constructor
  · rintro ⟨⟨a', row'⟩, hp, rfl⟩
    obtain ⟨hrow', hmatched⟩ := mem_matching.mp hp
    obtain rfl : row = row' := Option.some.inj (hrow.symm.trans hrow')
    exact hmatched
  · intro hmatched
    exact ⟨(a, row), mem_matching.mpr ⟨hrow, hmatched⟩, rfl⟩

theorem count_flatMap_matching :
    ((s.matching db spv).flatMap (·.2.proverAddresses)).count a = s.mentions db spv a := by
  rw [List.count_flatMap]
  rfl

end Lists

theorem resolveChallenge_live (db : Db) (spv : StorageProofVerification) :
    ∃ rows, resolveChallenge spv (Db.getStorageProofs spv.height db)
        ((s.matching db spv).map (·.1)) ((s.matching db spv).flatMap (·.2.proverAddresses))
        ⟨db, false⟩ = (.ok (), ⟨{ db with storageProofs := rows }, false⟩) ∧
      ∀ k, rows.lookup k = s.resolvedRow db spv k := by
  let proofs := Db.getStorageProofs spv.height db
  let peers := (s.matching db spv).flatMap (·.2.proverAddresses)
  let missing := peers.filter fun peer => !proofs.any fun p => p.1 == peer
  have hany : ∀ a, (proofs.any fun p => p.1 == a) =
      (db.storageProofs.lookup (a, spv.height)).isSome := by
    intro a
    rw [Bool.eq_iff_iff, ← mem_provers, List.any_eq_true, List.mem_map]
    simp only [beq_iff_eq]
    rfl
  have hmissing : ∀ a, a ∈ missing →
      db.storageProofs.lookup (a, spv.height) = none := by
    intro a ha
    have hnone := (List.mem_filter.mp ha).2
    rw [hany] at hnone
    simpa using hnone
  obtain ⟨rows, hmark, hrows⟩ := markProvers_live
    ⟨encodeHex spv.proof, nulFree_encodeHex spv.proof⟩
    (fun a => if a ∈ (s.matching db spv).map (·.1) then .pass else .fail) spv.height
    (fun a => s!"could not update storage proof for prover {a.val} at height {spv.height}") proofs db
  obtain ⟨rows', hinsert, hrows'⟩ := insertMissing_live
    (fun peer => proofs.length / 2 < missing.count peer) spv.height missing.dedup
    (List.nodup_dedup _) { db with storageProofs := rows } (by
      intro peer hpeer
      have habsent := hmissing peer (List.mem_dedup.mp hpeer)
      exact (hrows _).trans (by simp [habsent]))
  refine ⟨rows', (bind_of_ok hmark).trans hinsert, ?_⟩
  rintro ⟨a, height⟩
  have hmarked : ({ db with storageProofs := rows } : Db).storageProofs.lookup (a, height) = _ :=
    hrows (a, height)
  rw [hrows' (a, height), hmarked]
  unfold resolvedRow
  by_cases hheight : height = spv.height
  · subst hheight
    cases hrow : db.storageProofs.lookup (a, spv.height) with
    | some row =>
      have hnot : a ∉ missing.dedup := fun ha => by
        simpa [hrow] using hmissing a (List.mem_dedup.mp ha)
      have hin : a ∈ proofs.map (·.1) := mem_provers.mpr (by simp [hrow])
      simp only [hnot, hin, mem_matching_map hrow, false_and, and_false, and_self, if_true, if_false,
        Option.map_some]
    | none =>
      have hcount : missing.count a = s.mentions db spv a := by
        rw [← count_flatMap_matching]
        exact List.count_filter (by rw [hany, hrow]; rfl)
      have hiff : (a ∈ missing.dedup ∧ proofs.length / 2 < missing.count a) ↔
          proofs.length < 2 * s.mentions db spv a := by
        rw [List.mem_dedup, ← List.count_pos_iff, hcount]
        omega
      simp only [true_and, hiff, Option.map_none, ite_self, if_true]
      rfl
  · simp [hheight]

theorem settleChallenge_of_open {spv : StorageProofVerification}
    {proofs : List (PgText × StorageProofRow)} {p : PgText × StorageProofRow}
    (hpick : s.ext.rows.pick proofs = some p) (hopen : p.2.status = .unresolved) :
    s.settleChallenge spv proofs = (s.collectConsensus spv.proof proofs >>= fun r =>
      if proofs.length / 2 < r.1.length then resolveChallenge spv proofs r.1 r.2 else pure ()) := by
  obtain ⟨a, cid, sig, proof, provers, status⟩ := p
  cases hopen
  unfold settleChallenge
  rw [hpick]

theorem settleChallenge_of_closed {spv : StorageProofVerification}
    {proofs : List (PgText × StorageProofRow)}
    (hclosed : ∀ p, s.ext.rows.pick proofs = some p → p.2.status ≠ .unresolved) :
    s.settleChallenge spv proofs = pure () := by
  unfold settleChallenge
  split
  · rename_i hpick
    exact absurd rfl (hclosed _ hpick)
  · rfl

theorem finalizeStorageProofVerification_live (db : Db) (spv : StorageProofVerification)
    (blockHeight : Int) :
    (s.Resolves db spv blockHeight ∧
      ∃ rows, s.finalizeStorageProofVerification spv blockHeight ⟨db, false⟩ =
        (.ok (), ⟨{ db with storageProofs := rows }, false⟩) ∧
        ∀ k, rows.lookup k = s.resolvedRow db spv k) ∨
    (¬ s.Resolves db spv blockHeight ∧
      (s.finalizeStorageProofVerification spv blockHeight ⟨db, false⟩).2 = ⟨db, false⟩) := by
  unfold finalizeStorageProofVerification
  cases hvalid : s.isValidStorageProofVerificationTx spv blockHeight with
  | error e =>
    refine .inr ⟨fun h => ?_, rfl⟩
    rw [h.valid] at hvalid
    cases hvalid
  | ok _ =>
    have hquery : BlockProg.context "could not fetch storage proofs"
        (BlockProg.query fun db => .ok (Db.getStorageProofs spv.height db)) ⟨db, false⟩ =
        (.ok (Db.getStorageProofs spv.height db), ⟨db, false⟩) :=
      BlockProg.context_of_ok _ (BlockProg.query_of_ok rfl rfl)
    dsimp only
    rw [bind_of_ok hquery]
    by_cases hopen : ∃ p, s.ext.rows.pick (Db.getStorageProofs spv.height db) = some p ∧
        p.2.status = .unresolved
    · obtain ⟨p, hpick, hstatus⟩ := hopen
      rw [s.settleChallenge_of_open hpick hstatus]
      rcases s.collectConsensus_live spv.proof db (Db.getStorageProofs spv.height db) with
        ⟨hcheck, hcollect⟩ | ⟨hcheck, e, hcollect⟩
      · rw [bind_of_ok hcollect]
        simp only [List.length_map]
        by_cases hmajority : (Db.getStorageProofs spv.height db).length / 2 <
            (s.matching db spv).length
        · refine .inl ⟨⟨hvalid, ⟨p, hpick, hstatus⟩, hcheck, by omega⟩, ?_⟩
          obtain ⟨rows, hrun, hrows⟩ := s.resolveChallenge_live db spv
          unfold matching at hmajority hrun
          rw [if_pos hmajority]
          exact ⟨rows, hrun, hrows⟩
        · refine .inr ⟨fun h => hmajority (by have := h.majority; omega), ?_⟩
          unfold matching at hmajority
          rw [if_neg hmajority]
          rfl
      · refine .inr ⟨fun h => hcheck h.checkable, ?_⟩
        rw [bind_of_error hcollect]
    · rw [s.settleChallenge_of_closed fun p hpick hstatus => hopen ⟨p, hpick, hstatus⟩]
      exact .inr ⟨fun h => hopen h.unresolved, rfl⟩

theorem executeTx_verification {tx : Bytes} {stx : SignedTransaction}
    {spv : StorageProofVerification} (hdecode : s.ext.unmarshalSigned tx = some stx)
    (hbody : stx.transaction = some (.storageProofVerification spv)) (req : FinalizeBlockRequest)
    (index : Nat) {t : Txn Db} (hlive : t.aborted = false) :
    (s.Resolves t.view spv req.height ∧
      ∀ k, (s.executeTx req index tx t).2.view.storageProofs.lookup k =
        s.resolvedRow t.view spv k) ∨
    (¬ s.Resolves t.view spv req.height ∧
      (s.executeTx req index tx t).2.view.storageProofs = t.view.storageProofs) := by
  obtain ⟨db, _⟩ := t
  cases hlive
  have hother : deregisteredAddress stx.transaction = "" := by
    rw [hbody]
    rfl
  have hpart := (s.executeTx_finalizes hdecode hother req index ⟨db, false⟩).1 .storageProofs (by simp)
  have hfin : s.finalizeTransaction req stx (s.ext.toTxHashFromBytes tx) =
      s.finalizeStorageProofVerification spv req.height := by
    unfold finalizeTransaction
    simp only [hbody]
  rw [hfin] at hpart
  have hrows : (s.executeTx req index tx ⟨db, false⟩).2.view.storageProofs =
      (s.finalizeStorageProofVerification spv req.height ⟨db, false⟩).2.view.storageProofs := hpart
  rw [hrows]
  rcases s.finalizeStorageProofVerification_live db spv req.height with
    ⟨hresolves, rows, hrun, hlookup⟩ | ⟨hresolves, hrun⟩
  · rw [hrun]
    exact .inl ⟨hresolves, hlookup⟩
  · rw [hrun]
    exact .inr ⟨hresolves, rfl⟩

/-! ### Addresses without a proof -/

/-- Repetitions inside a list decide nothing: an address without a proof that the matching provers
mention more often than half the number of provers is mentioned by more than half of them. -/
def RepeatsDecideNothing (db : Db) (spv : StorageProofVerification) : Prop :=
  ∀ peer, db.storageProofs.lookup (peer, spv.height) = none →
    (Db.getStorageProofs spv.height db).length < 2 * s.mentions db spv peer →
    (Db.getStorageProofs spv.height db).length < 2 * s.namers db spv peer

theorem mentions_eq_namers {db : Db} {spv : StorageProofVerification}
    (h : ∀ p ∈ s.matching db spv, p.2.proverAddresses.Nodup) (peer : PgText) :
    s.mentions db spv peer = s.namers db spv peer := by
  unfold mentions namers
  generalize s.matching db spv = ps at h
  induction ps with
  | nil => rfl
  | cons p ps ih =>
    obtain ⟨hp, hps⟩ := List.forall_mem_cons.mp h
    rw [List.map_cons, List.sum_cons, List.countP_cons, ih hps, hp.count]
    simp only [decide_eq_true_eq]
    omega

/-- A verification inserts a failed proof only for an address that more than half of the recorded
provers name, each with a matching proof, exactly if no repetition inside a list makes the
difference; and where no matching prover repeats an address, none does. -/
theorem failedProofs_iff_repeatsDecideNothing {tx : Bytes} {stx : SignedTransaction}
    {spv : StorageProofVerification} (hdecode : s.ext.unmarshalSigned tx = some stx)
    (hbody : stx.transaction = some (.storageProofVerification spv)) (req : FinalizeBlockRequest)
    (index : Nat) {t : Txn Db} (hlive : t.aborted = false) :
    ((∀ peer, t.view.storageProofs.lookup (peer, spv.height) = none →
        (s.executeTx req index tx t).2.view.storageProofs.lookup (peer, spv.height) ≠ none →
        (Db.getStorageProofs spv.height t.view).length < 2 * s.namers t.view spv peer) ↔
      (s.Resolves t.view spv req.height → s.RepeatsDecideNothing t.view spv)) ∧
    ((∀ p ∈ s.matching t.view spv, p.2.proverAddresses.Nodup) →
      s.RepeatsDecideNothing t.view spv) := by
  constructor
  · rcases s.executeTx_verification hdecode hbody req index hlive with
      ⟨hresolves, hrows⟩ | ⟨hresolves, hrows⟩
    · -- the rows that appear are those of the addresses mentioned often enough
      have hnew : ∀ peer, t.view.storageProofs.lookup (peer, spv.height) = none →
          ((s.executeTx req index tx t).2.view.storageProofs.lookup (peer, spv.height) ≠ none ↔
            (Db.getStorageProofs spv.height t.view).length < 2 * s.mentions t.view spv peer) := by
        intro peer hnone
        rw [hrows, resolvedRow, if_pos rfl, hnone]
        by_cases hoften : (Db.getStorageProofs spv.height t.view).length <
            2 * s.mentions t.view spv peer
        · simp [hoften]
        · simp [hoften]
      constructor
      · intro h _ peer hnone hoften
        exact h peer hnone ((hnew peer hnone).mpr hoften)
      · intro h peer hnone hthere
        exact h hresolves peer hnone ((hnew peer hnone).mp hthere)
    · rw [hrows]
      constructor
      · intro _ h
        exact absurd h hresolves
      · intro _ peer hnone hthere
        exact absurd hnone hthere
  · intro hnodup peer _ hoften
    rwa [← s.mentions_eq_namers hnodup peer]

/-! ### Recorded provers -/

/-- More than half of the recorded proofs carry a signature of the revealed bytes under the key
their prover submitted with. -/
def MajoritySigned (key : PgText → Bytes) (db : Db) (spv : StorageProofVerification) : Prop :=
  (Db.getStorageProofs spv.height db).length <
    2 * (Db.getStorageProofs spv.height db).countP fun p => s.signedUnder (key p.1) spv.proof p.2

/-- The recorded provers have passed or failed as their signatures say. -/
def MarkedBy (key : PgText → Bytes) (db : Db) (spv : StorageProofVerification)
    (rows : Table (PgText × Int) StorageProofRow) : Prop :=
  ∀ p ∈ Db.getStorageProofs spv.height db, ∃ row, rows.lookup (p.1, spv.height) = some row ∧
    row.status = if s.signedUnder (key p.1) spv.proof p.2 = true then .pass else .fail

/-- Every recorded prover is still registered and not jailed, its key and its signature can be read,
and its key gives the verdict of the key it submitted with. -/
def StillRegistered (key : PgText → Bytes) (db : Db) (spv : StorageProofVerification) : Prop :=
  ∀ p ∈ Db.getStorageProofs spv.height db, s.Checkable db p ∧
    s.matched db spv.proof p = s.signedUnder (key p.1) spv.proof p.2

section Marked

variable {s} {key : PgText → Bytes} {db : Db} {spv : StorageProofVerification}

theorem MajoritySigned.ne_nil (h : s.MajoritySigned key db spv) :
    Db.getStorageProofs spv.height db ≠ [] := by
  intro hnil
  unfold MajoritySigned at h
  simp [hnil] at h

theorem StillRegistered.length_matching (h : s.StillRegistered key db spv) :
    (s.matching db spv).length = (Db.getStorageProofs spv.height db).countP fun p =>
      s.signedUnder (key p.1) spv.proof p.2 := by
  rw [matching, ← List.countP_eq_length_filter]
  apply List.countP_congr
  intro p hp
  rw [(h p hp).2]

theorem resolvedRow_of_mem {p : PgText × StorageProofRow}
    (hp : p ∈ Db.getStorageProofs spv.height db) :
    ∃ row, s.resolvedRow db spv (p.1, spv.height) = some row ∧
      row.status = if s.matched db spv.proof p = true then .pass else .fail := by
  rw [resolvedRow, if_pos rfl, mem_getStorageProofs.mp hp]
  exact ⟨_, rfl, rfl⟩

theorem stillRegistered_of_keys (h : ∀ p ∈ Db.getStorageProofs spv.height db,
    s.proverKey db p.1 = some (key p.1) ∧ p.2.signature.isSome = true) :
    s.StillRegistered key db spv := by
  intro p hp
  obtain ⟨hkey, hsig⟩ := h p hp
  refine ⟨⟨by simp [hkey], hsig⟩, ?_⟩
  rw [matched, hkey]

end Marked

/-- Of an open challenge past its deadline: where more than half of the recorded proofs are signed
under the keys their provers submitted with, an accepted verification marks exactly the matching
provers as passed and the others as failed if and only if every recorded prover, matching or not, is
still registered and not jailed with a key and a signature that can be read; and so it is where
every prover still has the key it submitted with. -/
theorem markedBy_iff_stillRegistered (key : PgText → Bytes) {tx : Bytes} {stx : SignedTransaction}
    {spv : StorageProofVerification} (hdecode : s.ext.unmarshalSigned tx = some stx)
    (hbody : stx.transaction = some (.storageProofVerification spv)) (req : FinalizeBlockRequest)
    (index : Nat) {t : Txn Db} (hlive : t.aborted = false)
    (hvalid : s.isValidStorageProofVerificationTx spv req.height = .ok ())
    (hopen : ∀ p ∈ Db.getStorageProofs spv.height t.view, p.2.status = .unresolved)
    (hmajority : s.MajoritySigned key t.view spv) :
    (s.MarkedBy key t.view spv (s.executeTx req index tx t).2.view.storageProofs ↔
      s.StillRegistered key t.view spv) ∧
    ((∀ p ∈ Db.getStorageProofs spv.height t.view,
        s.proverKey t.view p.1 = some (key p.1) ∧ p.2.signature.isSome = true) →
      s.StillRegistered key t.view spv) := by
  refine ⟨?_, stillRegistered_of_keys⟩
  rcases s.executeTx_verification hdecode hbody req index hlive with
    ⟨hresolves, hrows⟩ | ⟨hresolves, hrows⟩
  · constructor
    · intro hmarked p hp
      obtain ⟨row, hrow, hstatus⟩ := hmarked p hp
      obtain ⟨row', hrow', hstatus'⟩ := resolvedRow_of_mem (s := s) hp
      rw [hrows, hrow', Option.some.injEq] at hrow
      rw [← hrow, hstatus'] at hstatus
      refine ⟨hresolves.checkable p hp, ?_⟩
      cases hm : s.matched t.view spv.proof p <;>
        cases hk : s.signedUnder (key p.1) spv.proof p.2 <;> simp [hm, hk] at hstatus ⊢
    · intro hstill p hp
      obtain ⟨row, hrow, hstatus⟩ := resolvedRow_of_mem (s := s) hp
      rw [(hstill p hp).2] at hstatus
      exact ⟨row, (hrows _).trans hrow, hstatus⟩
  · constructor
    · -- an open challenge that stays as it is has neither passed nor failed
      intro hmarked
      obtain ⟨p, hp⟩ := List.exists_mem_of_ne_nil _ hmajority.ne_nil
      obtain ⟨row, hrow, hstatus⟩ := hmarked p hp
      rw [hrows, mem_getStorageProofs.mp hp, Option.some.injEq] at hrow
      rw [← hrow, hopen p hp] at hstatus
      split at hstatus <;> cases hstatus
    · intro hstill
      obtain ⟨p, hpick⟩ := Option.isSome_iff_exists.mp (s.ext.rows.pick_isSome hmajority.ne_nil)
      refine absurd ⟨hvalid, ⟨p, hpick, hopen p (s.ext.rows.mem_of_pick hpick)⟩,
        fun p hp => (hstill p hp).1, ?_⟩ hresolves
      rw [hstill.length_matching]
      exact hmajority

/-! ### Two and three provers -/

/-- A prover of the challenge of height 1, with its signature of the bytes that are revealed. -/
structure RecordedProver where
  cometAddress : PgText
  cometPubKey : PgText
  key : Bytes
  signature : PgText
  signatureBytes : Bytes

namespace RecordedProver

variable (p : RecordedProver)

def validator (jailed : Bool) : ValidatorRow :=
  { firstNode with
    cometAddress := p.cometAddress, cometPubKey := p.cometPubKey, jailed := jailed }

def row (provers : List PgText) : StorageProofRow :=
  ⟨some ⟨"", nulFree_empty⟩, some p.signature, none, provers, .unresolved⟩

end RecordedProver

def proverA : RecordedProver where
  cometAddress := firstNode.cometAddress
  cometPubKey := firstNode.cometPubKey
  key := bigEndian 32 0xd75a980182b10ab7d54bfed3c964073a0ee172f3daa62325af021a68f707511a
  signature := ⟨"pPEgnuQEGHPCbVDd4b+cJBFCYodWftmkY36bALEx4Ju+w8TgBHgIcrlSqAOFQe7s8wBbQ3Axl0n0cuvmtU8YDg==",
    by decide⟩
  signatureBytes := bigEndian 40 0xa4f1209ee4041873c26d50dde1bf9c2411426287567ed9a4637e9b00b131e09bbec3c4e004780872 ++
    bigEndian 24 0xb952a8038541eeecf3005b4370319749f472ebe6b54f180e

def proverB : RecordedProver where
  cometAddress := secondNode.cometAddress
  cometPubKey := secondNode.cometPubKey
  key := bigEndian 32 0x3d4017c3e843895a92b70aa74d1b7ebc9c982ccf2ec4968cc0cd55f12af4660c
  signature := ⟨"Igi9CTzjX1To87D/XHJ1KLVF+QikZcVp8MXbdIgul0pIPkhBAEcFlCF9Da699MTLBSmoW3fdj661M3ubx89JBw==",
    by decide⟩
  signatureBytes := bigEndian 40 0x2208bd093ce35f54e8f3b0ff5c727528b545f908a465c569f0c5db74882e974a483e484100470594 ++
    bigEndian 24 0x217d0daebdf4c4cb0529a85b77dd8faeb5337b9bc7cf4907

def proverC : RecordedProver where
  cometAddress := ⟨"DAC073E0123BDEA59DD9B3BDA9CF6037F63ACA82", by decide⟩
  cometPubKey := ⟨"/FHNjmIYoaONpH7QAjDwWAgW7RO6MwOsXeuRFUiQgCU=", by decide⟩
  key := bigEndian 32 0xfc51cd8e6218a1a38da47ed00230f0580816ed13ba3303ac5deb911548908025
  signature := ⟨"MXMzPhiWaTTpUUc5PjAwHdxNadTbCtdrIEocNSqbGr2slvklnkwm/dDvtmDFcs8XjzROGEffy9n9WYlyQU4+AA==",
    by decide⟩
  signatureBytes := bigEndian 40 0x3173333e18966934e95147393e30301ddc4d69d4db0ad76b204a1c352a9b1abdac96f9259e4c26fd ++
    bigEndian 24 0xd0efb660c572cf178f344e1847dfcbd9fd598972414e3e00

def submittedKey (address : PgText) : Bytes :=
  if address = proverA.cometAddress then proverA.key
  else if address = proverB.cometAddress then proverB.key
  else proverC.key

def revealedProof : StorageProofVerification :=
  { height := 1, proof := bigEndian 9 0x6f70656e617564696f }

def revealTx : Bytes := bigEndian 16 0xf23e0d080112096f70656e617564696f

def revealCalls : Externals.Recorded where
  sha256 := [(revealTx, Externals.digest 0x45fd2378a52c187864a1a84846bd6993876188a513646ae1f6bfd523780e1a4)]
  unmarshalSigned := [(revealTx, { transaction := some (.storageProofVerification revealedProof) })]

def proversDb (validators : List ValidatorRow) (rows : List (RecordedProver × List PgText)) : Db :=
  { challengeDb with
    validators := validators
    storageProofs := rows.foldr (fun p t => AList.insert (p.1.cometAddress, 1) (p.1.row p.2) t) ∅ }

def revealNode (db : Db) : Server :=
  { Server.devnet revealCalls db with
    ext := { revealCalls.externals with
      cometVerify := fun key msg sig => decide (msg = revealedProof.proof ∧ (key, sig) ∈
        [(proverA.key, proverA.signatureBytes), (proverB.key, proverB.signatureBytes),
          (proverC.key, proverC.signatureBytes)]) } }

def revealBlock : Block where
  req :=
    { txs := [revealTx]
      misbehavior := []
      hash := bigEndian 32 4
      height := 4
      time := { seconds := 1700000000 }
      proposerAddress := bigEndian 20 2 }
  voting := ⟨3, false⟩
  executing := ⟨3, false⟩

def twoProvers (a b : Nat) : Db :=
  proversDb [proverA.validator false, proverB.validator false]
    [(proverA, List.replicate a proverC.cometAddress), (proverB, List.replicate b proverC.cometAddress)]

def threeProvers (jailed : Bool) : Db :=
  proversDb [proverA.validator false, proverB.validator false, proverC.validator jailed]
    [(proverA, []), (proverB, []), ({ proverC with signature := proverA.signature }, [])]

/-- Both provers name the third address once: it fails, and both named it. -/
theorem failedProofs_named_by_both :
    ((revealNode (twoProvers 1 1)).executeTx revealBlock.req 0 revealTx
        (Txn.begin (twoProvers 1 1))).2.view.storageProofs.lookup (proverC.cometAddress, 1) =
      some failedProof ∧
    (Db.getStorageProofs 1 (twoProvers 1 1)).length <
      2 * (revealNode (twoProvers 1 1)).namers (twoProvers 1 1) revealedProof proverC.cometAddress := by
  have hrun : (revealNode (twoProvers 1 1)).ext.unmarshalSigned revealTx =
        some { transaction := some (.storageProofVerification revealedProof) } ∧
      (twoProvers 1 1).storageProofs.lookup (proverC.cometAddress, 1) = none ∧
      ((revealNode (twoProvers 1 1)).executeTx revealBlock.req 0 revealTx
        (Txn.begin (twoProvers 1 1))).2.view.storageProofs.lookup (proverC.cometAddress, 1) =
        some failedProof ∧
      ∀ p ∈ (revealNode (twoProvers 1 1)).matching (twoProvers 1 1) revealedProof,
        p.2.proverAddresses.Nodup := by decide +kernel
  obtain ⟨hdecode, hnone, hfailed, hnodup⟩ := hrun
  obtain ⟨hiff, hrepeats⟩ := (revealNode (twoProvers 1 1)).failedProofs_iff_repeatsDecideNothing
    hdecode rfl revealBlock.req 0 (t := Txn.begin (twoProvers 1 1)) rfl
  refine ⟨hfailed, hiff.mpr (fun _ => hrepeats hnodup) proverC.cometAddress hnone ?_⟩
  rw [show revealedProof.height = 1 from rfl, hfailed]
  exact Option.some_ne_none _

/-- One prover that names an address twice fails it alone: of two provers only one named it. -/
theorem repeated_name_fails :
    ((revealNode (twoProvers 2 0)).voter (twoProvers 2 0) revealBlock).Accepts revealBlock.req ∧
    (twoProvers 2 0).storageProofs.lookup (proverC.cometAddress, 1) = none ∧
    ((revealNode (twoProvers 2 0)).commitAll (twoProvers 2 0) [revealBlock]).map (fun db =>
      db.storageProofs.lookup (proverC.cometAddress, 1)) = some (some failedProof) ∧
    (Db.getStorageProofs 1 (twoProvers 2 0)).length = 2 ∧
    (revealNode (twoProvers 2 0)).namers (twoProvers 2 0) revealedProof proverC.cometAddress = 1 := by
  decide +kernel

/-- Three registered provers, two of which match. -/
theorem markedBy_threeProvers :
    (revealNode (threeProvers false)).MajoritySigned submittedKey (threeProvers false) revealedProof ∧
    (revealNode (threeProvers false)).MarkedBy submittedKey (threeProvers false) revealedProof
      ((revealNode (threeProvers false)).executeTx revealBlock.req 0 revealTx
        (Txn.begin (threeProvers false))).2.view.storageProofs := by
  have hstart : (revealNode (threeProvers false)).ext.unmarshalSigned revealTx =
        some { transaction := some (.storageProofVerification revealedProof) } ∧
      (revealNode (threeProvers false)).isValidStorageProofVerificationTx revealedProof
        revealBlock.req.height = .ok () ∧
      (∀ p ∈ Db.getStorageProofs 1 (threeProvers false), p.2.status = .unresolved) ∧
      (Db.getStorageProofs 1 (threeProvers false)).length <
        2 * (Db.getStorageProofs 1 (threeProvers false)).countP (fun p =>
          (revealNode (threeProvers false)).signedUnder (submittedKey p.1) revealedProof.proof p.2) ∧
      ∀ p ∈ Db.getStorageProofs 1 (threeProvers false),
        (revealNode (threeProvers false)).proverKey (threeProvers false) p.1 =
          some (submittedKey p.1) ∧ p.2.signature.isSome = true := by decide +kernel
  obtain ⟨hdecode, hvalid, hopen, hmajority, hkeys⟩ := hstart
  obtain ⟨hiff, hstill⟩ := (revealNode (threeProvers false)).markedBy_iff_stillRegistered submittedKey
    hdecode rfl revealBlock.req 0 (t := Txn.begin (threeProvers false)) rfl hvalid hopen hmajority
  exact ⟨hmajority, hiff.mpr (hstill hkeys)⟩

/-- Two of three provers match, but the third was jailed after it submitted: the accepted
verification fails and the challenge stays open. -/
theorem jailed_prover_blocks :
    ((revealNode (threeProvers true)).voter (threeProvers true) revealBlock).Accepts revealBlock.req ∧
    (Db.getStorageProofs 1 (threeProvers true)).countP (fun p =>
      (revealNode (threeProvers true)).signedUnder (submittedKey p.1) revealedProof.proof p.2) = 2 ∧
    ((revealNode (threeProvers true)).finalizeBlock revealBlock.req).txResults = [.failed] ∧
    ((revealNode (threeProvers true)).commitAll (threeProvers true) [revealBlock]).map (fun db =>
      (Db.getStorageProofs 1 db).map (·.2.status)) =
      some [.unresolved, .unresolved, .unresolved] := by
  decide +kernel

end Server

end OpenAudio.Core
