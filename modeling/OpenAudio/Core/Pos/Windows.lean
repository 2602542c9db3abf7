import OpenAudio.Core.Pos.Resolution

/-!
# The windows of a challenge

A proof is taken for two blocks after its challenge and a verification only later, so the proofs of
a challenge are complete before the first of them can be resolved. A verification resolves all of
them or none. The test for an open challenge, which reads one row, is therefore sound: along a run of
blocks with increasing heights the rows of a challenge are resolved together and then never change.
-/

namespace OpenAudio.Core

open Prog

def Settled (rows : Table (PgText × Int) StorageProofRow) (height : Int) : Prop :=
  ∃ a row, rows.lookup (a, height) = some row ∧ row.status ≠ .unresolved

/-- The proofs of a challenge are all open or all resolved. -/
def AllAlike (rows : Table (PgText × Int) StorageProofRow) (height : Int) : Prop :=
  (∀ a row, rows.lookup (a, height) = some row → row.status = .unresolved) ∨
    ∀ a row, rows.lookup (a, height) = some row → row.status ≠ .unresolved

def Frozen (rows rows' : Table (PgText × Int) StorageProofRow) : Prop :=
  ∀ height, Settled rows height → ∀ a, rows'.lookup (a, height) = rows.lookup (a, height)

instance : IsPreorder (Part.Rows .storageProofs) Frozen where
  refl _ _ _ _ := rfl
  trans rows rows' rows'' h₁ h₂ height hsettled a := by
    have hsettled' : Settled rows' height := by
      obtain ⟨b, row, hrow, hstatus⟩ := hsettled
      exact ⟨b, row, (h₁ height ⟨b, row, hrow, hstatus⟩ b).trans hrow, hstatus⟩
    rw [h₂ height hsettled' a, h₁ height hsettled a]

/-- The proofs before a block of the given height: the rows of a challenge are alike, and a settled
one is past its deadline. -/
structure InWindow (blockHeight : Int) (rows : Table (PgText × Int) StorageProofRow) : Prop where
  alike : ∀ height, AllAlike rows height
  past : ∀ height, Settled rows height → posChallengeDeadline < blockHeight - height

theorem InWindow.mono {H H' : Int} {rows : Table (PgText × Int) StorageProofRow}
    (h : InWindow H rows) (hle : H ≤ H') : InWindow H' rows := by
  refine ⟨h.alike, fun height hsettled => ?_⟩
  have hpast := h.past height hsettled
  omega

/-- What a transaction of a block does to the proofs: nothing, or it records a proof in the first
window of a challenge, or it resolves an open challenge in the second. -/
inductive ProofStep (blockHeight : Int) (rows rows' : Table (PgText × Int) StorageProofRow) : Prop
  | same (h : rows' = rows)
  | recorded (a : PgText) (height : Int) (row : StorageProofRow)
      (window : blockHeight - height ≤ posChallengeDeadline)
      (isNew : row.status = .unresolved) (sets : rows.Sets rows' (a, height) row)
  | resolved (height : Int) (window : posChallengeDeadline < blockHeight - height)
      (isOpen : ∃ a row, rows.lookup (a, height) = some row ∧ row.status = .unresolved)
      (others : ∀ k, k.2 ≠ height → rows'.lookup k = rows.lookup k)
      (all : ∀ a row, rows'.lookup (a, height) = some row → row.status ≠ .unresolved)

theorem AllAlike.not_settled {rows : Table (PgText × Int) StorageProofRow} {height : Int}
    (h : AllAlike rows height)
    (hopen : ∃ a row, rows.lookup (a, height) = some row ∧ row.status = .unresolved) :
    ¬ Settled rows height := by
  rintro ⟨b, row', hrow', hstatus'⟩
  obtain ⟨a, row, hrow, hstatus⟩ := hopen
  rcases h with hall | hall
  · exact hstatus' (hall b row' hrow')
  · exact hall a row hrow hstatus

theorem InWindow.change {H height : Int} {rows rows' : Table (PgText × Int) StorageProofRow}
    (hin : InWindow H rows) (hopen : ¬ Settled rows height)
    (hother : ∀ k, k.2 ≠ height → rows'.lookup k = rows.lookup k) (halike : AllAlike rows' height)
    (hpast : Settled rows' height → posChallengeDeadline < H - height) :
    InWindow H rows' ∧ Frozen rows rows' := by
  have hother : ∀ h, h ≠ height → ∀ b, rows'.lookup (b, h) = rows.lookup (b, h) :=
    fun h hne b => hother (b, h) hne
  refine ⟨⟨fun h => ?_, fun h hsettled => ?_⟩, fun h hsettled b => ?_⟩
  · by_cases hh : h = height
    · subst hh
      exact halike
    · simpa only [AllAlike, hother h hh] using hin.alike h
  · by_cases hh : h = height
    · subst hh
      exact hpast hsettled
    · apply hin.past h
      simpa only [Settled, hother h hh] using hsettled
  · by_cases hh : h = height
    · subst hh
      exact absurd hsettled hopen
    · exact hother h hh b

theorem ProofStep.inWindow {H : Int} {rows rows' : Table (PgText × Int) StorageProofRow}
    (h : ProofStep H rows rows') (hin : InWindow H rows) : InWindow H rows' ∧ Frozen rows rows' := by
  cases h with
  | same h =>
    subst h
    exact ⟨hin, refl _⟩
  | recorded a height row window isNew sets =>
    have hopen : ¬ Settled rows height := fun hsettled => by
      have hpast := hin.past height hsettled
      omega
    -- the rows of the challenge were open, and the new one is
    have hall : ∀ b r, rows'.lookup (b, height) = some r → r.status = .unresolved := by
      intro b r hr
      rcases sets.cases hr with ⟨-, rfl⟩ | ⟨-, hold⟩
      · exact isNew
      · by_contra hstatus
        exact hopen ⟨b, r, hold, hstatus⟩
    apply hin.change hopen
    · intro k hk
      exact sets.lookup_of_ne fun heq => hk (Prod.ext_iff.mp heq).2
    · exact .inl hall
    · rintro ⟨b, r, hr, hstatus⟩
      exact absurd (hall b r hr) hstatus
  | resolved height window isOpen others all =>
    apply hin.change ((hin.alike height).not_settled isOpen) others
    · exact .inr all
    · exact fun _ => window

namespace Server

variable (s : Server)

/-! ### What the two checks say about heights -/

/-- The committed blocks lie below a height, and heights are positive. -/
def BlocksBelow (H : Int) (db : Db) : Prop :=
  ∀ k row, db.chain.blocks.lookup k = some row → 0 < k.1 ∧ k.1 < H

variable {s} {H : Int} {height : Int}

theorem height_of_checkChallengeHeight (hbelow : BlocksBelow H s.committed)
    (h : s.checkChallengeHeight height = .ok ()) : 0 < height ∧ height < H := by
  unfold checkChallengeHeight at h
  obtain ⟨block, hread, -⟩ := except_bind_eq_ok.mp h
  have hread := except_mapError_eq_ok.mp hread
  unfold readOne Db.getBlock at hread
  cases hpick : s.ext.rows.pick ((s.committed.chain.blocks.entries.filter fun e =>
      e.1.1 == height).map (·.2)) with
  | none =>
    rw [hpick] at hread
    cases hread
  | some row =>
    obtain ⟨e, he, -⟩ := List.mem_map.mp (s.ext.rows.mem_of_pick hpick)
    obtain ⟨hmem, hheight⟩ := List.mem_filter.mp he
    obtain rfl : e.1.1 = height := by simpa using hheight
    exact hbelow e.1 e.2 ((Table.mem_entries_iff _ _ _).mp hmem)

theorem window_of_isValidStorageProofTx (hbelow : BlocksBelow H s.committed) (hH : H < 2 ^ 63)
    {tx : SignedTransaction} {sp : StorageProof}
    (h : s.isValidStorageProofTx tx sp H = .ok ()) :
    0 < sp.height ∧ sp.height < H ∧ H - sp.height ≤ posChallengeDeadline := by
  unfold isValidStorageProofTx at h
  obtain ⟨-, h⟩ := refuseIf_bind_eq_ok.mp h
  obtain ⟨⟨key, address⟩, -, h⟩ := except_bind_eq_ok.mp h
  obtain ⟨node, -, h⟩ := except_bind_eq_ok.mp h
  obtain ⟨-, h⟩ := refuseIf_bind_eq_ok.mp h
  obtain ⟨-, h⟩ := refuseIf_bind_eq_ok.mp h
  obtain ⟨-, h⟩ := refuseIf_bind_eq_ok.mp h
  obtain ⟨hdeadline, h⟩ := refuseIf_bind_eq_ok.mp h
  obtain ⟨hpos, hlt⟩ := height_of_checkChallengeHeight hbelow h
  rw [wrapInt64_of_isInt64 (by unfold IsInt64; omega)] at hdeadline
  exact ⟨hpos, hlt, by omega⟩

theorem deadline_of_isValidStorageProofVerificationTx {spv : StorageProofVerification}
    (h : s.isValidStorageProofVerificationTx spv H = .ok ()) :
    posChallengeDeadline < wrapInt64 (H - spv.height) ∧
      s.checkChallengeHeight spv.height = .ok () := by
  unfold isValidStorageProofVerificationTx at h
  obtain ⟨-, h⟩ := refuseIf_bind_eq_ok.mp h
  obtain ⟨hdeadline, h⟩ := refuseIf_bind_eq_ok.mp h
  exact ⟨by omega, h⟩

theorem window_of_isValidStorageProofVerificationTx (hbelow : BlocksBelow H s.committed)
    (hH : H < 2 ^ 63) {spv : StorageProofVerification}
    (h : s.isValidStorageProofVerificationTx spv H = .ok ()) :
    posChallengeDeadline < H - spv.height := by
  obtain ⟨hdeadline, hcheck⟩ := deadline_of_isValidStorageProofVerificationTx h
  obtain ⟨hpos, hlt⟩ := height_of_checkChallengeHeight hbelow hcheck
  rwa [wrapInt64_of_isInt64 (by unfold IsInt64; omega)] at hdeadline

/-! ### One transaction -/

theorem storeStorageProof_cases (sp : StorageProof) (t : Txn Db) :
    (storeStorageProof sp t).2.view.storageProofs = t.view.storageProofs ∨
      ∃ a row, row.status = .unresolved ∧ t.view.storageProofs.Sets
        (storeStorageProof sp t).2.view.storageProofs (a, sp.height) row := by
  unfold storeStorageProof
  rcases BlockProg.query_cases (Db.hasStorageProof sp.height sp.address) t with
    ⟨e, t', hrun, hview⟩ | ⟨there, -, -, hrun⟩
  · have hattempt : (attempt (BlockProg.query (Db.hasStorageProof sp.height sp.address)) :
        BlockProg _) t = (.ok (.error e), t') := by rw [attempt, hrun]
    rw [bind_of_ok hattempt]
    exact .inl (congrArg Db.storageProofs hview)
  · have hattempt : (attempt (BlockProg.query (Db.hasStorageProof sp.height sp.address)) :
        BlockProg _) t = (.ok (.ok there), t) := by rw [attempt, hrun]
    rw [bind_of_ok hattempt]
    cases there with
    | true => exact .inl rfl
    | false =>
      have hinsert := (BlockProg.oneStatement_exec (Db.insertStorageProof sp.height sp.address sp.cid
        (base64Encode sp.proofSignature) sp.proverAddresses) t).context
        "could not persist storage proof in db"
      rcases hinsert with ⟨e, t', hrun, hview⟩ | ⟨u, db, -, hstmt, hrun⟩
      · dsimp only
        rw [hrun]
        exact .inl (congrArg Db.storageProofs hview)
      · obtain ⟨a, -, hstmt⟩ := except_bind_eq_ok.mp hstmt
        obtain ⟨c, -, hstmt⟩ := except_bind_eq_ok.mp hstmt
        obtain ⟨sig, -, hstmt⟩ := except_bind_eq_ok.mp hstmt
        obtain ⟨ps, -, hstmt⟩ := except_bind_eq_ok.mp hstmt
        split at hstmt
        · cases hstmt
        · cases hstmt
          dsimp only
          rw [hrun]
          exact .inr ⟨a, ⟨some c, some sig, none, ps, .unresolved⟩, rfl, Table.sets_insert _ _ _⟩

theorem status_resolvedRow {db : Db} {spv : StorageProofVerification} {a : PgText}
    {row : StorageProofRow} (h : s.resolvedRow db spv (a, spv.height) = some row) :
    row.status ≠ .unresolved := by
  rw [resolvedRow, if_pos rfl] at h
  split at h
  · cases h
    dsimp only
    split <;> simp
  · split at h
    · cases h
      simp [failedProof]
    · cases h

theorem proofStep_of_resolves {db : Db} {spv : StorageProofVerification}
    (hbelow : BlocksBelow H s.committed) (hH : H < 2 ^ 63) (h : s.Resolves db spv H)
    {rows : Table (PgText × Int) StorageProofRow}
    (hrows : ∀ k, rows.lookup k = s.resolvedRow db spv k) : ProofStep H db.storageProofs rows := by
  obtain ⟨p, hpick, hopen⟩ := h.unresolved
  apply ProofStep.resolved spv.height (window_of_isValidStorageProofVerificationTx hbelow hH h.valid)
  · exact ⟨p.1, p.2, mem_getStorageProofs.mp (s.ext.rows.mem_of_pick hpick), hopen⟩
  · intro k hk
    rw [hrows k, resolvedRow, if_neg hk]
  · intro a row hrow
    rw [hrows] at hrow
    exact status_resolvedRow hrow

theorem proofStep_finalizeStorageProof {stx : SignedTransaction} {sp : StorageProof}
    (hbelow : BlocksBelow H s.committed) (hH : H < 2 ^ 63) (t : Txn Db) :
    ProofStep H t.view.storageProofs (s.finalizeStorageProof stx sp H t).2.view.storageProofs := by
  unfold finalizeStorageProof
  cases hvalid : s.isValidStorageProofTx stx sp H with
  | error e => exact .same rfl
  | ok _ =>
    obtain ⟨-, -, hwindow⟩ := window_of_isValidStorageProofTx hbelow hH hvalid
    rcases storeStorageProof_cases sp t with hsame | ⟨a, row, hstatus, hsets⟩
    · exact .same hsame
    · exact .recorded a sp.height row hwindow hstatus hsets

variable {req : FinalizeBlockRequest} (hbelow : BlocksBelow req.height s.committed)
  (hH : req.height < 2 ^ 63)

include hbelow hH

theorem proofStep_executeTx (index : Nat) (tx : Bytes) (t : Txn Db) :
    ProofStep req.height t.view.storageProofs (s.executeTx req index tx t).2.view.storageProofs := by
  have hfoot := s.footprint_executeTx req index tx
  by_cases hdead : t.aborted = true
  · rw [hfoot.later t hdead]
    exact .same rfl
  rw [Bool.not_eq_true] at hdead
  cases hdecode : s.ext.unmarshalSigned tx with
  | none => exact .same (hfoot.untouched (p := .storageProofs) (by simp [txParts, hdecode]) t)
  | some stx =>
    have hpart : ∀ body, stx.transaction = some body → Part.storageProofs ∉ body.parts →
        (s.executeTx req index tx t).2.view.storageProofs = t.view.storageProofs := by
      intro body hbody hnot
      exact hfoot.untouched (p := .storageProofs) (by simp [txParts, hdecode, hbody, hnot]) t
    cases hbody : stx.transaction with
    | none =>
      exact .same (hfoot.untouched (p := .storageProofs) (by simp [txParts, hdecode, hbody]) t)
    | some body =>
      cases body with
      | storageProof sp =>
        have hother : deregisteredAddress stx.transaction = "" := by
          rw [hbody]
          rfl
        have hrows := (s.executeTx_finalizes hdecode hother req index t).1 .storageProofs (by simp)
        have hfin : s.finalizeTransaction req stx (s.ext.toTxHashFromBytes tx) =
            s.finalizeStorageProof stx sp req.height := by
          unfold finalizeTransaction
          simp only [hbody]
        rw [hfin] at hrows
        rw [show (s.executeTx req index tx t).2.view.storageProofs =
          (s.finalizeStorageProof stx sp req.height t).2.view.storageProofs from hrows]
        exact proofStep_finalizeStorageProof hbelow hH t
      | storageProofVerification spv =>
        rcases s.executeTx_verification hdecode hbody req index hdead with
          ⟨hresolves, hrows⟩ | ⟨-, hrows⟩
        · exact proofStep_of_resolves hbelow hH hresolves hrows
        · exact .same hrows
      | _ => exact .same (hpart _ hbody (by simp [TxBody.parts]))

/-! ### One block -/

theorem inWindow_progress (hin : InWindow req.height s.committed.storageProofs) {n : Nat}
    (hn : n ≤ req.txs.length) :
    InWindow req.height (s.progress req n).txn.view.storageProofs ∧
      ∀ m ≤ n, Frozen (s.progress req m).txn.view.storageProofs
        (s.progress req n).txn.view.storageProofs := by
  induction n with
  | zero =>
    have hopen : (s.progress req 0).txn.view.storageProofs = s.committed.storageProofs :=
      s.openBlock_part req (p := .storageProofs) (by simp)
    refine ⟨hopen ▸ hin, fun m hm => ?_⟩
    rw [Nat.le_zero.mp hm]
    exact refl _
  | succ n ih =>
    obtain ⟨hwindow, hfrozen⟩ := ih (by omega)
    have htx : req.txs[n]? = some (req.txs.get ⟨n, hn⟩) := by simp
    have hstep := proofStep_executeTx hbelow hH n (req.txs.get ⟨n, hn⟩) (s.progress req n).txn
    rw [← s.txn_progress_succ req htx] at hstep
    obtain ⟨hwindow', hfrozen'⟩ := hstep.inWindow hwindow
    refine ⟨hwindow', fun m hm => ?_⟩
    rcases Nat.le_succ_iff.mp hm with hm | rfl
    · exact IsTrans.trans (r := Frozen) _ _ _ (hfrozen m hm) hfrozen'
    · exact refl _

omit hH hbelow in
theorem storageProofs_commitBlock {db : Db} (h : s.commitBlock req = some db) :
    db.storageProofs = (s.progress req req.txs.length).txn.view.storageProofs :=
  s.part_commitBlock h (p := .storageProofs) (by simp)

theorem height_ne_of_verifiable {H : Int} (hH₀ : 0 ≤ H) (hle : H ≤ req.height) {node : Server}
    {spv : StorageProofVerification}
    (hverify : node.isValidStorageProofVerificationTx spv H = .ok ()) :
    ∀ p ∈ s.blockProofs req req.txs.length, p.height ≠ spv.height := by
  intro p hp heq
  obtain ⟨n, -, hn⟩ := List.mem_filterMap.mp hp
  obtain ⟨stx, sp, hheight, -, hvalid⟩ := s.valid_of_writtenProof hn
  obtain ⟨hpos, hlt, hwindow⟩ := window_of_isValidStorageProofTx hbelow hH hvalid
  have hdeadline := (deadline_of_isValidStorageProofVerificationTx hverify).1
  rw [wrapInt64_of_isInt64 (by unfold IsInt64; omega)] at hdeadline
  omega

end Server

/-! ### Runs -/

/-- A database before a block of the given height. -/
structure Ready (H : Int) (db : Db) : Prop where
  blocks : Server.BlocksBelow H db
  proofs : InWindow H db.storageProofs

theorem Ready.mono {H H' : Int} {db : Db} (h : Ready H db) (hle : H ≤ H') : Ready H' db := by
  refine ⟨fun k row hrow => ?_, h.proofs.mono hle⟩
  have hk := h.blocks k row hrow
  omega

namespace Server

variable {s : Server}

theorem ready_commitBlock {req : FinalizeBlockRequest} {db : Db}
    (h : Ready req.height s.committed) (hpos : 0 < req.height) (hH : req.height < 2 ^ 63)
    (hcommit : s.commitBlock req = some db) : Ready (req.height + 1) db := by
  constructor
  · intro k row hrow
    rcases s.lookup_blocks_commitBlock hcommit hrow with hold | hnew
    · have hk := h.blocks k row hold
      omega
    · omega
  · rw [storageProofs_commitBlock hcommit]
    exact (inWindow_progress h.blocks hH h.proofs le_rfl).1.mono (by omega)

/-- In one block: the rows are alike at every place, what is settled before it or at one of its
places stays to its later places and to its end. -/
theorem blockViews_settle {db : Db} {b : Block} (hready : Ready b.req.height db)
    (hH : b.req.height < 2 ^ 63) :
    (∀ view ∈ s.blockViews db b, (∀ height, AllAlike view.storageProofs height) ∧
      Frozen db.storageProofs view.storageProofs ∧
      ∀ db', (s.executor db b).commitBlock b.req = some db' →
        Frozen view.storageProofs db'.storageProofs) ∧
    (s.blockViews db b).Pairwise fun view view' =>
      Frozen view.storageProofs view'.storageProofs := by
  have hplace := fun {n : Nat} (hn : n ≤ b.req.txs.length) =>
    inWindow_progress (s := s.executor db b) hready.blocks hH hready.proofs hn
  have hopen : ((s.executor db b).progress b.req 0).txn.view.storageProofs = db.storageProofs :=
    (s.executor db b).openBlock_part b.req (p := .storageProofs) (by simp)
  constructor
  · intro view hview
    obtain ⟨n, hn, rfl⟩ := List.mem_map.mp hview
    have hn : n ≤ b.req.txs.length := Nat.lt_succ_iff.mp (List.mem_range.mp hn)
    refine ⟨(hplace hn).1.alike, ?_, fun db' hcommit => ?_⟩
    · rw [← hopen]
      exact (hplace hn).2 0 (Nat.zero_le n)
    · rw [storageProofs_commitBlock hcommit]
      exact (hplace le_rfl).2 n hn
  · rw [blockViews, List.pairwise_map]
    refine List.pairwise_lt_range.imp_of_mem fun {m n} _ hn hlt => ?_
    have hn : n ≤ b.req.txs.length := Nat.lt_succ_iff.mp (List.mem_range.mp hn)
    exact (hplace hn).2 m (by omega)

theorem eachBlock_ready {db : Db} {bs : List Block} {first : Int} (hready : Ready first db)
    (hpos : 0 < first) (hheights : bs.Pairwise fun b b' => b.req.height < b'.req.height)
    (hrange : ∀ b ∈ bs, first ≤ b.req.height ∧ b.req.height < 2 ^ 63) :
    s.EachBlock (fun db b => Ready b.req.height db ∧ b.req.height < 2 ^ 63) db bs := by
  induction bs generalizing db first with
  | nil => trivial
  | cons b bs ih =>
    obtain ⟨hfirst, hH⟩ := hrange b List.mem_cons_self
    obtain ⟨hlater, hheights⟩ := List.pairwise_cons.mp hheights
    have hready : Ready b.req.height (s.executor db b).committed := hready.mono hfirst
    refine ⟨⟨hready, hH⟩, fun db' hcommit => ?_⟩
    refine ih (ready_commitBlock hready (by omega) hH hcommit) (by omega) hheights fun b' hb' => ?_
    have hlt := hlater b' hb'
    exact ⟨by omega, (hrange b' (List.mem_cons_of_mem b hb')).2⟩

/-- What holds at every place of a block that meets a ready database holds along the run. -/
theorem views_settle {db : Db} {bs : List Block}
    (hrun : s.EachBlock (fun db b => Ready b.req.height db ∧ b.req.height < 2 ^ 63) db bs) :
    (∀ view ∈ s.views db bs, (∀ height, AllAlike view.storageProofs height) ∧
      Frozen db.storageProofs view.storageProofs) ∧
    (s.views db bs).Pairwise fun view view' =>
      Frozen view.storageProofs view'.storageProofs := by
  induction bs generalizing db with
  | nil => exact ⟨by simp [views], by simp [views]⟩
  | cons b bs ih =>
    obtain ⟨⟨hready, hH⟩, hrest⟩ := hrun
    obtain ⟨hblock, hpairs⟩ := blockViews_settle (s := s) hready hH
    rw [views]
    cases hcommit : (s.executor db b).commitBlock b.req with
    | none =>
      simp only [List.append_nil]
      exact ⟨fun view hview => ⟨(hblock view hview).1, (hblock view hview).2.1⟩, hpairs⟩
    | some db' =>
      obtain ⟨hlater, hpairs'⟩ := ih (hrest db' hcommit)
      -- from the database of the block to that of the next one
      have hend : Frozen db.storageProofs db'.storageProofs := by
        have hfirst : ((s.executor db b).progress b.req 0).txn.view ∈ s.blockViews db b :=
          List.mem_map.mpr ⟨0, by simp, rfl⟩
        obtain ⟨-, hstart, hlast⟩ := hblock _ hfirst
        exact IsTrans.trans (r := Frozen) _ _ _ hstart (hlast db' hcommit)
      constructor
      · intro view hview
        rcases List.mem_append.mp hview with hview | hview
        · exact ⟨(hblock view hview).1, (hblock view hview).2.1⟩
        · obtain ⟨halike, hfrozen⟩ := hlater view hview
          exact ⟨halike, IsTrans.trans (r := Frozen) _ _ _ hend hfrozen⟩
      · rw [List.pairwise_append]
        refine ⟨hpairs, hpairs', fun view hview view' hview' => ?_⟩
        exact IsTrans.trans (r := Frozen) _ _ _ ((hblock view hview).2.2 db' hcommit)
          (hlater view' hview').2

/-- Along a run of blocks with increasing heights, from a database that is ready for the first of
them: the proofs of a challenge are at all times all open or all resolved; once one of them is
resolved, none is inserted or changed; and no proof is recorded in a block at or after a height at
which any node, whatever its database, could accept a verification of its challenge. -/
theorem challenges_settle_once {db : Db} {bs : List Block} {first : Int} (hready : Ready first db)
    (hpos : 0 < first) (hheights : bs.Pairwise fun b b' => b.req.height < b'.req.height)
    (hrange : ∀ b ∈ bs, first ≤ b.req.height ∧ b.req.height < 2 ^ 63) :
    (∀ view ∈ s.views db bs, ∀ height, AllAlike view.storageProofs height) ∧
    ((s.views db bs).Pairwise fun view view' =>
      ∀ height, Settled view.storageProofs height →
        ∀ a, view'.storageProofs.lookup (a, height) = view.storageProofs.lookup (a, height)) ∧
    s.EachBlock (fun db b => ∀ (H : Int) (node : Server) (spv : StorageProofVerification),
      0 ≤ H → H ≤ b.req.height → node.isValidStorageProofVerificationTx spv H = .ok () →
      ∀ p ∈ (s.executor db b).blockProofs b.req b.req.txs.length, p.height ≠ spv.height) db bs := by
  have hrun := eachBlock_ready (s := s) hready hpos hheights hrange
  obtain ⟨hviews, hpairs⟩ := views_settle hrun
  refine ⟨fun view hview => (hviews view hview).1, hpairs, hrun.mono ?_⟩
  rintro db b ⟨hready, hH⟩ H node spv hH₀ hle hverify
  exact height_ne_of_verifiable (s := s.executor db b) hready.blocks hH hH₀ hle hverify

/-- The two proofs of `twoProvers` are open before the block that reveals the proof, and resolved
after it. -/
theorem twoProvers_settle_once :
    ((revealNode (twoProvers 1 1)).views (twoProvers 1 1) [revealBlock]).map (fun view =>
      (Db.getStorageProofs 1 view).map (·.2.status)) =
      [[.unresolved, .unresolved], [.fail, .pass, .pass]] ∧
    ∀ view ∈ (revealNode (twoProvers 1 1)).views (twoProvers 1 1) [revealBlock],
      ∀ height, AllAlike view.storageProofs height := by
  have hstart : (∀ e ∈ (twoProvers 1 1).chain.blocks.entries, 0 < e.1.1 ∧ e.1.1 < 4) ∧
      (∀ e ∈ (twoProvers 1 1).storageProofs.entries, e.2.status = .unresolved) ∧
      ((revealNode (twoProvers 1 1)).views (twoProvers 1 1) [revealBlock]).map (fun view =>
        (Db.getStorageProofs 1 view).map (·.2.status)) =
        [[.unresolved, .unresolved], [.fail, .pass, .pass]] := by decide +kernel
  obtain ⟨hblocks, hproofs, hviews⟩ := hstart
  have hopen : ∀ (height : Int) a row, (twoProvers 1 1).storageProofs.lookup (a, height) = some row →
      row.status = .unresolved := fun height a row hrow =>
    hproofs ⟨(a, height), row⟩ ((Table.mem_entries_iff _ _ _).mpr hrow)
  have hready : Ready 4 (twoProvers 1 1) := by
    refine ⟨fun k row hrow => hblocks ⟨k, row⟩ ((Table.mem_entries_iff _ _ _).mpr hrow), ?_, ?_⟩
    · exact fun height => .inl (hopen height)
    · rintro height ⟨a, row, hrow, hstatus⟩
      exact absurd (hopen height a row hrow) hstatus
  refine ⟨hviews, (challenges_settle_once hready (by decide) (List.pairwise_singleton _ _) ?_).1⟩
  simp [revealBlock]

end Server

end OpenAudio.Core
