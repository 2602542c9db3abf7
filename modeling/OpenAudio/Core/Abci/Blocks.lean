import OpenAudio.Core.Abci.Footprint

/-!
# Blocks and runs of blocks

The state of a block's execution before each of its transactions, the state of its validation
before each of them, and sequences of blocks that are accepted, executed and committed one after
the other. Every transaction of a block returns, whatever happens to it, so the state after `n`
transactions is a fold.
-/

namespace OpenAudio.Core

open Prog

theorem total_logged (p : BlockProg Unit) : Total (BlockProg.logged p) := fun _ => ⟨(), rfl⟩

namespace Server

variable (s : Server)

/-- The body of a transaction of the first version. -/
def bodyOf (tx : Bytes) : Option TxBody :=
  (s.ext.unmarshalSigned tx).bind SignedTransaction.transaction

/-! ### Execution never stops -/

theorem total_registrationEffect (vr : ValidatorRegistration) (req : FinalizeBlockRequest) :
    Total (s.registrationEffect vr req) := by
  unfold registrationEffect registeredNodeValidatorUpdate
  refine Total.bind ?_ fun update => ?_
  · exact .ite (total_pure none) ((total_attempt _).bind fun _ => total_pure _)
  · match update with
    | none => exact total_pure _
    | some (address, u) => exact (total_logged _).bind fun _ => total_pure _

theorem total_validatorEffect (req : FinalizeBlockRequest) (body : Option TxBody) (emit : Bool) :
    Total (s.validatorEffect req body emit) := by
  unfold validatorEffect
  split
  · unfold registeredNodeValidatorUpdate
    refine Total.bind ?_ fun _ => total_pure _
    exact .ite (total_pure none) ((total_attempt _).bind fun _ => total_pure _)
  · split
    · exact s.total_registrationEffect _ req
    · exact (total_logged _).bind fun _ => total_pure _
    · exact total_pure _
  · exact total_pure _
  · exact total_pure _

theorem total_deregistrationNeedsValidatorUpdate (stx : SignedTransaction) :
    Total (s.deregistrationNeedsValidatorUpdate stx) := by
  unfold deregistrationNeedsValidatorUpdate
  refine .ite (total_pure false) ((total_attempt _).bind fun node => ?_)
  match node with
  | .ok (some node) => exact total_pure _
  | .ok none => exact total_pure _
  | .error _ => exact total_pure _

theorem total_outcomeEffect (req : FinalizeBlockRequest) (body : Option TxBody) (emit : Bool)
    (outcome : Except GoError Unit) : Total (s.outcomeEffect req body emit outcome) := by
  cases outcome with
  | error e => exact total_pure _
  | ok u => exact s.total_validatorEffect req body emit

theorem total_persistTxStat (req : FinalizeBlockRequest) (txType : Option String)
    (txhash : String) : Total (persistTxStat req txType txhash) := by
  unfold persistTxStat
  cases txType with
  | none => exact total_pure ()
  | some name => exact total_logged _

theorem executeSigned_eq (req : FinalizeBlockRequest) (index : Nat) (tx : Bytes)
    (stx : SignedTransaction) (t : Txn Db) :
    ∃ emit t₁ effect t₃,
      s.deregistrationNeedsValidatorUpdate stx t = (.ok emit, t₁) ∧
      s.outcomeEffect req stx.transaction emit
        (s.finalizeTransaction req stx (s.ext.toTxHashFromBytes tx) t₁).1
        (s.finalizeTransaction req stx (s.ext.toTxHashFromBytes tx) t₁).2 = (.ok effect, t₃) ∧
      s.executeSigned req index tx stx t =
        (.ok (if (s.finalizeTransaction req stx (s.ext.toTxHashFromBytes tx) t₁).1.isOk
            then .ok else .failed, effect),
          (persistTxStat req (statType stx.transaction
            (s.finalizeTransaction req stx (s.ext.toTxHashFromBytes tx) t₁).1.isOk)
            (s.ext.toTxHashFromBytes tx) (s.storeTx req index tx t₃).2).2) := by
  obtain ⟨emit, t₁, hemit⟩ := (s.total_deregistrationNeedsValidatorUpdate stx).eq_ok t
  generalize hfin : s.finalizeTransaction req stx (s.ext.toTxHashFromBytes tx) t₁ = fin
  obtain ⟨effect, t₃, heffect⟩ :=
    (s.total_outcomeEffect req stx.transaction emit fin.1).eq_ok fin.2
  refine ⟨emit, t₁, effect, t₃, hemit, ?_⟩
  rw [hfin]
  refine ⟨heffect, ?_⟩
  have hattempt : (attempt (s.finalizeTransaction req stx (s.ext.toTxHashFromBytes tx)) :
      BlockProg (Except GoError Unit)) t₁ = (.ok fin.1, fin.2) := by rw [attempt, hfin]
  have hstore : s.storeTx req index tx t₃ = (.ok (), (s.storeTx req index tx t₃).2) := rfl
  obtain ⟨_, t₄, hpersist⟩ := (total_persistTxStat req (statType stx.transaction fin.1.isOk)
    (s.ext.toTxHashFromBytes tx)).eq_ok (s.storeTx req index tx t₃).2
  rw [hpersist, executeSigned, bind_of_ok hemit, bind_of_ok hattempt, bind_of_ok heffect,
    bind_of_ok hstore]
  exact bind_of_ok hpersist

theorem total_executeSigned (req : FinalizeBlockRequest) (index : Nat) (tx : Bytes)
    (stx : SignedTransaction) : Total (s.executeSigned req index tx stx) := by
  intro t
  obtain ⟨_, _, _, _, -, -, h⟩ := s.executeSigned_eq req index tx stx t
  exact ⟨_, congrArg Prod.fst h⟩

theorem executeSigned_part (req : FinalizeBlockRequest) (index : Nat) (tx : Bytes)
    (stx : SignedTransaction) (t : Txn Db) :
    ∃ emit t₁ effect,
      s.deregistrationNeedsValidatorUpdate stx t = (.ok emit, t₁) ∧
      (s.outcomeEffect req stx.transaction emit
        (s.finalizeTransaction req stx (s.ext.toTxHashFromBytes tx) t₁).1
        (s.finalizeTransaction req stx (s.ext.toTxHashFromBytes tx) t₁).2).1 = .ok effect ∧
      (s.executeSigned req index tx stx t).1 =
        .ok (if (s.finalizeTransaction req stx (s.ext.toTxHashFromBytes tx) t₁).1.isOk
          then .ok else .failed, effect) ∧
      ∀ p ∉ [Part.chain, .validatorHistory],
        (s.executeSigned req index tx stx t).2.view.part p =
          (s.finalizeTransaction req stx (s.ext.toTxHashFromBytes tx) t₁).2.view.part p := by
  obtain ⟨emit, t₁, effect, t₃, hemit, heffect, hrun⟩ := s.executeSigned_eq req index tx stx t
  refine ⟨emit, t₁, effect, hemit, congrArg Prod.fst heffect, congrArg Prod.fst hrun, ?_⟩
  intro p hp
  simp only [List.mem_cons, List.not_mem_nil, or_false, not_or] at hp
  have hchain : p ∉ [Part.chain] := by simpa using hp.1
  have hhistory : p ∉ [Part.validatorHistory] := by simpa using hp.2
  have hpersist := (footprint_persistTxStat req (statType stx.transaction
    (s.finalizeTransaction req stx (s.ext.toTxHashFromBytes tx) t₁).1.isOk)
    (s.ext.toTxHashFromBytes tx)).untouched hchain (s.storeTx req index tx t₃).2
  have hstore := (s.footprint_storeTx req index tx).untouched hchain t₃
  have hout := (s.footprint_outcomeEffect req stx.transaction emit
    (s.finalizeTransaction req stx (s.ext.toTxHashFromBytes tx) t₁).1).untouched hhistory
    (s.finalizeTransaction req stx (s.ext.toTxHashFromBytes tx) t₁).2
  rw [heffect] at hout
  rw [hrun]
  exact hpersist.trans (hstore.trans hout)

theorem live_finalizeTransaction (req : FinalizeBlockRequest) (index : Nat) (tx : Bytes)
    (stx : SignedTransaction) {t t₁ : Txn Db} {emit : Bool}
    (hemit : s.deregistrationNeedsValidatorUpdate stx t = (.ok emit, t₁))
    (hlive : (s.executeSigned req index tx stx t).2.aborted = false) :
    (s.finalizeTransaction req stx (s.ext.toTxHashFromBytes tx) t₁).2.aborted = false := by
  obtain ⟨emit', t₁', effect, t₃, hemit', heffect, hrun⟩ := s.executeSigned_eq req index tx stx t
  obtain ⟨rfl, rfl⟩ : emit = emit' ∧ t₁ = t₁' := by simpa [hemit] using hemit'
  rw [hrun] at hlive
  have hstore := Txn.Later.live ((footprint_persistTxStat req _ _).later _) hlive
  have hout := Txn.Later.live ((s.footprint_storeTx req index tx).later _) hstore
  have hlater := (s.footprint_outcomeEffect req stx.transaction emit
    (s.finalizeTransaction req stx (s.ext.toTxHashFromBytes tx) t₁).1).later
      (s.finalizeTransaction req stx (s.ext.toTxHashFromBytes tx) t₁).2
  rw [heffect] at hlater
  exact hlater.live hout

theorem deregistrationNeedsValidatorUpdate_of_other {stx : SignedTransaction}
    (hother : deregisteredAddress stx.transaction = "") (t : Txn Db) :
    s.deregistrationNeedsValidatorUpdate stx t = (.ok false, t) := by
  unfold deregistrationNeedsValidatorUpdate
  simp only [hother, if_true]
  rfl

theorem executeTx_finalizes {tx : Bytes} {stx : SignedTransaction}
    (hdecode : s.ext.unmarshalSigned tx = some stx)
    (hother : deregisteredAddress stx.transaction = "") (req : FinalizeBlockRequest) (index : Nat)
    (t : Txn Db) :
    (∀ p ∉ [Part.chain, .validatorHistory], (s.executeTx req index tx t).2.view.part p =
      (s.finalizeTransaction req stx (s.ext.toTxHashFromBytes tx) t).2.view.part p) ∧
    ((s.executeTx req index tx t).2.aborted = false →
      (s.finalizeTransaction req stx (s.ext.toTxHashFromBytes tx) t).2.aborted = false) := by
  have hexecute : s.executeTx req index tx = s.executeSigned req index tx stx := by
    unfold executeTx
    rw [hdecode]
  have hemit := s.deregistrationNeedsValidatorUpdate_of_other hother t
  obtain ⟨emit, t₁, effect, hemit', -, -, hpart⟩ := s.executeSigned_part req index tx stx t
  obtain ⟨-, rfl⟩ : false = emit ∧ t = t₁ := by simpa [hemit] using hemit'
  rw [hexecute]
  exact ⟨hpart, s.live_finalizeTransaction req index tx stx hemit⟩

theorem total_executeTx (req : FinalizeBlockRequest) (index : Nat) (tx : Bytes) :
    Total (s.executeTx req index tx) := by
  unfold executeTx
  cases s.ext.unmarshalSigned tx with
  | some stx => exact s.total_executeSigned req index tx stx
  | none =>
    cases s.isValidV2Transaction tx with
    | error e => exact total_pure _
    | ok r => exact (total_attempt _).bind fun _ => (total_logged _).bind fun _ => total_pure _

/-! ### The state before each transaction -/

def txOutcome (req : FinalizeBlockRequest) (index : Nat) (tx : Bytes) (t : Txn Db) :
    TxCode × UpdateEffect :=
  match (s.executeTx req index tx t).1 with
  | .ok r => r
  | .error _ => (.failed, .none)

theorem executeTx_eq (req : FinalizeBlockRequest) (index : Nat) (tx : Bytes) (t : Txn Db) :
    s.executeTx req index tx t =
      (.ok (s.txOutcome req index tx t), (s.executeTx req index tx t).2) := by
  obtain ⟨r, hr⟩ := s.total_executeTx req index tx t
  have hout : s.txOutcome req index tx t = r := by rw [txOutcome, hr]
  rw [hout]
  exact Prod.ext hr rfl

theorem txOutcome_finalizes {tx : Bytes} {stx : SignedTransaction}
    (hdecode : s.ext.unmarshalSigned tx = some stx)
    (hother : deregisteredAddress stx.transaction = "") (req : FinalizeBlockRequest) (index : Nat)
    (t : Txn Db) :
    (s.txOutcome req index tx t).1 =
      if (s.finalizeTransaction req stx (s.ext.toTxHashFromBytes tx) t).1.isOk
        then .ok else .failed := by
  have hemit := s.deregistrationNeedsValidatorUpdate_of_other hother t
  obtain ⟨emit, t₁, effect, hemit', -, hcode, -⟩ := s.executeSigned_part req index tx stx t
  obtain ⟨-, rfl⟩ : false = emit ∧ t = t₁ := by simpa [hemit] using hemit'
  unfold txOutcome executeTx
  simp only [hdecode, hcode]

/-- How far a block is: the codes so far, the updates, and the Postgres transaction. -/
structure Progress where
  codes : List TxCode
  updates : Updates
  txn : Txn Db

def advance (req : FinalizeBlockRequest) (p : Progress) (tx : Bytes) : Progress where
  codes := p.codes ++ [(s.txOutcome req p.codes.length tx p.txn).1]
  updates := applyEffect p.updates (s.txOutcome req p.codes.length tx p.txn).2
  txn := (s.executeTx req p.codes.length tx p.txn).2

theorem executeTxs_eq_foldl (req : FinalizeBlockRequest) (txs : List Bytes) (p : Progress) :
    ∃ codes, (txs.foldl (s.advance req) p).codes = p.codes ++ codes ∧
      s.executeTxs req txs p.codes.length p.updates p.txn =
        (.ok (codes, (txs.foldl (s.advance req) p).updates), (txs.foldl (s.advance req) p).txn) := by
  induction txs generalizing p with
  | nil => exact ⟨[], by simp, rfl⟩
  | cons tx txs ih =>
    obtain ⟨codes, hcodes, hrun⟩ := ih (s.advance req p tx)
    have hlength : (s.advance req p tx).codes.length = p.codes.length + 1 := by simp [advance]
    rw [hlength] at hrun
    refine ⟨(s.txOutcome req p.codes.length tx p.txn).1 :: codes, ?_, ?_⟩
    · rw [List.foldl_cons, hcodes]
      simp [advance]
    · rw [executeTxs, bind_of_ok (s.executeTx_eq req _ tx p.txn)]
      exact bind_of_ok hrun

/-- The block's transaction once the block row is stored. -/
def openBlock (req : FinalizeBlockRequest) : Txn Db :=
  (BlockProg.logged (BlockProg.exec (Db.storeBlock req.height s.config.chainID
    (encodeHex req.hash) (encodeHex req.proposerAddress) req.time.micros))
    (Txn.begin s.committed)).2

/-- The block after its first `n` transactions. -/
def progress (req : FinalizeBlockRequest) (n : Nat) : Progress :=
  (req.txs.take n).foldl (s.advance req) ⟨[], ∅, s.openBlock req⟩

/-- What follows the transactions: the app state and the proposer's tally. -/
def closeBlock (req : FinalizeBlockRequest) : BlockProg Unit := do
  BlockProg.logged (BlockProg.exec
    (Db.upsertAppState req.height (s.serializeAppState [] req.txs)))
  BlockProg.logged (BlockProg.exec (Db.upsertSlaRollupReport (upperHex req.proposerAddress)))

theorem progress_succ (req : FinalizeBlockRequest) {n : Nat} {tx : Bytes}
    (h : req.txs[n]? = some tx) : s.progress req (n + 1) = s.advance req (s.progress req n) tx := by
  rw [progress, List.take_add_one, h, Option.toList_some, List.foldl_append]
  rfl

theorem length_codes_foldl (req : FinalizeBlockRequest) (txs : List Bytes) (p : Progress) :
    (txs.foldl (s.advance req) p).codes.length = p.codes.length + txs.length := by
  induction txs generalizing p with
  | nil => rfl
  | cons tx txs ih =>
    rw [List.foldl_cons, ih, List.length_cons]
    simp [advance]
    omega

theorem length_codes_progress (req : FinalizeBlockRequest) {n : Nat} (h : n ≤ req.txs.length) :
    (s.progress req n).codes.length = n := by
  rw [progress, length_codes_foldl, List.length_take]
  simp [h]

theorem txn_progress_succ (req : FinalizeBlockRequest) {n : Nat} {tx : Bytes}
    (h : req.txs[n]? = some tx) :
    (s.progress req (n + 1)).txn = (s.executeTx req n tx (s.progress req n).txn).2 := by
  obtain ⟨hn, -⟩ := List.getElem?_eq_some_iff.mp h
  rw [s.progress_succ req h, advance, s.length_codes_progress req (by omega)]

theorem runBlock_eq (req : FinalizeBlockRequest) :
    s.runBlock req (Txn.begin s.committed) =
      (.ok ((s.progress req req.txs.length).codes, (s.progress req req.txs.length).updates),
        (s.closeBlock req (s.progress req req.txs.length).txn).2) := by
  obtain ⟨codes, hcodes, hrun⟩ := s.executeTxs_eq_foldl req req.txs ⟨[], ∅, s.openBlock req⟩
  have hall : req.txs.foldl (s.advance req) ⟨[], ∅, s.openBlock req⟩ =
      s.progress req req.txs.length := by rw [progress, List.take_length]
  rw [hall] at hcodes hrun
  rw [List.nil_append] at hcodes
  rw [← hcodes] at hrun
  have hopen : BlockProg.logged (BlockProg.exec (Db.storeBlock req.height s.config.chainID
      (encodeHex req.hash) (encodeHex req.proposerAddress) req.time.micros))
      (Txn.begin s.committed) = (.ok (), s.openBlock req) := rfl
  exact (bind_of_ok hopen).trans (bind_of_ok hrun)

theorem txResults_finalizeBlock (req : FinalizeBlockRequest) :
    (s.finalizeBlock req).txResults = (s.progress req req.txs.length).codes := by
  rw [finalizeBlock, s.runBlock_eq req]

theorem validatorUpdates_finalizeBlock (req : FinalizeBlockRequest) :
    (s.finalizeBlock req).validatorUpdates = (s.progress req req.txs.length).updates := by
  rw [finalizeBlock, s.runBlock_eq req]

theorem txn_finalizeBlock (req : FinalizeBlockRequest) :
    (s.finalizeBlock req).txn = (s.closeBlock req (s.progress req req.txs.length).txn).2 := by
  rw [finalizeBlock, s.runBlock_eq req]

theorem footprint_closeBlock (req : FinalizeBlockRequest) :
    Footprint [.chain, .sla] (s.closeBlock req) := by
  unfold closeBlock
  refine Footprint.bind (.logged (.exec (Db.writesOnly_upsertAppState _ _) (by simp))) fun _ => ?_
  exact .logged (.exec (Db.writesOnly_upsertSlaRollupReport _) (by simp))

theorem openBlock_part (req : FinalizeBlockRequest) {p : Part} (hp : p ≠ .chain) :
    (s.openBlock req).view.part p = s.committed.part p :=
  untouched_exec (Db.writesOnly_storeBlock _ _ _ _ _) hp (Txn.begin s.committed)

theorem part_commitBlock {req : FinalizeBlockRequest} {db : Db} (h : s.commitBlock req = some db)
    {p : Part} (hp : p ∉ [Part.chain, .sla]) :
    db.part p = (s.progress req req.txs.length).txn.view.part p := by
  rw [← Txn.view_of_commit h, s.txn_finalizeBlock req]
  exact (s.footprint_closeBlock req).untouched hp (s.progress req req.txs.length).txn

/-! ### A preorder every transaction keeps -/

section Preorder

variable {p : Part} {Q : p.Rows → p.Rows → Prop} [IsPreorder p.Rows Q]

theorem keeps_executeTx (hp : p ∉ [Part.chain, .validatorHistory, .ddex])
    {req : FinalizeBlockRequest}
    (hfin : ∀ stx txHash, Keeps (OnPart p Q) (s.finalizeTransaction req stx txHash))
    (index : Nat) (tx : Bytes) : Keeps (OnPart p Q) (s.executeTx req index tx) := by
  simp only [List.mem_cons, List.not_mem_nil, or_false, not_or] at hp
  have hfoot := s.footprint_executeTx req index tx
  unfold executeTx txParts at *
  cases hdecode : s.ext.unmarshalSigned tx with
  | none =>
    rw [hdecode] at hfoot
    exact (hfoot.untouched (by simp [hp])).onPart
  | some stx =>
    intro t
    obtain ⟨emit, t₁, effect, hemit, -, -, hpart⟩ := s.executeSigned_part req index tx stx t
    have hread := (s.footprint_deregistrationNeedsValidatorUpdate stx).untouched
      (p := p) (by simp) t
    rw [hemit] at hread
    have hstep := hfin stx (s.ext.toTxHashFromBytes tx) t₁
    unfold OnPart at hstep ⊢
    rw [show t₁.view.part p = t.view.part p from hread] at hstep
    rwa [hpart p (by simp [hp])]

theorem onPart_progress {req : FinalizeBlockRequest}
    (hstep : ∀ index tx, Keeps (OnPart p Q) (s.executeTx req index tx)) {m n : Nat} (hm : m ≤ n)
    (hn : n ≤ req.txs.length) : OnPart p Q (s.progress req m).txn (s.progress req n).txn := by
  induction n, hm using Nat.le_induction with
  | base => exact refl _
  | succ n hmn ih =>
    have htx : req.txs[n]? = some (req.txs.get ⟨n, hn⟩) := by simp
    have hlast := hstep n (req.txs.get ⟨n, hn⟩) (s.progress req n).txn
    rw [← s.txn_progress_succ req htx] at hlast
    exact IsTrans.trans (r := OnPart p Q) _ _ _ (ih (by omega)) hlast

theorem part_progress (hp : p ≠ .chain) {req : FinalizeBlockRequest}
    (hstep : ∀ index tx, Keeps (OnPart p Q) (s.executeTx req index tx)) {n : Nat}
    (hn : n ≤ req.txs.length) :
    Q (s.committed.part p) ((s.progress req n).txn.view.part p) := by
  have hopen : (s.progress req 0).txn.view.part p = s.committed.part p := s.openBlock_part req hp
  rw [← hopen]
  exact s.onPart_progress hstep (Nat.zero_le n) hn

end Preorder

/-! ### The rows of the blocks -/

section BlockRows

def blockRows (t : Txn Db) : Table (Int × PgText) BlockRow := t.view.chain.blocks

theorem keepsBlockRows_of_untouched {ε α : Type} {m : Prog (Txn Db) ε α}
    (h : Untouched .chain m) : Keeps (Same blockRows) m := fun t => by
  have hchain : (m t).2.view.chain = t.view.chain := h t
  exact congrArg ChainTables.blocks hchain

theorem keepsBlockRows_exec {stmt : Stmt Db Unit}
    (h : ∀ db db', stmt db = .ok ((), db') → db'.chain.blocks = db.chain.blocks) :
    Keeps (Same blockRows) (BlockProg.logged (BlockProg.exec stmt)) :=
  Txn.exec_onView (Q := Same fun db : Db => db.chain.blocks) fun db _ db' hrun => h db db' hrun

theorem keepsBlockRows_storeTx (req : FinalizeBlockRequest) (index : Nat) (tx : Bytes) :
    Keeps (Same blockRows) (s.storeTx req index tx) := by
  apply keepsBlockRows_exec
  intro db db' h
  obtain ⟨a, -, h⟩ := except_bind_eq_ok.mp h
  split at h
  · cases h
  · cases h
    rfl

theorem keepsBlockRows_persistTxStat (req : FinalizeBlockRequest) (txType : Option String)
    (txhash : String) : Keeps (Same blockRows) (persistTxStat req txType txhash) := by
  unfold persistTxStat
  cases txType with
  | none => exact keeps_pure ()
  | some name =>
    apply keepsBlockRows_exec
    intro db db' h
    obtain ⟨a, -, h⟩ := except_bind_eq_ok.mp h
    obtain ⟨b, -, h⟩ := except_bind_eq_ok.mp h
    cases h
    rfl

theorem keepsBlockRows_executeTx (req : FinalizeBlockRequest) (index : Nat) (tx : Bytes) :
    Keeps (Same blockRows) (s.executeTx req index tx) := by
  unfold executeTx
  cases s.ext.unmarshalSigned tx with
  | some stx =>
    unfold executeSigned
    have hbody : Part.chain ∉ stx.transaction.elim [] TxBody.parts := by
      cases stx.transaction with
      | none => simp
      | some body => cases body <;> simp [TxBody.parts]
    refine (keepsBlockRows_of_untouched
      ((s.footprint_deregistrationNeedsValidatorUpdate stx).untouched (by simp))).bind fun emit => ?_
    refine (keepsBlockRows_of_untouched
      ((s.footprint_finalizeTransaction req stx _).untouched hbody)).attempt.bind fun outcome => ?_
    refine (keepsBlockRows_of_untouched
      ((s.footprint_outcomeEffect req _ emit outcome).untouched (by simp))).bind fun effect => ?_
    refine (s.keepsBlockRows_storeTx req index tx).bind fun _ => ?_
    exact (keepsBlockRows_persistTxStat req _ _).bind fun _ => keeps_pure _
  | none =>
    cases s.isValidV2Transaction tx with
    | error e => exact keeps_pure _
    | ok r =>
      have hbody := (s.footprint_finalizeV2Transaction req r.2.1 r.2.2
        (s.ext.toTxHashFromBytes tx)).savepoint (fun e => GoError.wrap "begin block savepoint" (.store e))
        (fun e => GoError.wrap "commit block savepoint" (.store e))
      refine (keepsBlockRows_of_untouched (hbody.untouched (by simp))).attempt.bind fun outcome => ?_
      exact (s.keepsBlockRows_storeTx req index tx).bind fun _ => keeps_pure _

theorem blockRows_progress (req : FinalizeBlockRequest) {n : Nat} (hn : n ≤ req.txs.length) :
    blockRows (s.progress req n).txn = blockRows (s.openBlock req) := by
  induction n with
  | zero => rfl
  | succ n ih =>
    have htx : req.txs[n]? = some (req.txs.get ⟨n, hn⟩) := by simp
    rw [s.txn_progress_succ req htx, ← ih (by omega)]
    exact s.keepsBlockRows_executeTx req n _ _

theorem lookup_blocks_commitBlock {req : FinalizeBlockRequest} {db : Db}
    (h : s.commitBlock req = some db) {k : Int × PgText} {row : BlockRow}
    (hrow : db.chain.blocks.lookup k = some row) :
    s.committed.chain.blocks.lookup k = some row ∨ k.1 = req.height := by
  have hclose : Keeps (Same blockRows) (s.closeBlock req) := by
    unfold closeBlock
    refine Keeps.bind (keepsBlockRows_exec fun db db' hstmt => ?_) fun _ =>
      keepsBlockRows_of_untouched ?_
    · unfold Db.upsertAppState at hstmt
      split at hstmt
      · cases hstmt
      · cases hstmt
        rfl
    · exact (Footprint.logged (.exec (Db.writesOnly_upsertSlaRollupReport _) (by simp :
        Part.sla ∈ [Part.sla]))).untouched (by simp)
  have hend : db.chain.blocks = blockRows (s.openBlock req) := by
    rw [← Txn.view_of_commit h, s.txn_finalizeBlock req, ← s.blockRows_progress req le_rfl]
    exact hclose _
  rw [hend, openBlock] at hrow
  have hopen := BlockProg.oneStatement_exec (Db.storeBlock req.height s.config.chainID
    (encodeHex req.hash) (encodeHex req.proposerAddress) req.time.micros) (Txn.begin s.committed)
  rcases hopen with ⟨e, t', hrun, hview⟩ | ⟨_, db', -, hstmt, hrun⟩
  · rw [blockRows, BlockProg.logged, hrun] at hrow
    refine .inl ?_
    rw [show t'.view = s.committed from hview] at hrow
    exact hrow
  · rw [blockRows, BlockProg.logged, hrun] at hrow
    obtain ⟨c, -, hstmt⟩ := except_bind_eq_ok.mp hstmt
    obtain ⟨hash, -, hstmt⟩ := except_bind_eq_ok.mp hstmt
    obtain ⟨proposer, -, hstmt⟩ := except_bind_eq_ok.mp hstmt
    split at hstmt
    · cases hstmt
    · cases hstmt
      rcases (Table.sets_insert _ _ _).cases hrow with ⟨rfl, -⟩ | ⟨-, hold⟩
      · exact .inr rfl
      · exact .inl hold

end BlockRows

/-! ### The overlay before each transaction -/

/-- The overlay once the first `n` transactions were validated. -/
def overlayAt (req : FinalizeBlockRequest) (n : Nat) : Overlay :=
  (req.txs.take n).foldl
    (fun o tx => (s.validateBlockTx (s.rules req.height) req.time req.height req.misbehavior tx o).2)
    s.newProposalAuthOverlay

def Accepts (req : FinalizeBlockRequest) : Prop :=
  s.validateBlockTxs req.time req.height req.misbehavior req.txs = .ok true

instance (req : FinalizeBlockRequest) : Decidable (s.Accepts req) :=
  inferInstanceAs (Decidable (_ = _))

theorem validateTxs_eq_ok {rules : Rules} {time : Timestamp} {height : Int}
    {misbehavior : List Misbehavior} {txs : List Bytes} {o : Overlay}
    (h : (s.validateTxs rules time height misbehavior txs o).1 = .ok true) {n : Nat} {tx : Bytes}
    (hn : txs[n]? = some tx) :
    (s.validateBlockTx rules time height misbehavior tx ((txs.take n).foldl
      (fun o tx => (s.validateBlockTx rules time height misbehavior tx o).2) o)).1 = .ok true := by
  induction txs generalizing n o with
  | nil => simp at hn
  | cons tx' txs ih =>
    obtain ⟨valid, o₁, hstep, hrest⟩ := bind_eq_ok (Prod.ext h rfl)
    cases valid with
    | false => simp [pure_apply] at hrest
    | true =>
      cases n with
      | zero =>
        simp only [List.getElem?_cons_zero, Option.some.injEq] at hn
        subst hn
        rw [List.take_zero, List.foldl_nil, hstep]
      | succ n =>
        rw [List.getElem?_cons_succ] at hn
        rw [List.take_succ_cons, List.foldl_cons, hstep]
        exact ih (congrArg Prod.fst hrest) hn

theorem Accepts.validateBlockTx {req : FinalizeBlockRequest} (h : s.Accepts req) {n : Nat}
    {tx : Bytes} (hn : req.txs[n]? = some tx) :
    (s.validateBlockTx (s.rules req.height) req.time req.height req.misbehavior tx
      (s.overlayAt req n)).1 = .ok true :=
  s.validateTxs_eq_ok h hn

theorem Accepts.passes_body {req : FinalizeBlockRequest} (h : s.Accepts req) {tx : Bytes}
    (htx : tx ∈ req.txs) {stx : SignedTransaction} {body : TxBody}
    (hdecode : s.ext.unmarshalSigned tx = some stx) (hbody : stx.transaction = some body)
    (hother : ∀ em, body ≠ .manageEntity em) :
    s.validateBody (s.rules req.height) req.time req.height req.misbehavior stx body =
      .ok true := by
  obtain ⟨n, hn⟩ := List.mem_iff_getElem?.mp htx
  have hvalid := h.validateBlockTx (s := s) hn
  unfold Server.validateBlockTx at hvalid
  simp only [hdecode, hbody] at hvalid
  cases body with
  | manageEntity em => exact absurd rfl (hother em)
  | _ => exact hvalid

/-! ### Runs -/

/-- A block of a run: the request, and what the node's other goroutines have in memory when it
votes on the block and when it executes it. -/
structure Block where
  req : FinalizeBlockRequest
  voting : Cache
  executing : Cache

def on (db : Db) (cache : Cache) : Server := { s with committed := db, cache := cache }

def voter (db : Db) (b : Block) : Server := s.on db b.voting

def executor (db : Db) (b : Block) : Server := s.on db b.executing

/-- The database after a run of blocks, if every one of them is committed. -/
def commitAll : Db → List Block → Option Db
  | db, [] => some db
  | db, b :: bs => ((s.executor db b).commitBlock b.req).bind fun db' => commitAll db' bs

/-- `P` holds of every block of the run and the database it meets. -/
def EachBlock (P : Db → Block → Prop) : Db → List Block → Prop
  | _, [] => True
  | db, b :: bs =>
    P db b ∧ ∀ db', (s.executor db b).commitBlock b.req = some db' → EachBlock P db' bs

instance decidableEachBlock {P : Db → Block → Prop} [∀ db b, Decidable (P db b)] :
    ∀ db bs, Decidable (s.EachBlock P db bs)
  | _, [] => isTrue trivial
  | db, b :: bs =>
    have := fun db' => decidableEachBlock (P := P) db' bs
    inferInstanceAs (Decidable (P db b ∧
      ∀ db' ∈ (s.executor db b).commitBlock b.req, s.EachBlock P db' bs))

/-- The views of a block: before its first transaction and after each of them. -/
def blockViews (db : Db) (b : Block) : List Db :=
  (List.range (b.req.txs.length + 1)).map fun n => ((s.executor db b).progress b.req n).txn.view

def views : Db → List Block → List Db
  | _, [] => []
  | db, b :: bs =>
    s.blockViews db b ++ match (s.executor db b).commitBlock b.req with
      | some db' => views db' bs
      | none => []

/-- A transaction of a run, where it is executed. -/
structure Execution where
  node : Server
  req : FinalizeBlockRequest
  index : Nat
  tx : Bytes
  before : Txn Db

def Execution.after (e : Execution) : Txn Db := (e.node.executeTx e.req e.index e.tx e.before).2

def Execution.code (e : Execution) : TxCode := (e.node.txOutcome e.req e.index e.tx e.before).1

def executions : Db → List Block → List Execution
  | _, [] => []
  | db, b :: bs =>
    (b.req.txs.zipIdx.map fun (tx, n) =>
      ⟨s.executor db b, b.req, n, tx, ((s.executor db b).progress b.req n).txn⟩) ++
    match (s.executor db b).commitBlock b.req with
      | some db' => executions db' bs
      | none => []

variable {s} {P Q : Db → Block → Prop}

theorem EachBlock.mono (h : ∀ db b, P db b → Q db b) {bs : List Block} {db : Db}
    (hrun : s.EachBlock P db bs) : s.EachBlock Q db bs := by
  induction bs generalizing db with
  | nil => trivial
  | cons b bs ih =>
    obtain ⟨hb, hrest⟩ := hrun
    exact ⟨h db b hb, fun db' hdb' => ih (hrest db' hdb')⟩

end Server

end OpenAudio.Core
