import OpenAudio.Core.Abci.Blocks

/-!
# What execution reads of a node

Two nodes with the same committed database and configuration may differ in what their other
goroutines keep in memory. Executing a block reads that memory in one place: a transaction of the
second version is compared with the cached height before its finalization is.
-/

namespace OpenAudio.Core

open Prog

namespace Server

variable (s : Server) (cache : Cache) (mempool : List MempoolTransaction) (newUUID : Nat → String)

def withMemory : Server := { s with cache := cache, mempool := mempool, newUUID := newUUID }

@[simp] theorem withMemory_ext : (s.withMemory cache mempool newUUID).ext = s.ext := rfl

/-! ### Finalizers read no memory -/

theorem collectConsensus_withMemory (proof : Bytes) (proofs : List (PgText × StorageProofRow)) :
    (s.withMemory cache mempool newUUID).collectConsensus proof proofs =
      s.collectConsensus proof proofs := by
  induction proofs with
  | nil => rfl
  | cons p rest ih =>
    rw [collectConsensus, collectConsensus, ih]
    rfl

theorem finalizeStorageProofVerification_withMemory (spv : StorageProofVerification)
    (height : Int) :
    (s.withMemory cache mempool newUUID).finalizeStorageProofVerification spv height =
      s.finalizeStorageProofVerification spv height := by
  have hsettle : (s.withMemory cache mempool newUUID).settleChallenge spv =
      s.settleChallenge spv := by
    funext proofs
    unfold settleChallenge
    rw [s.collectConsensus_withMemory]
    rfl
  unfold finalizeStorageProofVerification
  rw [hsettle]
  rfl

theorem finalizeTransaction_withMemory (req : FinalizeBlockRequest) (stx : SignedTransaction)
    (txHash : String) :
    (s.withMemory cache mempool newUUID).finalizeTransaction req stx txHash =
      s.finalizeTransaction req stx txHash := by
  unfold finalizeTransaction
  simp only [s.finalizeStorageProofVerification_withMemory]
  rfl

theorem executeSigned_withMemory (req : FinalizeBlockRequest) (index : Nat) (tx : Bytes)
    (stx : SignedTransaction) :
    (s.withMemory cache mempool newUUID).executeSigned req index tx stx =
      s.executeSigned req index tx stx := by
  unfold executeSigned
  simp only [s.finalizeTransaction_withMemory]
  rfl

theorem finalizeV2Messages_withMemory (req : FinalizeBlockRequest) (txhash sender : String)
    (messages : List V2Message) (i : Int) :
    (s.withMemory cache mempool newUUID).finalizeV2Messages req txhash sender messages i =
      s.finalizeV2Messages req txhash sender messages i := by
  induction messages generalizing i with
  | nil => rfl
  | cons msg rest ih =>
    unfold finalizeV2Messages
    rw [ih]
    rfl

theorem executeV2_withMemory (req : FinalizeBlockRequest) (index : Nat) (tx : Bytes)
    (envelope : Envelope) (header : EnvelopeHeader) :
    (s.withMemory cache mempool newUUID).executeV2 req index tx envelope header =
      s.executeV2 req index tx envelope header := by
  unfold executeV2 finalizeV2Transaction
  simp only [s.finalizeV2Messages_withMemory]
  rfl

/-! ### The one decision that does -/

/-- The bytes are no transaction: neither a signed one nor, by the cached height, a live one of the
second version. -/
def isInvalid (tx : Bytes) : Bool :=
  (s.ext.unmarshalSigned tx).isNone && !(s.isValidV2Transaction tx).isOk

theorem code_executeSigned {req : FinalizeBlockRequest} {index : Nat} {tx : Bytes}
    {stx : SignedTransaction} {t t' : Txn Db} {r : TxCode × UpdateEffect}
    (h : s.executeSigned req index tx stx t = (.ok r, t')) : r.1 ≠ .invalid := by
  unfold executeSigned at h
  obtain ⟨emit, _, -, h⟩ := bind_eq_ok h
  obtain ⟨outcome, _, -, h⟩ := bind_eq_ok h
  obtain ⟨effect, _, -, h⟩ := bind_eq_ok h
  obtain ⟨_, _, -, h⟩ := bind_eq_ok h
  obtain ⟨_, _, -, h⟩ := bind_eq_ok h
  cases h
  cases outcome <;> simp [Except.isOk, Except.toBool]

theorem code_executeV2 {req : FinalizeBlockRequest} {index : Nat} {tx : Bytes}
    {envelope : Envelope} {header : EnvelopeHeader} {t t' : Txn Db} {r : TxCode × UpdateEffect}
    (h : s.executeV2 req index tx envelope header t = (.ok r, t')) : r.1 ≠ .invalid := by
  unfold executeV2 at h
  obtain ⟨outcome, _, -, h⟩ := bind_eq_ok h
  obtain ⟨_, _, -, h⟩ := bind_eq_ok h
  cases h
  cases outcome <;> simp [Except.isOk, Except.toBool]

theorem code_txOutcome (req : FinalizeBlockRequest) (index : Nat) (tx : Bytes) (t : Txn Db) :
    decide ((s.txOutcome req index tx t).1 = .invalid) = s.isInvalid tx := by
  have h := s.executeTx_eq req index tx t
  generalize s.txOutcome req index tx t = r at h
  unfold executeTx at h
  unfold isInvalid
  cases hsigned : s.ext.unmarshalSigned tx with
  | some stx =>
    simp only [hsigned] at h
    simpa using s.code_executeSigned h
  | none =>
    simp only [hsigned] at h
    cases hv2 : s.isValidV2Transaction tx with
    | error e =>
      simp only [hv2, pure_apply, Prod.mk.injEq, Except.ok.injEq] at h
      simp [← h.1, Except.isOk, Except.toBool]
    | ok r' =>
      simp only [hv2] at h
      simpa [Except.isOk, Except.toBool] using s.code_executeV2 h

theorem map_codes_foldl (req : FinalizeBlockRequest) (txs : List Bytes) (p : Progress) :
    (txs.foldl (s.advance req) p).codes.map (fun c => decide (c = .invalid)) =
      p.codes.map (fun c => decide (c = .invalid)) ++ txs.map s.isInvalid := by
  induction txs generalizing p with
  | nil => simp
  | cons tx txs ih =>
    rw [List.foldl_cons, ih]
    simp [advance, ← s.code_txOutcome req p.codes.length tx p.txn]

end Server

/-! ### Two nodes -/

/-- The outcomes of a block that consensus compares: the codes, the Postgres transaction and the
set of validator updates. -/
def SameResults (a b : Server.FinalizedBlock) : Prop :=
  a.txResults = b.txResults ∧ a.txn = b.txn ∧
    ∀ address, a.validatorUpdates.lookup address = b.validatorUpdates.lookup address

namespace Server

variable (s : Server) {cache₁ cache₂ : Cache} {mempool₁ mempool₂ : List MempoolTransaction}
  {uuid₁ uuid₂ : Nat → String}

/-- Neither cached height or both say that the transaction, if it is one of the second version for
this chain, has expired. -/
def SameExpiry (height₁ height₂ : Int) (tx : Bytes) : Prop :=
  s.ext.unmarshalSigned tx = none → ∀ msg envelope header, s.ext.unmarshalV2 tx = some msg →
    msg.envelope = some envelope → envelope.header = some header →
    header.chainId = s.config.chainID →
    (header.expiration < height₁ ↔ header.expiration < height₂)

theorem isValidV2Transaction_withMemory {tx : Bytes} (hsigned : s.ext.unmarshalSigned tx = none)
    (h : s.SameExpiry cache₁.currentHeight cache₂.currentHeight tx)
    {r : V2Transaction × Envelope × EnvelopeHeader}
    (hr : (s.withMemory cache₁ mempool₁ uuid₁).isValidV2Transaction tx = .ok r) :
    (s.withMemory cache₂ mempool₂ uuid₂).isValidV2Transaction tx = .ok r := by
  obtain ⟨hmsg, henv, hheader, hchain, hexp⟩ := (isValidV2Transaction_eq_ok _).mp hr
  exact (isValidV2Transaction_eq_ok _).mpr ⟨hmsg, henv, hheader, hchain,
    mt (h hsigned _ _ _ hmsg henv hheader hchain).mpr hexp⟩

theorem sameExpiry_comm {height₁ height₂ : Int} {tx : Bytes} (h : s.SameExpiry height₁ height₂ tx) :
    s.SameExpiry height₂ height₁ tx :=
  fun hsigned msg envelope header hm he hh hc => (h hsigned msg envelope header hm he hh hc).symm

theorem executeTx_withMemory {tx : Bytes}
    (h : s.SameExpiry cache₁.currentHeight cache₂.currentHeight tx) (req : FinalizeBlockRequest)
    (index : Nat) :
    (s.withMemory cache₁ mempool₁ uuid₁).executeTx req index tx =
      (s.withMemory cache₂ mempool₂ uuid₂).executeTx req index tx := by
  unfold executeTx
  simp only [withMemory_ext]
  cases hsigned : s.ext.unmarshalSigned tx with
  | some stx => simp only [s.executeSigned_withMemory]
  | none =>
    cases h₁ : (s.withMemory cache₁ mempool₁ uuid₁).isValidV2Transaction tx with
    | ok r =>
      have h₂ : (s.withMemory cache₂ mempool₂ uuid₂).isValidV2Transaction tx = .ok r :=
        s.isValidV2Transaction_withMemory hsigned h h₁
      simp only [h₂, s.executeV2_withMemory]
    | error e₁ =>
      cases h₂ : (s.withMemory cache₂ mempool₂ uuid₂).isValidV2Transaction tx with
      | error e₂ => rfl
      | ok r =>
        have h₁' : (s.withMemory cache₁ mempool₁ uuid₁).isValidV2Transaction tx = .ok r :=
          s.isValidV2Transaction_withMemory hsigned (s.sameExpiry_comm h) h₂
        rw [h₁] at h₁'
        cases h₁'

/-- Where the cached heights disagree on the expiry of a transaction, it is one for one node and
none for the other. -/
theorem sameExpiry_of_isInvalid_eq {tx : Bytes}
    (h : (s.withMemory cache₁ mempool₁ uuid₁).isInvalid tx =
      (s.withMemory cache₂ mempool₂ uuid₂).isInvalid tx) :
    s.SameExpiry cache₁.currentHeight cache₂.currentHeight tx := by
  intro hsigned msg envelope header hmsg henv hheader hchain
  have hvalid : ∀ (cache : Cache) (mempool : List MempoolTransaction) (uuid : Nat → String),
      (s.withMemory cache mempool uuid).isInvalid tx = true ↔
        header.expiration < cache.currentHeight := by
    intro cache mempool uuid
    have hnone : ((s.withMemory cache mempool uuid).ext.unmarshalSigned tx).isNone = true := by
      rw [Option.isNone_iff_eq_none]
      exact hsigned
    rw [isInvalid, hnone, Bool.true_and, Bool.not_eq_true']
    cases hr : (s.withMemory cache mempool uuid).isValidV2Transaction tx with
    | ok r =>
      obtain ⟨hmsg', henv', hheader', -, hexp⟩ := (isValidV2Transaction_eq_ok _).mp hr
      have hm : msg = r.1 := Option.some.inj (hmsg.symm.trans hmsg')
      have he : envelope = r.2.1 := Option.some.inj (henv.symm.trans (hm ▸ henv'))
      have hh : header = r.2.2 := Option.some.inj (hheader.symm.trans (he ▸ hheader'))
      simp only [Except.isOk, Except.toBool, Bool.true_eq_false, false_iff, hh]
      exact hexp
    | error e =>
      simp only [Except.isOk, Except.toBool, true_iff]
      by_contra hexp
      have hok := (isValidV2Transaction_eq_ok (s.withMemory cache mempool uuid)
        (r := (msg, envelope, header))).mpr ⟨hmsg, henv, hheader, hchain, hexp⟩
      rw [hr] at hok
      cases hok
  rw [← hvalid cache₁ mempool₁ uuid₁, ← hvalid cache₂ mempool₂ uuid₂, h]

theorem progress_withMemory {req : FinalizeBlockRequest}
    (h : ∀ tx ∈ req.txs, s.SameExpiry cache₁.currentHeight cache₂.currentHeight tx) (n : Nat) :
    (s.withMemory cache₁ mempool₁ uuid₁).progress req n =
      (s.withMemory cache₂ mempool₂ uuid₂).progress req n := by
  induction n with
  | zero => rfl
  | succ n ih =>
    cases htx : req.txs[n]? with
    | none =>
      have hall : req.txs.take (n + 1) = req.txs.take n := by
        rw [List.take_add_one, htx, Option.toList_none, List.append_nil]
      rw [progress, progress, hall]
      exact ih
    | some tx =>
      have hstep : ∀ index, (s.withMemory cache₁ mempool₁ uuid₁).executeTx req index tx =
          (s.withMemory cache₂ mempool₂ uuid₂).executeTx req index tx :=
        s.executeTx_withMemory (h tx (List.mem_of_getElem? htx)) req
      rw [progress_succ _ req htx, progress_succ _ req htx, ih]
      unfold advance txOutcome
      simp only [hstep]

/-- Two nodes that differ only in their memory have the same results of a block exactly when their
cached heights agree on the expiry of every transaction of the second version in it. -/
theorem sameResults_iff_sameExpiry (req : FinalizeBlockRequest) :
    SameResults ((s.withMemory cache₁ mempool₁ uuid₁).finalizeBlock req)
        ((s.withMemory cache₂ mempool₂ uuid₂).finalizeBlock req) ↔
      ∀ tx ∈ req.txs, s.SameExpiry cache₁.currentHeight cache₂.currentHeight tx := by
  constructor
  · rintro ⟨hcodes, -, -⟩ tx htx
    rw [txResults_finalizeBlock, txResults_finalizeBlock] at hcodes
    have hmap := congrArg (List.map fun c => decide (c = TxCode.invalid)) hcodes
    rw [progress, progress, List.take_length, map_codes_foldl, map_codes_foldl] at hmap
    exact s.sameExpiry_of_isInvalid_eq (List.map_inj_left.mp hmap tx htx)
  · intro h
    have hend : (s.withMemory cache₁ mempool₁ uuid₁).progress req req.txs.length =
        (s.withMemory cache₂ mempool₂ uuid₂).progress req req.txs.length :=
      s.progress_withMemory h req.txs.length
    refine ⟨?_, ?_, fun address => ?_⟩
    · rw [txResults_finalizeBlock, txResults_finalizeBlock, hend]
    · rw [txn_finalizeBlock, txn_finalizeBlock, hend]
      rfl
    · rw [validatorUpdates_finalizeBlock, validatorUpdates_finalizeBlock, hend]

def expiringTx : Bytes := bigEndian 25 0x12170a150a106f70656e617564696f2d6465766e657410ac02

def expiringHeader : EnvelopeHeader := { chainId := "openaudio-devnet", expiration := 300 }

def expiringNode : Server :=
  .devnet
    { unmarshalV2 := [(expiringTx, { envelope := some { header := some expiringHeader } })]
      sha256 := [(expiringTx, Externals.digest
        0x853fa6fff5e9d0953b5648e4396f78c50076e0a2333738a16af97e6e2f75e08a)] }
    Db.empty

def expiringBlock : FinalizeBlockRequest where
  txs := [expiringTx]
  misbehavior := []
  hash := bigEndian 32 1
  height := 300
  time := { seconds := 1700000000 }
  proposerAddress := bigEndian 20 2

/-- A node whose cached height is still 299 executes the transaction; for one whose cached height is
301 it is no transaction. -/
theorem results_depend_on_cachedHeight :
    ((expiringNode.withMemory ⟨299, false⟩ [] fun _ => "").finalizeBlock expiringBlock).txResults =
        [.ok] ∧
      ((expiringNode.withMemory ⟨301, false⟩ [] fun _ => "").finalizeBlock expiringBlock).txResults =
        [.invalid] ∧
      ¬ SameResults ((expiringNode.withMemory ⟨299, false⟩ [] fun _ => "").finalizeBlock expiringBlock)
        ((expiringNode.withMemory ⟨301, false⟩ [] fun _ => "").finalizeBlock expiringBlock) := by
  have hlate : ((expiringNode.withMemory ⟨299, false⟩ [] fun _ => "").finalizeBlock
      expiringBlock).txResults = [.ok] := by decide
  have hearly : ((expiringNode.withMemory ⟨301, false⟩ [] fun _ => "").finalizeBlock
      expiringBlock).txResults = [.invalid] := by decide
  refine ⟨hlate, hearly, fun h => ?_⟩
  have hcodes := h.1
  rw [hlate, hearly] at hcodes
  cases hcodes

end Server

end OpenAudio.Core
