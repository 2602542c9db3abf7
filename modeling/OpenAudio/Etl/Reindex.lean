import OpenAudio.Etl.Blocks

/-!
# Transactions that stop their block

Each transaction of a block is indexed in a savepoint of its own. A statement that fails on the
block's own transaction stops the block, and nothing of it is committed.
-/

namespace OpenAudio.Etl

open OpenAudio.Core Prog

/-! ### Transactions that stop their block -/

section Transactions

variable {σ : Type} {ix : Indexing σ} {b : EtlBlock}

theorem orRollback_of_error {row : InsertTx} {q : Stmt (EtlTables σ) Unit}
    {txn : Txn (EtlTables σ)} {e : PgError} (h : q txn.view = .error e) :
    ∃ txn', orRollback row q txn = (.error (.rolledBack row), txn') := by
  unfold orRollback mapError Txn.exec
  split
  · exact ⟨_, rfl⟩
  · rw [h]
    exact ⟨_, rfl⟩

theorem orRollback_bind_of_error {α : Type} {row : InsertTx} {q : Stmt (EtlTables σ) Unit}
    {f : Unit → TxProg σ α} {txn : Txn (EtlTables σ)} {e : PgError} (h : q txn.view = .error e) :
    ∃ txn', (orRollback row q >>= f) txn = (.error (.rolledBack row), txn') := by
  obtain ⟨txn', hrun⟩ := orRollback_of_error h
  exact ⟨txn', bind_of_error hrun⟩

end Transactions

/-! ### The transactions of a block -/

section Loop

variable {σ : Type} {ix : Indexing σ} {b : EtlBlock}

theorem insertTransaction_of_nulFree {p : InsertTx} (h : ∀ a, p.address = some a → NulFree a)
    (d : EtlTables σ) : ∃ d', insertTransaction p d = .ok ((), d') := by
  obtain ⟨address, hbind⟩ : ∃ address, p.address.mapM PgText.ofString = .ok address := by
    cases ha : p.address with
    | none => exact ⟨none, rfl⟩
    | some a =>
      refine ⟨some ⟨a, h a ha⟩, ?_⟩
      rw [Option.mapM_some, PgText.ofString_of_nulFree (h a ha)]
      rfl
  rw [insertTransaction, hbind]
  exact ⟨_, rfl⟩

theorem indexTxNested_aborted {emBlock : Int} {t : BlockTx} {index : Nat} {txn : Txn (EtlTables σ)}
    (h : txn.aborted = true) :
    indexTxNested ix b emBlock t index txn = (.error .savepoint, txn) := if_pos h

/-- The transactions of a block, each in its savepoint. -/
abbrev indexTxs (ix : Indexing σ) (b : EtlBlock) (emBlock : Int) (ts : List (BlockTx × Nat)) :
    EtlProg σ Unit := forEach ts fun t => indexTxNested ix b emBlock t.1 t.2

end Loop

/-! ### A block indexed twice -/

abbrev AggregatePlays := Option (Table Int Int)

def playCountReconcile (rt : GoRuntime) (e : EntityTx) :
    Prog (Txn AggregatePlays) DispatchError Unit :=
  match (newParams e.tx).metadataInt64 rt "delta" with
  | none => fail (.handler (.validation "delta is required for PlayCount/Reconcile"))
  | some delta => mapError (fun e => .handler (.query e)) (Txn.exec fun aggregate =>
      .ok ((), aggregate.map fun t =>
        t.insert e.tx.entityId ((t.lookup e.tx.entityId).elim delta (· + delta))))

def playCountIndexing : Indexing AggregatePlays where
  chainId := ⟨"audius", by decide⟩
  dispatcher e := if e.tx.entityType = "PlayCount" ∧ e.tx.action = "Reconcile" then
    playCountReconcile .amd64 e else fail .noHandler
  migrationDispatcher _ := fail .noHandler
  migrationBlockTime _ time := time
  slaRates _ _ _ := (0, 0)

def emptyTables : EtlTables AggregatePlays where
  etlBlocks := []
  blocks := ∅
  coreIndexedBlocks := ∅
  transactions := ∅
  addresses := []
  plays := []
  manageEntities := []
  validatorRegistrations := []
  validatorDeregistrations := []
  misbehaviorDeregistrations := []
  validators := ∅
  slaRollups := []
  slaNodeReports := []
  storageProofs := []
  storageProofVerifications := []
  entities := some ∅

end OpenAudio.Etl
