import Mathlib.Data.List.MinMax
import OpenAudio.Core.Abci.Blocks

/-!
# The readers of a block

Two functions turn the rows of a left join of a block with its transactions into the block that
clients see. `blocksFromRows` reads a transaction from every row that has one. `GetBlock` reads the
block from the first row and transactions from the others, as if the first row had none; what it
returns is published to the subscribers of the block stream.
-/

namespace OpenAudio.Core

namespace Server

/-! ### A run with a rollup -/

def rollupTx : Bytes := bigEndian 40 0xd23e380a060890e2cfaa06180f222c0a283030303030303030303030303030303030303030303030 ++
    bigEndian 19 0x30303030303030303030303030303030321001

def auditedProposer : PgText := ⟨upperHex (bigEndian 20 2), nulFree_upperHex _⟩

def auditedNode : Server :=
  .devnet
    { sha256 := [(rollupTx, Externals.digest 0x4e4018c26aac4bb80ea41183fada9e1b054e589e22178768ed75cfb27b31db47),
        ([], Externals.digest 0xe3b0c44298fc1c149afbf4c8996fb92427ae41e4649b934ca495991b7852b855)]
      unmarshalSigned := [(rollupTx, { transaction := some (.slaRollup
        { timestamp := { seconds := 1700000016 }
          blockStart := 0
          blockEnd := 15
          reports := [{ address := auditedProposer.val, numBlocksProposed := 1 }] }) })] }
    Db.empty

def auditedDb : Db :=
  { Db.empty with
    validators := [{ firstNode with cometAddress := auditedProposer }] }

def auditedBlock (height : Int) (txs : List Bytes) : Block where
  req :=
    { txs := txs
      misbehavior := []
      hash := bigEndian 32 1
      height := height
      time := { seconds := 1700000000 + height }
      proposerAddress := bigEndian 20 2 }
  voting := ⟨height - 1, false⟩
  executing := ⟨height - 1, false⟩

def auditedRun : List Block := [auditedBlock 15 [], auditedBlock 16 [rollupTx]]

end Server

/-! ### The rows -/

/-- The columns of `core_transactions` in a row of the join. -/
structure TransactionColumns where
  index : Int
  txHash : String
  transaction : Bytes
  createdAt : Int
deriving DecidableEq

/-- `GetBlockWithTransactionsRow` and `GetBlocksWithTransactionsRow`; without a match the columns of
the transaction are NULL. -/
structure BlockWithTransactionsRow where
  height : Int
  chainID : String
  blockHash : String
  proposer : String
  blockCreatedAt : Int
  tx : Option TransactionColumns
deriving DecidableEq

namespace Db

variable (db : Db)

/-- The block rows at a height: one for each chain id. -/
def blocksAt (height : Int) : List (PgText × BlockRow) :=
  (db.chain.blocks.entries.filter fun e => e.1.1 == height).map fun e => (e.1.2, e.2)

/-- The transactions of the block at a height, in index order. -/
def transactionsAt (height : Int) : List TransactionColumns :=
  ((db.chain.transactions.entries.filter fun e => e.1.1 == height).map fun e =>
    (⟨e.1.2, e.2.txHash.val, e.2.transaction, e.2.createdAt⟩ : TransactionColumns)).insertionSort
      fun t t' => t.index ≤ t'.index

/-- The rows of the left join at a height. -/
def joinAt (height : Int) : List BlockWithTransactionsRow :=
  (db.blocksAt height).flatMap fun (chainId, b) =>
    match db.transactionsAt height with
    | [] => [⟨height, chainId.val, b.hash.val, b.proposer.val, b.createdAt, none⟩]
    | txs => txs.map fun tx =>
      ⟨height, chainId.val, b.hash.val, b.proposer.val, b.createdAt, some tx⟩

/-- The order of the result: by index, and rows without one at the end. -/
def RowLe (r r' : BlockWithTransactionsRow) : Prop :=
  match r.tx, r'.tx with
  | some t, some t' => t.index ≤ t'.index
  | none, some _ => False
  | _, none => True

instance : DecidableRel RowLe := fun r r' => by
  unfold RowLe
  split <;> infer_instance

/-- What `GetBlockWithTransactions` may return: the rows of the join in an order by index. -/
def MayReturn (height : Int) (rows : List BlockWithTransactionsRow) : Prop :=
  rows.Perm (db.joinAt height) ∧ rows.Pairwise RowLe

def getBlockWithTransactions (height : Int) : List BlockWithTransactionsRow :=
  (db.joinAt height).insertionSort RowLe

end Db

/-! ### The readers -/

/-- `v1.Transaction` -/
structure Transaction where
  hash : String
  blockHash : String
  chainId : String
  height : Int
  timestamp : Int
  transaction : Option SignedTransaction
  transactionv2 : Option V2Transaction := none

/-- `v1.Block` -/
structure BlockResponse where
  hash : String
  chainId : String
  proposer : String
  height : Int
  transactions : List Transaction := []
  timestamp : Int

/-- The microseconds of the zero `time.Time`, which a NULL timestamp reads as. -/
def zeroTime : Int := -62135596800000000

namespace Server

variable (s : Server) (sortTransactionResponse : List Transaction → List Transaction)

/-- A row that `GetBlock` reads as a transaction. -/
def transactionOfRow (dbBlock dbTx : BlockWithTransactionsRow) : Except String Transaction :=
  let txHash := dbTx.tx.elim "" (·.txHash)
  let bytes := dbTx.tx.elim [] (·.transaction)
  let tx : Transaction :=
    { hash := txHash
      blockHash := dbBlock.blockHash
      chainId := dbBlock.chainID
      height := dbBlock.height
      timestamp := dbTx.tx.elim zeroTime (·.createdAt)
      transaction := some {}
      transactionv2 := some {} }
  match s.ext.unmarshalSigned bytes with
  | some stx => .ok { tx with transaction := some stx }
  | none =>
    match s.ext.unmarshalV2 bytes with
    | some v2 => .ok { tx with transactionv2 := some v2 }
    | none => .error ("invalid transaction: " ++ txHash)

/-- The block of a row, under a chain id and without transactions. -/
def blockOfRow (chainID : String) (row : BlockWithTransactionsRow) : BlockResponse where
  hash := row.blockHash
  chainId := chainID
  proposer := row.proposer
  height := row.height
  timestamp := row.blockCreatedAt

/-- `GetBlock`, from the rows of its query on. -/
def getBlock (rows : List BlockWithTransactionsRow) (canon : Bool) : Except String BlockResponse :=
  match rows with
  | [] => .error "block not found"
  | dbBlock :: rest =>
    let block := blockOfRow dbBlock.chainID dbBlock
    if rest = [] then .ok block
    else do
      let txs ← rest.mapM (s.transactionOfRow dbBlock)
      return { block with transactions := if canon then txs else sortTransactionResponse txs }

/-- One row of `blocksFromRows`. -/
def addRow (chainID : String) (blocks : Table Int BlockResponse) (row : BlockWithTransactionsRow) :
    Except String (Table Int BlockResponse) :=
  let blocks := blocks.insertNew row.height (blockOfRow chainID row)
  match row.tx with
  | none => .ok blocks
  | some tx =>
    if tx.transaction = [] then .ok blocks
    else match s.ext.unmarshalSigned tx.transaction with
      | none => .error "error unmarshaling transaction"
      | some stx => .ok (blocks.update row.height fun b => { b with
          transactions := b.transactions ++
            [{ hash := tx.txHash
               blockHash := row.blockHash
               chainId := chainID
               height := row.height
               timestamp := row.blockCreatedAt
               transaction := some stx }] })

def blocksFromRows (rows : List BlockWithTransactionsRow) (chainID : String) (canon : Bool) :
    Except String (Table Int BlockResponse) := do
  let blocks ← rows.foldlM (s.addRow chainID) ∅
  if canon then return blocks
  else return blocks.keys.foldl (fun blocks height => blocks.update height fun b =>
    { b with transactions := sortTransactionResponse b.transactions }) blocks

end Server

/-! ### The rows of a height -/

namespace Db

variable {db : Db} {height : Int}

theorem mayReturn_getBlockWithTransactions (db : Db) (height : Int) :
    db.MayReturn height (db.getBlockWithTransactions height) := by
  have htotal : Std.Total RowLe := ⟨fun r r' => by
    unfold RowLe
    cases r.tx with
    | none => cases r'.tx <;> simp
    | some t =>
      cases r'.tx with
      | none => simp
      | some t' => exact le_total t.index t'.index⟩
  have htrans : IsTrans _ RowLe := ⟨fun a b c hab hbc => by
    unfold RowLe at *
    cases ha : a.tx <;> cases hb : b.tx <;> cases hc : c.tx <;> simp_all
    omega⟩
  exact ⟨List.perm_insertionSort _ _, List.pairwise_insertionSort _ _⟩

theorem length_joinAt (db : Db) (height : Int) :
    (db.joinAt height).length =
      (db.blocksAt height).length * max 1 (db.transactionsAt height).length := by
  unfold joinAt
  rw [List.length_flatMap]
  cases htxs : db.transactionsAt height with
  | nil => simp
  | cons tx txs => simp

theorem mem_joinAt {row : BlockWithTransactionsRow} (h : row ∈ db.joinAt height) :
    row.height = height ∧ (db.transactionsAt height = [] ∧ row.tx = none ∨
      ∃ tx ∈ db.transactionsAt height, row.tx = some tx) := by
  unfold joinAt at h
  obtain ⟨⟨chainId, b⟩, -, hrow⟩ := List.mem_flatMap.mp h
  cases htxs : db.transactionsAt height with
  | nil =>
    rw [htxs] at hrow
    obtain rfl := List.mem_singleton.mp hrow
    exact ⟨rfl, .inl ⟨rfl, rfl⟩⟩
  | cons tx txs =>
    rw [htxs] at hrow
    obtain ⟨tx', htx', rfl⟩ := List.mem_map.mp hrow
    exact ⟨rfl, .inr ⟨tx', htx', rfl⟩⟩

end Db

namespace Server

variable {s : Server} {sortTransactionResponse : List Transaction → List Transaction}

/-! ### What the readers return -/

/-- A transaction as it is returned shows the columns of a row. -/
def Shows (s : Server) (columns : TransactionColumns) (tx : Transaction) : Prop :=
  tx.hash = columns.txHash ∧
    match s.ext.unmarshalSigned columns.transaction with
    | some stx => tx.transaction = some stx
    | none => tx.transactionv2 = s.ext.unmarshalV2 columns.transaction

theorem getBlock_eq_ok {dbBlock : BlockWithTransactionsRow} {rest : List BlockWithTransactionsRow}
    {block : BlockResponse}
    (h : s.getBlock sortTransactionResponse (dbBlock :: rest) true = .ok block) :
    List.Forall₂ (fun row tx => s.transactionOfRow dbBlock row = .ok tx) rest block.transactions := by
  unfold getBlock at h
  dsimp only at h
  split at h
  · rename_i hrest
    cases h
    rw [hrest]
    exact .nil
  · obtain ⟨txs, htxs, h⟩ := except_bind_eq_ok.mp h
    cases h
    exact except_mapM_eq_ok.mp htxs

theorem addRow_eq_ok {chainID : String} {blocks blocks' : Table Int BlockResponse}
    {row : BlockWithTransactionsRow} (h : s.addRow chainID blocks row = .ok blocks') :
    ((blocks'.lookup row.height).elim 0 fun b => b.transactions.length) =
      ((blocks.lookup row.height).elim 0 fun b => b.transactions.length) +
        if (row.tx.any fun tx => tx.transaction ≠ []) then 1 else 0 := by
  unfold addRow at h
  dsimp only at h
  have hbase : (blocks.insertNew row.height (blockOfRow chainID row)).lookup row.height =
      some ((blocks.lookup row.height).getD (blockOfRow chainID row)) := by
    rw [Table.lookup_insertNew, if_pos rfl]
  have hlength : ((blocks.lookup row.height).getD (blockOfRow chainID row)).transactions.length =
      (blocks.lookup row.height).elim 0 fun b => b.transactions.length := by
    cases blocks.lookup row.height with
    | none => rfl
    | some b => rfl
  split at h
  · rename_i htx
    cases h
    simp [hbase, hlength, htx]
  · rename_i tx htx
    split at h
    · rename_i hbytes
      cases h
      simp [hbase, hlength, htx, hbytes]
    · rename_i hbytes
      split at h
      · cases h
      · cases h
        rw [Table.lookup_update, if_pos rfl, hbase]
        simp [hlength, htx, hbytes]

theorem foldlM_addRow {chainID : String} {height : Int} {rows : List BlockWithTransactionsRow}
    (hrows : ∀ row ∈ rows, row.height = height) {blocks blocks' : Table Int BlockResponse}
    (h : rows.foldlM (s.addRow chainID) blocks = .ok blocks') {b' : BlockResponse}
    (hb' : blocks'.lookup height = some b') :
    b'.transactions.length = ((blocks.lookup height).elim 0 fun b => b.transactions.length) +
      rows.countP fun row => row.tx.any fun tx => tx.transaction ≠ [] := by
  induction rows generalizing blocks with
  | nil =>
    cases h
    rw [hb']
    simp
  | cons row rows ih =>
    rw [List.foldlM_cons] at h
    obtain ⟨blocks₁, hrow, h⟩ := except_bind_eq_ok.mp h
    rw [List.forall_mem_cons] at hrows
    obtain ⟨rfl, hrows⟩ := hrows
    rw [ih hrows h, List.countP_cons]
    rw [addRow_eq_ok hrow]
    omega

/-! ### Agreement -/

/-- `GetBlock` returns every transaction of the block once, in index order, and agrees with
`blocksFromRows` on the same rows, transaction by transaction. -/
def ReadsBlock (s : Server) (sortTransactionResponse : List Transaction → List Transaction)
    (db : Db) (height : Int) (rows : List BlockWithTransactionsRow) : Prop :=
  ∃ block blocks b, s.getBlock sortTransactionResponse rows true = .ok block ∧
    s.blocksFromRows sortTransactionResponse rows s.config.chainID true = .ok blocks ∧
    blocks.lookup height = some b ∧
    List.Forall₂ s.Shows (db.transactionsAt height) block.transactions ∧
    b.transactions.map (fun tx => (tx.hash, tx.transaction)) =
      block.transactions.map fun tx => (tx.hash, tx.transaction)

/-- A block is read well exactly if it has no transaction and its row is the only one at its
height. -/
theorem readsBlock_iff {db : Db} {height : Int} {rows : List BlockWithTransactionsRow}
    (hrows : db.MayReturn height rows) :
    s.ReadsBlock sortTransactionResponse db height rows ↔
      db.transactionsAt height = [] ∧ (db.blocksAt height).length = 1 := by
  obtain ⟨hperm, -⟩ := hrows
  have hlength : rows.length =
      (db.blocksAt height).length * max 1 (db.transactionsAt height).length :=
    hperm.length_eq.trans (db.length_joinAt height)
  have hmem : ∀ row ∈ rows, _ := fun row hrow => Db.mem_joinAt (hperm.mem_iff.mp hrow)
  constructor
  · rintro ⟨block, blocks, b, hblock, hblocks, hb, hshows, hsame⟩
    cases rows with
    | nil => cases hblock
    | cons dbBlock rest =>
      have hrest := (getBlock_eq_ok hblock).length_eq
      have hall := hshows.length_eq
      have hcount : b.transactions.length = _ :=
        foldlM_addRow (fun row hrow => (hmem row hrow).1) (by simpa [blocksFromRows] using hblocks) hb
      have hagree : b.transactions.length = block.transactions.length := by
        simpa using congrArg List.length hsame
      rw [List.length_cons, hrest, ← hall] at hlength
      cases htxs : db.transactionsAt height with
      | nil =>
        rw [htxs] at hlength
        simpa using hlength.symm
      | cons tx txs =>
        exfalso
        rw [htxs, List.length_cons] at hlength hall
        -- the counts leave one transaction that stands with two block rows
        have hdvd : txs.length + 1 ∣ 1 := by
          rw [Nat.max_eq_right (by omega)] at hlength
          exact (Nat.dvd_add_right (Nat.dvd_refl _)).mp ⟨_, hlength.trans (Nat.mul_comm _ _)⟩
        have hone : txs.length = 0 := by
          have hle := Nat.le_of_dvd Nat.one_pos hdvd
          omega
        obtain rfl := List.length_eq_zero_iff.mp hone
        obtain ⟨second, rfl⟩ := List.length_eq_one_iff.mp (hrest.trans hall.symm)
        have hcolumns : ∀ row ∈ [dbBlock, second], row.tx = some tx := by
          intro row hrow
          rcases (hmem row hrow).2 with ⟨hnil, -⟩ | ⟨tx', htx', hcolumns⟩
          · rw [htxs] at hnil
            cases hnil
          · rw [htxs, List.mem_singleton] at htx'
            rwa [htx'] at hcolumns
        -- which `blocksFromRows` reads twice or not at all
        rw [hagree, ← hall] at hcount
        by_cases hbytes : tx.transaction = []
        · simp [hcolumns, hbytes] at hcount
        · simp [hcolumns, hbytes] at hcount
  · rintro ⟨hnone, hsingle⟩
    obtain ⟨⟨chain, row⟩, hblock⟩ := List.length_eq_one_iff.mp hsingle
    obtain rfl : rows = [⟨height, chain.val, row.hash.val, row.proposer.val, row.createdAt, none⟩] := by
      rw [Db.joinAt, hblock, hnone] at hperm
      exact List.perm_singleton.mp hperm
    refine ⟨_, _, _, rfl, rfl, (Table.lookup_insertNew _ _ _ _).trans (if_pos rfl), ?_, rfl⟩
    rw [hnone]
    exact .nil

/-- A block without transactions is read well. -/
theorem readsBlock_empty :
    ∃ db, auditedNode.commitAll auditedDb [auditedBlock 15 []] = some db ∧
      auditedNode.ReadsBlock id db 15 (db.getBlockWithTransactions 15) := by
  have hrun : (auditedNode.commitAll auditedDb [auditedBlock 15 []]).any (fun db =>
      db.transactionsAt 15 = [] ∧ (db.blocksAt 15).length = 1) = true := by decide +kernel
  obtain ⟨db, hdb, hempty⟩ := (Option.any_eq_true _ _).mp hrun
  refine ⟨db, hdb, (readsBlock_iff (db.mayReturn_getBlockWithTransactions 15)).mpr ?_⟩
  simpa using hempty

def readings (s : Server) (height : Int) (db : Db) : Nat × Option Nat × Option Nat :=
  let rows := db.getBlockWithTransactions height
  ((db.transactionsAt height).length,
    (s.getBlock id rows true).toOption.map (·.transactions.length),
    ((s.blocksFromRows id rows s.config.chainID true).toOption.bind (AList.lookup height)).map
      (·.transactions.length))

/-- The block at height 16 is committed with one transaction. `blocksFromRows` returns it, and
`GetBlock` returns a block without transactions. -/
theorem first_transaction_dropped :
    (auditedNode.commitAll auditedDb auditedRun).map (auditedNode.readings 16) =
      some (1, some 0, some 1) ∧
    ∀ db, auditedNode.commitAll auditedDb auditedRun = some db →
      ¬ auditedNode.ReadsBlock id db 16 (db.getBlockWithTransactions 16) := by
  have hrun : (auditedNode.commitAll auditedDb auditedRun).map (auditedNode.readings 16) =
      some (1, some 0, some 1) := by decide +kernel
  refine ⟨hrun, fun db hdb hreads => ?_⟩
  obtain ⟨block, -, -, hblock, -, -, hshows, -⟩ := hreads
  rw [hdb, Option.map_some, Option.some.injEq, readings, hblock, Prod.mk.injEq, Prod.mk.injEq] at hrun
  obtain ⟨hone, hzero, -⟩ := hrun
  have hzero : block.transactions.length = 0 := Option.some.inj hzero
  rw [hshows.length_eq, hzero] at hone
  cases hone

end Server

end OpenAudio.Core
