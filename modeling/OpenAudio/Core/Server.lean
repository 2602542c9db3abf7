import OpenAudio.Core.Config
import OpenAudio.Core.Db.Queries

/-!
# The node

What a node holds when a block arrives: its configuration, the committed database, and the memory
other goroutines update. Validators read the committed database; finalizers run on the block's
transaction.
-/

namespace OpenAudio.Core

/-- An error value, as far as a caller can tell errors apart. -/
inductive GoError where
  | plain (msg : String)
  /-- `authRejectionError` -/
  | authRejection (reason : String)
  /-- `txRejectionError` -/
  | txRejection (reason : String)
  | store (e : PgError)
deriving DecidableEq, Repr

namespace GoError

/-- `Error()` -/
def message : GoError → String
  | plain msg => msg
  | authRejection reason => "manage entity rejected: " ++ reason
  | txRejection reason => reason
  | store e => e.message

/-- `authRejected`: the error is a deterministic rejection, not a failure of this node's store. -/
def authRejected : GoError → Bool
  | plain _ => false
  | authRejection _ => true
  | txRejection _ => true
  | store _ => false

/-- `fmt.Errorf("context: %v", err)` -/
def wrap (context : String) (e : GoError) : GoError := plain (context ++ ": " ++ e.message)

end GoError

/-- `pgx.ErrNoRows` -/
def noRows : GoError := .plain "no rows in result set"

/-- The memory other goroutines update. -/
structure Cache where
  currentHeight : Int
  catchingUp : Bool

/-- `MempoolTransaction` -/
structure MempoolTransaction where
  deadline : Int
  tx : Option SignedTransaction := none
  txv2 : Option V2Transaction := none

/-- A node. -/
structure Server where
  ext : Externals
  config : Config
  /-- what `s.db` reads: the database as of the last commit -/
  committed : Db
  cache : Cache
  mempool : List MempoolTransaction
  /-- `uuid.NewString`, by how many were drawn before -/
  newUUID : Nat → String

namespace Server

def devnet (calls : Externals.Recorded) (committed : Db) : Server where
  ext := calls.externals
  config := .devnet
  committed := committed
  cache := ⟨0, false⟩
  mempool := []
  newUUID _ := ""

def firstKey : Externals.RecordedKey where
  pubKey := bigEndian 1 4 ++
    bigEndian 32 0x79be667ef9dcbbac55a06295ce870b07029bfcdb2dce28d959f2815b16f81798 ++
    bigEndian 32 0x483ada7726a3c4655da4fbfc0e1108a8fd17b448a68554199c47d08ffb10d4b8
  digest := Externals.digest 0xc0a6c424ac7157ae408398df7e5f4552091a69125d5dfcb7b8c2659029395bdf
  textDigest := Externals.digest 0xa8aaec6aceafa450816b295770adcd144ce18d630d6ce74288aa4f1569eda4ca

def secondKey : Externals.RecordedKey where
  pubKey := bigEndian 1 4 ++
    bigEndian 32 0xc6047f9441ed7d6d3045406e95c07cd85c778e4b8cef3ca7abac09b95c709ee5 ++
    bigEndian 32 0x1ae168fea63dc339a3c58419466ceaeef7f632653266d0e1236431a950cfe52a
  digest := Externals.digest 0xeedf1a9c68b3f4a8b1a1032b2b5ad5c4795c026514f8317c7a215e218dccd6cf
  textDigest := Externals.digest 0x4e49a072e73433845000beb444eee9a33b2bf02c03773562e1010ba74302fb1d

def firstWallet : PgText := ⟨"0x7e5f4552091a69125d5dfcb7b8c2659029395bdf", by decide⟩

def firstNode : ValidatorRow where
  pubKey := ⟨"", nulFree_empty⟩
  endpoint := ⟨"https://a.example", by decide⟩
  ethAddress := ⟨"0x7E5F4552091A69125d5DfCb7b8C2659029395Bdf", by decide⟩
  cometAddress := ⟨"21FE31DFA154A261626BF854046FD2271B7BED4B", by decide⟩
  cometPubKey := ⟨"11qYAYKxCrfVS/7TyWQHOg7hcvPapiMlrwIaaPcHURo=", by decide⟩
  ethBlock := ⟨"1", by decide⟩
  nodeType := ⟨"validator", by decide⟩
  spId := ⟨"1", by decide⟩
  jailed := false

def secondNode : ValidatorRow :=
  { firstNode with
    endpoint := ⟨"https://c.example", by decide⟩
    ethAddress := ⟨"0x6813Eb9362372EEF6200f3b1dbC3f819671cBA69", by decide⟩
    cometAddress := ⟨"39F713D0A644253F04529421B9F51B9B08979D08", by decide⟩
    cometPubKey := ⟨"PUAXw+hDiVqStwqnTRt+vJyYLM8uxJaMwM1V8Sr0Zgw=", by decide⟩
    spId := ⟨"3", by decide⟩ }

def read {α : Type} (s : Server) (q : Query Db α) : Except GoError α :=
  (q s.committed).mapError .store

/-- Read one row of the committed database; no row is an error. -/
def readOne {α : Type} (s : Server) (q : Query Db (Option α)) : Except GoError α :=
  match q s.committed with
  | .ok (some a) => .ok a
  | .ok none => .error noRows
  | .error e => .error (.store e)

/-- Lift an error text of a library into an error. -/
def text {α : Type} (context : String) (r : Except String α) : Except GoError α :=
  r.mapError fun e => .plain (context ++ e)

def rules (s : Server) (height : Int) : Rules := s.config.rules height

abbrev rt (s : Server) : GoRuntime := s.ext.rt

end Server

/-! ### Programs on the block's transaction -/

abbrev BlockProg (α : Type) := Prog (Txn Db) GoError α

namespace BlockProg

/-- Issue a query through `getDb()`. -/
def query {α : Type} (q : Query Db α) : BlockProg α := (Txn.exec q.stmt).mapError .store

/-- Issue a statement through `getDb()`. -/
def exec {α : Type} (q : Stmt Db α) : BlockProg α := (Txn.exec q).mapError .store

def context {α : Type} (msg : String) (p : BlockProg α) : BlockProg α :=
  p.mapError (GoError.wrap msg)

/-- Run `p`; an error is only logged. -/
def logged (p : BlockProg Unit) : BlockProg Unit := fun t => (.ok (), (p t).2)

/-- `p` run on `t` either fails and leaves the view alone, or is the one statement `q`, which
succeeds. -/
def OneStatement {α : Type} (q : Stmt Db α) (p : BlockProg α) (t : Txn Db) : Prop :=
  (∃ e t', p t = (.error e, t') ∧ t'.view = t.view) ∨
    ∃ a db, t.aborted = false ∧ q t.view = .ok (a, db) ∧ p t = (.ok a, ⟨db, false⟩)

theorem oneStatement_exec {α : Type} (q : Stmt Db α) (t : Txn Db) :
    OneStatement q (BlockProg.exec q) t := by
  by_cases ha : t.aborted = true
  · refine .inl ⟨.store .inFailedTransaction, t, ?_, rfl⟩
    rw [BlockProg.exec, Prog.mapError, Txn.exec_of_aborted q ha]
    rfl
  · rw [Bool.not_eq_true] at ha
    cases hq : q t.view with
    | error e =>
      refine .inl ⟨.store e, ⟨t.view, true⟩, ?_, rfl⟩
      rw [BlockProg.exec, Prog.mapError, Txn.exec_of_error ha hq]
      rfl
    | ok r =>
      refine .inr ⟨r.1, r.2, ha, hq, ?_⟩
      rw [BlockProg.exec, Prog.mapError, Txn.exec_of_ok ha hq]
      rfl

theorem OneStatement.context {α : Type} {q : Stmt Db α} {p : BlockProg α} {t : Txn Db}
    (msg : String) (h : OneStatement q p t) : OneStatement q (BlockProg.context msg p) t := by
  rcases h with ⟨e, t', hp, hview⟩ | ⟨a, db, ha, hq, hp⟩
  · refine .inl ⟨GoError.wrap msg e, t', ?_, hview⟩
    rw [BlockProg.context, Prog.mapError, hp]
    rfl
  · refine .inr ⟨a, db, ha, hq, ?_⟩
    rw [BlockProg.context, Prog.mapError, hp]
    rfl

theorem query_cases {α : Type} (q : Query Db α) (t : Txn Db) :
    (∃ e t', BlockProg.query q t = (.error e, t') ∧ t'.view = t.view) ∨
      ∃ a, t.aborted = false ∧ q t.view = .ok a ∧ BlockProg.query q t = (.ok a, t) := by
  rcases oneStatement_exec q.stmt t with h | ⟨a, db, ha, hq, hp⟩
  · exact .inl h
  · refine .inr ⟨a, ha, ?_⟩
    unfold Query.stmt at hq
    cases hr : q t.view with
    | error e => rw [hr] at hq; cases hq
    | ok b =>
      rw [hr] at hq
      cases hq
      rw [← ha] at hp
      exact ⟨rfl, hp⟩

theorem query_of_ok {α : Type} {q : Query Db α} {t : Txn Db} {a : α} (hlive : t.aborted = false)
    (hq : q t.view = .ok a) : BlockProg.query q t = (.ok a, t) := by
  obtain ⟨view, aborted⟩ := t
  cases hlive
  have hstmt : q.stmt view = .ok (a, view) := by rw [Query.stmt, hq]; rfl
  rw [BlockProg.query, Prog.mapError, Txn.exec_of_ok rfl hstmt]
  rfl

theorem exec_of_ok {α : Type} {q : Stmt Db α} {db db' : Db} {a : α} (h : q db = .ok (a, db')) :
    BlockProg.exec q ⟨db, false⟩ = (.ok a, ⟨db', false⟩) := by
  rw [BlockProg.exec, Prog.mapError, Txn.exec_of_ok rfl h]
  rfl

theorem exec_context_eq_ok {α : Type} {msg : String} {q : Stmt Db α} {t t' : Txn Db} {a : α}
    (h : BlockProg.context msg (BlockProg.exec q) t = (.ok a, t')) :
    t.aborted = false ∧ q t.view = .ok (a, t'.view) := by
  obtain ⟨hlive, d, hq, rfl⟩ := Txn.exec_eq_ok (Prog.mapError_eq_ok (Prog.mapError_eq_ok h))
  exact ⟨hlive, hq⟩

theorem context_of_ok {α : Type} {p : BlockProg α} {t t' : Txn Db} {a : α} (msg : String)
    (h : p t = (.ok a, t')) : BlockProg.context msg p t = (.ok a, t') := by
  rw [BlockProg.context, Prog.mapError, h]
  rfl

theorem query_context_cases {α : Type} (msg : String) (q : Query Db α) (t : Txn Db) :
    (∃ e t', BlockProg.context msg (BlockProg.query q) t = (.error e, t') ∧ t'.view = t.view) ∨
      ∃ a, t.aborted = false ∧ q t.view = .ok a ∧
        BlockProg.context msg (BlockProg.query q) t = (.ok a, t) := by
  rcases query_cases q t with ⟨e, t', hp, hview⟩ | ⟨a, ha, hq, hp⟩
  · refine .inl ⟨GoError.wrap msg e, t', ?_, hview⟩
    rw [BlockProg.context, Prog.mapError, hp]
    rfl
  · refine .inr ⟨a, ha, hq, ?_⟩
    rw [BlockProg.context, Prog.mapError, hp]
    rfl

end BlockProg

end OpenAudio.Core
