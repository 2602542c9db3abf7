import OpenAudio.Core.Abci.Propose
import OpenAudio.Lib.IndexedQueue

/-!
# The mempool

Transactions wait in a linked list, in the order they came, and a map finds the element of each by
its hash. Blocks take transactions out of the middle; those that were not included in time are
dropped.
-/

namespace OpenAudio.Core

open Prog

def errFullMempool : GoError := .plain "mempool full"

def mempoolAdmissible (tx : Option SignedTransaction) : Except GoError Unit :=
  match tx.bind (·.transaction) with
  | some (.manageEntityMigration _) =>
    .error (.plain "manage entity migration transactions cannot be submitted")
  | some (.validatorRegistration _) =>
    .error (.plain "legacy validator registrations cannot be submitted")
  | _ => .ok ()

/-- `Mempool`: the deque and the map, and how many transactions they may hold. -/
structure Mempool extends IndexedQueue String MempoolTransaction where
  maxMempoolTransactions : Nat

namespace Mempool

/-- `NewMempool` -/
def new (maxTransactions : Nat) : Mempool := ⟨.empty, maxTransactions⟩

/-- The rounds of `GetBatch`, with what is left of the batch. -/
def gather (currentBlock : Int) : Int → List (Element MempoolTransaction) →
    List MempoolTransaction
  | _, [] => []
  | left, e :: es =>
    if left ≤ 0 then []
    else if e.value.deadline ≤ currentBlock then gather currentBlock left es
    else e.value :: gather currentBlock (left - 1) es

def getBatch (m : Mempool) (batchSize currentBlock : Int) : List MempoolTransaction :=
  gather currentBlock batchSize m.deque

def removeBatch (ids : List String) (m : Mempool) : Mempool :=
  { m with toIndexedQueue := m.toIndexedQueue.unlinkKeys ids }

/-- `RemoveExpiredTransactions`, over the map in the order it is ranged over. -/
def removeExpiredTransactions (visit : Visit (Sigma fun _ : String => Element MempoolTransaction))
    (blockNum : Int) (m : Mempool) : Mempool :=
  let expired (tx : MempoolTransaction) : Bool := decide (tx.deadline ≤ blockNum)
  { m with toIndexedQueue := m.toIndexedQueue.unlinkEntries expired (visit.order m.index.entries) }

/-- `addMempoolTransaction`, apart from the broadcast. A full mempool refuses a duplicate too. -/
def addMempoolTransaction (key : String) (tx : MempoolTransaction) : Prog Mempool GoError Unit := do
  ofExcept (mempoolAdmissible tx.tx)
  let m ← reads fun m => .ok m
  rejectIf (m.maxMempoolTransactions ≤ m.index.entries.length) errFullMempool
  if (m.index.lookup key).isSome then pure ()
  else modify fun m => { m with toIndexedQueue := m.toIndexedQueue.push key tx }

/-! ### Runs -/

/-- A call on the mempool. -/
inductive Call where
  | addMempoolTransaction (key : String) (tx : MempoolTransaction)
  | removeBatch (ids : List String)
  | removeExpiredTransactions
      (visit : Visit (Sigma fun _ : String => Element MempoolTransaction)) (blockNum : Int)

def step (m : Mempool) : Call → Mempool
  | .addMempoolTransaction key tx => (addMempoolTransaction key tx m).2
  | .removeBatch ids => m.removeBatch ids
  | .removeExpiredTransactions visit blockNum => m.removeExpiredTransactions visit blockNum

def run (m : Mempool) (calls : List Call) : Mempool := calls.foldl step m

/-- The list and the map are in step, and hold no more than they may. -/
structure Invariant (m : Mempool) : Prop where
  sound : m.toIndexedQueue.Sound
  size : m.deque.length ≤ m.maxMempoolTransactions

/-- The transaction may be submitted, there is room for it, and its key is new. -/
def Admits (m : Mempool) (key : String) (tx : MempoolTransaction) : Prop :=
  mempoolAdmissible tx.tx = .ok () ∧ m.index.entries.length < m.maxMempoolTransactions ∧
    m.index.lookup key = none

theorem addMempoolTransaction_of_admits {key : String} {tx : MempoolTransaction} {m : Mempool}
    (h : m.Admits key tx) : (addMempoolTransaction key tx m).2 =
      { m with toIndexedQueue := m.toIndexedQueue.push key tx } := by
  obtain ⟨hadmissible, hroom, hnew⟩ := h
  have hread : (reads fun m => .ok m : Prog Mempool GoError Mempool) m = (.ok m, m) := rfl
  rw [addMempoolTransaction, hadmissible, ofExcept_ok_bind, bind_of_ok hread, rejectIf,
    if_neg (not_le.mpr hroom), hnew]
  rfl

theorem addMempoolTransaction_of_not_admits {key : String} {tx : MempoolTransaction} {m : Mempool}
    (h : ¬ m.Admits key tx) : (addMempoolTransaction key tx m).2 = m := by
  unfold addMempoolTransaction
  cases hadmissible : mempoolAdmissible tx.tx with
  | error e => rfl
  | ok u =>
    have hread : (reads fun m => .ok m : Prog Mempool GoError Mempool) m = (.ok m, m) := rfl
    rw [ofExcept_ok_bind, bind_of_ok hread]
    by_cases hfull : m.maxMempoolTransactions ≤ m.index.entries.length
    · rw [rejectIf, if_pos hfull]
      rfl
    · rw [rejectIf, if_neg hfull]
      cases hkey : m.index.lookup key with
      | some e => rfl
      | none => exact absurd ⟨hadmissible, not_le.mp hfull, hkey⟩ h

theorem Invariant.step {m : Mempool} (h : m.Invariant) (call : Call) : (m.step call).Invariant := by
  cases call with
  | addMempoolTransaction key tx =>
    by_cases hadmits : m.Admits key tx
    · rw [Mempool.step, addMempoolTransaction_of_admits hadmits]
      refine ⟨h.sound.push hadmits.2.2 tx, ?_⟩
      rw [IndexedQueue.push, List.length_append, List.length_singleton, ← h.sound.length_eq]
      exact hadmits.2.1
    · rw [Mempool.step, addMempoolTransaction_of_not_admits hadmits]
      exact h
  | removeBatch ids =>
    exact ⟨h.sound.unlinkKeys ids, (m.toIndexedQueue.length_unlinkKeys_le ids).trans h.size⟩
  | removeExpiredTransactions visit blockNum =>
    have hperm := visit.perm m.index.entries
    have hkeys : ((visit.order m.index.entries).map (·.1)).Nodup :=
      (hperm.map _).nodup_iff.mpr m.index.nodupKeys
    refine ⟨h.sound.unlinkEntries _ hkeys fun entry hentry => ?_,
      (IndexedQueue.length_unlinkEntries_le _ m.toIndexedQueue _).trans h.size⟩
    exact (m.index.mem_entries_iff _ _).mp (hperm.subset hentry)

theorem Invariant.run {m : Mempool} (h : m.Invariant) (calls : List Call) :
    (m.run calls).Invariant := by
  induction calls generalizing m with
  | nil => exact h
  | cons call calls ih => exact ih (h.step call)

theorem maxMempoolTransactions_run (m : Mempool) (calls : List Call) :
    (m.run calls).maxMempoolTransactions = m.maxMempoolTransactions := by
  induction calls generalizing m with
  | nil => rfl
  | cons call calls ih =>
    refine (ih (m.step call)).trans ?_
    cases call with
    | addMempoolTransaction key tx =>
      by_cases hadmits : m.Admits key tx
      · rw [Mempool.step, addMempoolTransaction_of_admits hadmits]
      · rw [Mempool.step, addMempoolTransaction_of_not_admits hadmits]
    | removeBatch ids => rfl
    | removeExpiredTransactions visit blockNum => rfl

/-- The call takes the transaction under the key out of the mempool. -/
def Call.Removes (key : String) (tx : MempoolTransaction) : Call → Prop
  | .addMempoolTransaction _ _ => False
  | .removeBatch ids => key ∈ ids
  | .removeExpiredTransactions _ blockNum => tx.deadline ≤ blockNum

theorem lookup_step {m : Mempool} {key : String} {e : Element MempoolTransaction}
    (h : m.index.lookup key = some e) {call : Call} (hkept : ¬ call.Removes key e.value) :
    (m.step call).index.lookup key = some e := by
  cases call with
  | addMempoolTransaction key' tx =>
    by_cases hadmits : m.Admits key' tx
    · have hne : key ≠ key' := by
        rintro rfl
        cases h.symm.trans hadmits.2.2
      rw [Mempool.step, addMempoolTransaction_of_admits hadmits, IndexedQueue.push,
        Table.lookup_insert_eq, if_neg hne]
      exact h
    · rw [Mempool.step, addMempoolTransaction_of_not_admits hadmits]
      exact h
  | removeBatch ids => exact (IndexedQueue.lookup_unlinkKeys hkept _).trans h
  | removeExpiredTransactions visit blockNum =>
    refine (IndexedQueue.lookup_unlinkEntries (fun entry hentry hkey => ?_) _).trans h
    have hfound := (m.index.mem_entries_iff _ _).mp ((visit.perm _).subset hentry)
    rw [hkey, h] at hfound
    rw [← Option.some.inj hfound]
    exact decide_eq_false hkept

theorem lookup_run {m : Mempool} {key : String} {e : Element MempoolTransaction}
    (h : m.index.lookup key = some e) {calls : List Call}
    (hkept : ∀ call ∈ calls, ¬ call.Removes key e.value) :
    (m.run calls).index.lookup key = some e := by
  induction calls generalizing m with
  | nil => exact h
  | cons call calls ih =>
    exact ih (lookup_step h (hkept call List.mem_cons_self))
      fun later hlater => hkept later (List.mem_cons_of_mem _ hlater)

theorem gather_eq (currentBlock left : Int) (es : List (Element MempoolTransaction)) :
    gather currentBlock left es =
      ((es.map (·.value)).filter fun tx => decide (currentBlock < tx.deadline)).take left.toNat := by
  induction es generalizing left with
  | nil => simp [gather]
  | cons e es ih =>
    rw [gather]
    by_cases hleft : left ≤ 0
    · simp [hleft, Int.toNat_of_nonpos hleft]
    · have hsucc : left.toNat = (left - 1).toNat + 1 := by omega
      by_cases hexpired : e.value.deadline ≤ currentBlock
      · simp [hleft, hexpired, ih, not_lt.mpr hexpired]
      · rw [if_neg hleft, if_neg hexpired, ih, hsucc, List.map_cons,
          List.filter_cons_of_pos (by simpa using hexpired), List.take_succ_cons]

/-- Whatever is called on a new mempool, the deque and the map hold the same elements, each under
one key, no more than allowed and in the order they were pushed; what was admitted and not removed
since is held; and a batch is what comes first of those that have not expired. -/
theorem run_new (maxTransactions : Nat) (calls : List Call) :
    let m := (new maxTransactions).run calls
    (m.index.entries.map (·.2)).Perm m.deque ∧ m.deque.Nodup ∧
    (m.index.entries.map (·.1)).Nodup ∧
    m.deque.length ≤ maxTransactions ∧ m.index.entries.length ≤ maxTransactions ∧
    m.deque.Pairwise (fun d e => d.id < e.id) ∧
    (∀ before key tx after, calls = before ++ .addMempoolTransaction key tx :: after →
      ((new maxTransactions).run before).Admits key tx →
      (∀ call ∈ after, ¬ call.Removes key tx) →
      ∃ e ∈ m.deque, m.index.lookup key = some e ∧ e.value = tx) ∧
    ∀ n h : Int, m.getBatch n h =
      ((m.deque.map (·.value)).filter fun tx => decide (h < tx.deadline)).take n.toNat := by
  intro m
  have hinv : m.Invariant := Invariant.run ⟨IndexedQueue.sound_empty, Nat.zero_le _⟩ calls
  have hmax : m.maxMempoolTransactions = maxTransactions :=
    maxMempoolTransactions_run (new maxTransactions) calls
  have hsize : m.deque.length ≤ maxTransactions := hmax ▸ hinv.size
  refine ⟨hinv.sound.matched, ?_, m.index.nodupKeys, hsize, ?_, hinv.sound.ordered,
    fun before key tx after hcalls hadmits hkept => ?_,
    fun n h => gather_eq h n m.deque⟩
  · apply hinv.sound.ordered.imp
    intro d e hlt heq
    rw [heq] at hlt
    exact lt_irrefl _ hlt
  · rw [hinv.sound.length_eq]
    exact hsize
  · have hheld : m.index.lookup key = some ⟨((new maxTransactions).run before).pushed, tx⟩ := by
      change ((new maxTransactions).run calls).index.lookup key = _
      rw [hcalls, run, List.foldl_append, List.foldl_cons]
      refine lookup_run ?_ hkept
      change (addMempoolTransaction key tx ((new maxTransactions).run before)).2.index.lookup key = _
      rw [addMempoolTransaction_of_admits hadmits, IndexedQueue.push, Table.lookup_insert_eq,
        if_pos rfl]
    exact ⟨_, hinv.sound.mem_of_lookup hheld, hheld, rfl⟩

/-- Two transactions come, one again; the first expires, with the map ranged over backwards. -/
example : ((new 3).run [.addMempoolTransaction "a" ⟨5, none, none⟩,
      .addMempoolTransaction "b" ⟨9, none, none⟩, .addMempoolTransaction "b" ⟨9, none, none⟩,
      .removeExpiredTransactions ⟨List.reverse, List.reverse_perm⟩ 5]).deque.map (·.id) = [1] := by
  decide +kernel

end Mempool

end OpenAudio.Core
