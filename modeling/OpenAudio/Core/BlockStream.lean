import OpenAudio.Core.TransactionOrder

/-!
# The stream of blocks for an indexer

An indexer asks for every block from a height on. The node first replays the blocks up to its head
from the database and then forwards those that its own feed announces. The feed drops announcements
to a slow subscriber, so that the heights between the last block sent and the announced one are read
from the database, and an announcement of a block that was sent is skipped.
-/

namespace OpenAudio.Core

open OpenAudio.Prog

/-- What is sent, the last one first, the height of the last one as the loop remembers it, and the
number of operations so far. -/
structure StreamState where
  sent : List BlockResponse := []
  lastSent : Int := 0
  clock : Nat := 0

inductive StreamError
  | cancelled
  | reading (height : Int) (err : String)
  | sending

/-- The node at each moment, what its queries return, and which operations fail. -/
structure StreamWorld where
  node : Nat → Server
  rows : Nat → Int → List BlockWithTransactionsRow
  mayReturn : ∀ t height, (node t).committed.MayReturn height (rows t height)
  sort : SliceStable
  canon : Bool
  cancelled : Nat → Bool
  queryFails : Nat → Bool
  sendFails : Nat → Bool

/-- The heights from one to another. -/
def heightsFrom (first last : Int) : List Int :=
  (List.range (last + 1 - first).toNat).map fun i : Nat => first + (i : Int)

namespace StreamWorld

variable (w : StreamWorld)

def now : Prog StreamState StreamError Nat := fun st =>
  (.ok st.clock, { st with clock := st.clock + 1 })

/-- `ctx.Err()`, or the context being done in a `select` -/
def checkContext : Prog StreamState StreamError Unit := do
  let t ← now
  rejectIf (w.cancelled t = true) .cancelled

/-- `stream.Send` -/
def send (block : BlockResponse) : Prog StreamState StreamError Unit := do
  let t ← now
  rejectIf (w.sendFails t = true) .sending
  modify fun st => { st with sent := block :: st.sent }

/-- `core.GetBlock` at a moment -/
def getBlockAt (t : Nat) (height : Int) : Except String BlockResponse :=
  if w.queryFails t then .error "query failed"
  else (w.node t).getBlock (sortTransactionResponse w.sort (w.node t).rt) (w.rows t height) w.canon

def emitHeight (height : Int) : Prog StreamState StreamError Unit := do
  let t ← now
  let block ← ofExcept ((w.getBlockAt t height).mapError (.reading height))
  w.send block

/-- The clone of an announced block that `sendLive` sends -/
def liveCopy (t : Nat) (block : BlockResponse) : BlockResponse :=
  { block with
    transactions := if w.canon then block.transactions
      else sortTransactionResponse w.sort (w.node t).rt block.transactions }

/-- `sendLive` -/
def emitLive (block : BlockResponse) : Prog StreamState StreamError Unit := do
  let t ← now
  w.send (w.liveCopy t block)

/-- One announcement. -/
def handleLive (b : BlockResponse) : Prog StreamState StreamError Unit := do
  w.checkContext
  let lastSent ← reads fun st => .ok st.lastSent
  if b.height ≤ lastSent then pure ()
  else do
    forEach (heightsFrom (lastSent + 1) (b.height - 1)) w.emitHeight
    w.emitLive b
    modify fun st => { st with lastSent := b.height }

/-- `runIndexerStream`, until it has handled the given announcements. -/
def runIndexerStream (startHeight head : Int) (live : List BlockResponse) :
    Prog StreamState StreamError Unit := do
  modify fun st => { st with lastSent := startHeight - 1 }
  forEach (heightsFrom startHeight head) fun h => do
    w.checkContext
    w.emitHeight h
    modify fun st => { st with lastSent := h }
  forEach live w.handleLive

end StreamWorld

/-! ### What is sent -/

/-- The block was read from the database, or is the copy of one that was announced. -/
def Sourced (w : StreamWorld) (live : List BlockResponse) (b : BlockResponse) : Prop :=
  (∃ t, w.getBlockAt t b.height = .ok b) ∨ ∃ t, ∃ announced ∈ live, b = w.liveCopy t announced

/-- The blocks, the last one first, have the heights from `first` on. -/
def Consecutive (w : StreamWorld) (live : List BlockResponse) (first : Int) :
    List BlockResponse → Prop
  | [] => True
  | b :: sent => b.height = first + sent.length ∧ Sourced w live b ∧ Consecutive w live first sent

section Consecutive

variable {w : StreamWorld} {live : List BlockResponse} {first : Int} {sent : List BlockResponse}

theorem Consecutive.heights (h : Consecutive w live first sent) :
    sent.reverse.map BlockResponse.height =
      (List.range sent.length).map fun i : Nat => first + (i : Int) := by
  induction sent with
  | nil => rfl
  | cons b sent ih =>
    rw [List.reverse_cons, List.map_append, ih h.2.2, List.length_cons, List.range_succ,
      List.map_append, List.map_singleton, List.map_singleton, h.1]

theorem Consecutive.sourced (h : Consecutive w live first sent) : ∀ b ∈ sent, Sourced w live b := by
  induction sent with
  | nil => exact fun b hb => absurd hb List.not_mem_nil
  | cons b sent ih => exact List.forall_mem_cons.mpr ⟨h.2.1, ih h.2.2⟩

theorem Consecutive.mem {k : Int} (h : Consecutive w live first sent) (hfirst : first ≤ k) (hlast : k < first + sent.length) : k ∈ sent.map BlockResponse.height := by
  induction sent with
  | nil =>
    simp at hlast
    omega
  | cons b sent ih =>
    rw [List.map_cons, List.mem_cons, h.1]
    rw [List.length_cons] at hlast
    by_cases hk : k = first + sent.length
    · exact .inl hk
    · exact .inr (ih h.2.2 (by omega))

end Consecutive

section Stream

variable {w : StreamWorld} {first head : Int} {live : List BlockResponse}

/-- A block that is read has the height that was asked for. -/
theorem height_getBlockAt {t : Nat} {height : Int} {b : BlockResponse}
    (h : w.getBlockAt t height = .ok b) : b.height = height := by
  unfold StreamWorld.getBlockAt at h
  split at h
  · cases h
  have hrows := w.mayReturn t height
  cases hrow : w.rows t height with
  | nil =>
    rw [hrow] at h
    cases h
  | cons dbBlock rest =>
    rw [hrow] at h hrows
    have hheight := (Db.mem_joinAt (hrows.1.mem_iff.mp List.mem_cons_self)).1
    unfold Server.getBlock at h
    dsimp only at h
    split at h
    · cases h
      exact hheight
    · obtain ⟨txs, -, h⟩ := except_bind_eq_ok.mp h
      cases h
      exact hheight

/-- A height that the stream reads. -/
def Requested (first head : Int) (live : List BlockResponse) (height : Int) : Prop :=
  first ≤ height ∧ (height ≤ head ∨ ∃ b ∈ live, height < b.height)

/-- The context is cancelled, a block cannot be sent, or one that is asked for is not returned. -/
def Fault (w : StreamWorld) (first head : Int) (live : List BlockResponse) : Prop :=
  ∃ t, w.cancelled t = true ∨ w.sendFails t = true ∨
    ∃ height err, Requested first head live height ∧ w.getBlockAt t height = .error err

/-- How the stream ends early: what was sent is still consecutive. -/
def EndsEarly (w : StreamWorld) (first head : Int) (live : List BlockResponse) (_ : StreamError)
    (st : StreamState) : Prop :=
  Consecutive w live first st.sent ∧ Fault w first head live

variable {st : StreamState}

theorem wp_now_bind {α : Type} {f : Nat → Prog StreamState StreamError α}
    {Q : α → StreamState → Prop} {E : StreamError → StreamState → Prop} :
    Wp (StreamWorld.now >>= f) Q E st ↔ Wp (f st.clock) Q E { st with clock := st.clock + 1 } :=
  Iff.rfl

theorem wp_checkContext (h : Consecutive w live first st.sent) :
    Wp w.checkContext (fun _ st' => st'.sent = st.sent ∧ st'.lastSent = st.lastSent)
      (EndsEarly w first head live) st := by
  rw [StreamWorld.checkContext, wp_now_bind]
  exact wp_rejectIf (fun hc => ⟨h, _, .inl hc⟩) fun _ => ⟨rfl, rfl⟩

/-- One more block was sent. -/
def SentOne (w : StreamWorld) (live : List BlockResponse) (first : Int) (st : StreamState) (_ : Unit) (st' : StreamState) : Prop :=
  Consecutive w live first st'.sent ∧ st'.sent.length = st.sent.length + 1 ∧ st'.lastSent = st.lastSent

theorem wp_send {b : BlockResponse} (h : Consecutive w live first st.sent)
    (hb : b.height = first + st.sent.length) (hsourced : Sourced w live b) :
    Wp (w.send b) (SentOne w live first st) (EndsEarly w first head live) st := by
  rw [StreamWorld.send, wp_now_bind, wp_bind]
  exact wp_rejectIf (fun hc => ⟨h, _, .inr (.inl hc)⟩) fun _ => ⟨⟨hb, hsourced, h⟩, rfl, rfl⟩

/-- Reading the next height sends it. -/
theorem wp_emitHeight {height : Int} (h : Consecutive w live first st.sent)
    (hnext : height = first + st.sent.length) (hrequested : Requested first head live height) :
    Wp (w.emitHeight height) (SentOne w live first st) (EndsEarly w first head live) st := by
  rw [StreamWorld.emitHeight, wp_now_bind]
  cases hblock : w.getBlockAt st.clock height with
  | error err => exact ⟨h, st.clock, .inr (.inr ⟨height, err, hrequested, hblock⟩)⟩
  | ok b =>
    have hheight := height_getBlockAt hblock
    have hsend : Wp (w.send b) (SentOne w live first { st with clock := st.clock + 1 })
        (EndsEarly w first head live) { st with clock := st.clock + 1 } :=
      wp_send h (hheight.trans hnext) (.inl ⟨st.clock, by rw [hheight, hblock]⟩)
    exact hsend

theorem wp_emitLive {b : BlockResponse} (h : Consecutive w live first st.sent)
    (hb : b.height = first + st.sent.length) (hlive : b ∈ live) :
    Wp (w.emitLive b) (SentOne w live first st) (EndsEarly w first head live) st := by
  rw [StreamWorld.emitLive, wp_now_bind]
  exact wp_send h hb (.inr ⟨st.clock, b, hlive, rfl⟩)

theorem getElem?_heightsFrom {lo hi height : Int} {i : Nat}
    (h : (heightsFrom lo hi)[i]? = some height) : height = lo + i ∧ height ≤ hi := by
  unfold heightsFrom at h
  rw [List.getElem?_map, Option.map_eq_some_iff] at h
  obtain ⟨j, hj, rfl⟩ := h
  rw [List.getElem?_eq_some_iff] at hj
  obtain ⟨hlt, hj⟩ := hj
  rw [List.getElem_range] at hj
  rw [List.length_range] at hlt
  omega

theorem length_heightsFrom (lo hi : Int) : (heightsFrom lo hi).length = (hi + 1 - lo).toNat := by
  rw [heightsFrom, List.length_map, List.length_range]

/-- Between two announcements the loop remembers the last block it sent. -/
structure UpToDate (w : StreamWorld) (live : List BlockResponse) (first : Int) (st : StreamState) : Prop where
  consecutive : Consecutive w live first st.sent
  lastSent : st.lastSent = first + st.sent.length - 1

theorem wp_catchUp (h : UpToDate w live first st) (hempty : st.sent = []) :
    Wp (forEach (heightsFrom first head) fun h => do
        w.checkContext
        w.emitHeight h
        modify fun st => { st with lastSent := h })
      (fun _ st' => UpToDate w live first st' ∧ head ≤ st'.lastSent)
      (EndsEarly w first head live) st := by
  have hround : ∀ i height st', (heightsFrom first head)[i]? = some height →
      UpToDate w live first st' ∧ st'.sent.length = i →
      Wp (do
          w.checkContext
          w.emitHeight height
          modify fun st => { st with lastSent := height })
        (fun _ st'' => UpToDate w live first st'' ∧ st''.sent.length = i + 1)
        (EndsEarly w first head live) st' := by
    rintro i height st' hheight ⟨hup, hlength⟩
    obtain ⟨heq, hle⟩ := getElem?_heightsFrom hheight
    refine (wp_checkContext hup.consecutive).bind fun _ st₁ hst₁ => ?_
    refine (wp_emitHeight (hst₁.1 ▸ hup.consecutive) (by rw [hst₁.1, hlength, heq])
      ⟨by omega, .inl hle⟩).bind fun _ st₂ hst₂ => ?_
    obtain ⟨hconsecutive, hsent, -⟩ := hst₂
    rw [hst₁.1, hlength] at hsent
    exact ⟨⟨hconsecutive, by dsimp only; omega⟩, hsent⟩
  refine (wp_forEach (fun i st' => UpToDate w live first st' ∧ st'.sent.length = i)
    ⟨h, by rw [hempty]; rfl⟩ hround).mono (fun _ st' hst' => ⟨hst'.1, ?_⟩) fun _ _ he => he
  have hlast := hst'.1.lastSent
  rw [hst'.2, length_heightsFrom] at hlast
  omega

/-- An announcement is handled: every height up to its own is sent. -/
theorem wp_handleLive {b : BlockResponse} (h : UpToDate w live first st) (hb : b ∈ live) :
    Wp (w.handleLive b)
      (fun _ st' => UpToDate w live first st' ∧ b.height ≤ st'.lastSent ∧ st.lastSent ≤ st'.lastSent)
      (EndsEarly w first head live) st := by
  refine (wp_checkContext h.consecutive).bind fun _ st₁ hst₁ => ?_
  have hup₁ : UpToDate w live first st₁ := ⟨hst₁.1 ▸ h.consecutive, by rw [hst₁.1, hst₁.2, h.lastSent]⟩
  rw [wp_bind, wp_reads_ok, ← hst₁.2]
  refine Wp.ite (fun hle => ⟨hup₁, hle, le_refl _⟩) fun hgt => ?_
  have hround : ∀ i height st', (heightsFrom (st₁.lastSent + 1) (b.height - 1))[i]? = some height →
      Consecutive w live first st'.sent ∧ st'.sent.length = st₁.sent.length + i →
      Wp (w.emitHeight height)
        (fun _ st'' => Consecutive w live first st''.sent ∧ st''.sent.length = st₁.sent.length + (i + 1))
        (EndsEarly w first head live) st' := by
    rintro i height st' hheight ⟨hconsecutive, hlength⟩
    obtain ⟨heq, hle⟩ := getElem?_heightsFrom hheight
    have hlast := hup₁.lastSent
    refine (wp_emitHeight hconsecutive (by omega)
      ⟨by omega, .inr ⟨b, hb, by omega⟩⟩).mono (fun _ st'' hst'' => ?_) fun _ _ he => he
    exact ⟨hst''.1, by rw [hst''.2.1, hlength]; rfl⟩
  refine (wp_forEach (fun i st' => Consecutive w live first st'.sent ∧
    st'.sent.length = st₁.sent.length + i) ⟨hup₁.consecutive, rfl⟩ hround).bind fun _ st₂ hst₂ => ?_
  obtain ⟨hconsecutive, hlength⟩ := hst₂
  rw [length_heightsFrom] at hlength
  have hlast := hup₁.lastSent
  refine (wp_emitLive hconsecutive (by omega) hb).bind fun _ st₃ hst₃ => ?_
  obtain ⟨hconsecutive₃, hlength₃, -⟩ := hst₃
  refine ⟨⟨hconsecutive₃, ?_⟩, le_refl _, ?_⟩
  · dsimp only
    omega
  · dsimp only
    omega

theorem wp_runIndexerStream :
    Wp (w.runIndexerStream first head live)
      (fun _ st' => UpToDate w live first st' ∧ head ≤ st'.lastSent ∧
        ∀ b ∈ live, b.height ≤ st'.lastSent)
      (EndsEarly w first head live) {} := by
  have hstart : UpToDate w live first { lastSent := first - 1 } := ⟨trivial, by simp⟩
  rw [StreamWorld.runIndexerStream, wp_bind, wp_modify]
  refine (wp_catchUp hstart rfl).bind fun _ st₁ hst₁ => ?_
  have hround : ∀ i b st', live[i]? = some b →
      UpToDate w live first st' ∧ head ≤ st'.lastSent ∧ (∀ b' ∈ live.take i, b'.height ≤ st'.lastSent) →
      Wp (w.handleLive b)
        (fun _ st'' => UpToDate w live first st'' ∧ head ≤ st''.lastSent ∧
          ∀ b' ∈ live.take (i + 1), b'.height ≤ st''.lastSent)
        (EndsEarly w first head live) st' := by
    rintro i b st' hlive ⟨hup, hhead, hbefore⟩
    refine (wp_handleLive hup (List.mem_of_getElem? hlive)).mono (fun _ st'' hst'' => ?_)
      fun _ _ he => he
    obtain ⟨hup'', hb, hmono⟩ := hst''
    refine ⟨hup'', hhead.trans hmono, fun b' hb' => ?_⟩
    rw [List.take_add_one, hlive, Option.toList_some, List.mem_append, List.mem_singleton] at hb'
    rcases hb' with hb' | rfl
    · exact (hbefore b' hb').trans hmono
    · exact hb
  refine (wp_forEach (fun i st' => UpToDate w live first st' ∧ head ≤ st'.lastSent ∧
    ∀ b' ∈ live.take i, b'.height ≤ st'.lastSent) ⟨hst₁.1, hst₁.2, by simp⟩ hround).mono
    (fun _ st' hst' => ?_) fun _ _ he => he
  rwa [List.take_length] at hst'

/-- Whatever is announced, the blocks that are sent have the heights from the start on, in order, and
are those that were read at their heights or announced.
Once the announcements are handled every height up to the head and up to theirs has been sent, and
only a fault keeps them from being handled. -/
theorem runIndexerStream_emits (w : StreamWorld) (startHeight head : Int)
    (live : List BlockResponse) :
    let (result, st) := w.runIndexerStream startHeight head live {}
    st.sent.reverse.map BlockResponse.height =
      (List.range st.sent.length).map (fun i : Nat => startHeight + (i : Int)) ∧
    (∀ b ∈ st.sent, Sourced w live b) ∧
    (result = .ok () → ∀ k, startHeight ≤ k → (k ≤ head ∨ ∃ b ∈ live, k ≤ b.height) →
      k ∈ st.sent.map BlockResponse.height) ∧
    (∀ e, result = .error e → Fault w startHeight head live) := by
  have h : Wp (w.runIndexerStream startHeight head live) _ _ {} := wp_runIndexerStream
  unfold Wp at h
  match hrun : w.runIndexerStream startHeight head live {} with
  | (.ok _, st) =>
    rw [hrun] at h
    obtain ⟨hup, hhead, hlive⟩ := h
    refine ⟨hup.consecutive.heights, hup.consecutive.sourced, fun _ k hk hcovered => hup.consecutive.mem hk ?_,
      fun e he => (by cases he)⟩
    have hlast := hup.lastSent
    rcases hcovered with hle | ⟨b, hb, hle⟩
    · omega
    · have := hlive b hb
      omega
  | (.error e, st) =>
    rw [hrun] at h
    exact ⟨h.1.heights, h.1.sourced, fun hok => (by cases hok), fun _ _ => h.2⟩

end Stream

/-- A node with two blocks, at which nothing fails. -/
def replayingWorld : StreamWorld :=
  let node := { Server.auditedNode with
    committed := (Server.auditedNode.commitAll Server.auditedDb Server.auditedRun).getD Db.empty }
  { node := fun _ => node
    rows := fun _ height => node.committed.getBlockWithTransactions height
    mayReturn := fun _ height => Db.mayReturn_getBlockWithTransactions node.committed height
    sort := .insertion
    canon := true
    cancelled := fun _ => false
    queryFails := fun _ => false
    sendFails := fun _ => false }

/-- The announcement of the first block is dropped, and that of the second comes twice. -/
example :
    let second : BlockResponse :=
      { hash := upperHex (bigEndian 32 1)
        chainId := "openaudio-devnet"
        proposer := Server.auditedProposer.val
        height := 16
        timestamp := 1700000016000000 }
    (replayingWorld.runIndexerStream 15 14 [second, second] {}).2.sent.map BlockResponse.height =
      [16, 15] := by
  decide +kernel

end OpenAudio.Core
