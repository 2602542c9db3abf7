import OpenAudio.Mediorum.Pulls
import Mathlib.Data.Finset.Basic

/-!
# The queue of asynchronous pulls

A pull is put into a channel by whoever asks for it and taken out by a worker. The CIDs that are
under way are in a map under a mutex, which an enqueue holds while it sends and a worker takes once
its pull is over. A run is any interleaving of the statements of these calls.
-/

namespace OpenAudio.Mediorum

inductive AsyncPullAdmission where
  | queued
  | running
deriving DecidableEq

def errAsyncPullQueueFull : String := "pull queue is full"

/-- Who holds `asyncPullMu`, and how far the call is: `enqueueAsyncPull` with its job, then with
its answer, or `releaseAsyncPull`. -/
inductive MutexHolder where
  | locked (job : AsyncPullJob)
  | absent (job : AsyncPullJob)
  | sent (job : AsyncPullJob)
  | answered (job : AsyncPullJob) (answer : Except String AsyncPullAdmission)
  | releasing (job : AsyncPullJob)
  | released

inductive QueueEvent where
  | placed (job : AsyncPullJob)
  | answered (job : AsyncPullJob) (answer : Except String AsyncPullAdmission)

namespace QueueEvent

def placedJob : QueueEvent → Option AsyncPullJob
  | placed job => some job
  | answered _ _ => none

def queuedJob : QueueEvent → Option AsyncPullJob
  | answered job (.ok .queued) => some job
  | _ => none

end QueueEvent

/-- `pulling` are the jobs of the workers, in the order they were received. The log is kept by the
model only. -/
structure PullQueue where
  queue : List AsyncPullJob := []
  inFlight : Finset String := ∅
  holder : Option MutexHolder := none
  pulling : List AsyncPullJob := []
  log : List QueueEvent := []

inductive QueueStep where
  | lock (job : AsyncPullJob)
  | check
  | select
  | mark
  | unlock
  | receive
  | finish (i : Nat)
  | delete

/-- The statements of `enqueueAsyncPull`. -/
def enqueueAsyncPull (job : AsyncPullJob) : List QueueStep :=
  [.lock job, .check, .select, .mark, .unlock]

namespace PullQueue

/-- One statement, for a channel of this capacity; none if it cannot be taken now. A receive needs
no mutex. `finish` is the deferred `releaseAsyncPull`, whatever `runAsyncPull` came to. -/
def step (depth : Nat) (s : PullQueue) : QueueStep → Option PullQueue
  | .lock job => match s.holder with
    | none => some { s with holder := some (.locked job) }
    | some _ => none
  | .check => match s.holder with
    | some (.locked job) =>
      if job.cid ∈ s.inFlight then some { s with holder := some (.answered job (.ok .running)) }
      else some { s with holder := some (.absent job) }
    | _ => none
  | .select => match s.holder with
    | some (.absent job) =>
      if s.queue.length < depth then
        some { s with
          queue := s.queue ++ [job], holder := some (.sent job), log := s.log ++ [.placed job] }
      else some { s with holder := some (.answered job (.error errAsyncPullQueueFull)) }
    | _ => none
  | .mark => match s.holder with
    | some (.sent job) =>
      some { s with
        inFlight := insert job.cid s.inFlight, holder := some (.answered job (.ok .queued)) }
    | _ => none
  | .unlock => match s.holder with
    | some (.answered job answer) =>
      some { s with holder := none, log := s.log ++ [.answered job answer] }
    | some .released => some { s with holder := none }
    | _ => none
  | .receive => match s.queue with
    | job :: rest => some { s with queue := rest, pulling := s.pulling ++ [job] }
    | [] => none
  | .finish i => match s.holder, s.pulling[i]? with
    | none, some job =>
      some { s with pulling := s.pulling.eraseIdx i, holder := some (.releasing job) }
    | _, _ => none
  | .delete => match s.holder with
    | some (.releasing job) =>
      some { s with inFlight := s.inFlight.erase job.cid, holder := some .released }
    | _ => none

def run (depth : Nat) (s : PullQueue) (steps : List QueueStep) : Option PullQueue :=
  steps.foldlM (step depth) s

/-- The job whose worker is in `releaseAsyncPull` and has not deleted its CID. -/
def releasing (s : PullQueue) : List AsyncPullJob :=
  match s.holder with
  | some (.releasing job) => [job]
  | _ => []

/-- The CID that was sent and is not in the map yet. Its enqueue holds the mutex. -/
def marking (s : PullQueue) : List String :=
  match s.holder with
  | some (.sent job) => [job.cid]
  | _ => []

/-- The job of an enqueue that is about to answer that it is queued. -/
def pending (s : PullQueue) : List AsyncPullJob :=
  match s.holder with
  | some (.sent job) => [job]
  | some (.answered job (.ok .queued)) => [job]
  | _ => []

/-- The job of an enqueue that did not find its CID and has not placed it. -/
def unqueued (s : PullQueue) : List AsyncPullJob :=
  match s.holder with
  | some (.absent job) => [job]
  | some (.answered job (.error _)) => [job]
  | _ => []

/-- The CIDs in the queue and under a worker, each as often as it is there. -/
def cids (s : PullQueue) : List String := (s.queue ++ s.pulling ++ s.releasing).map (·.cid)

/-- The map is the set of the CIDs under way, of which each is there once, and every job that was
placed is that of one answer. -/
structure Exact (s : PullQueue) : Prop where
  marked : ∀ cid, cid ∈ s.inFlight ∨ cid ∈ s.marking ↔ cid ∈ s.cids
  once : s.cids.Nodup
  absent : ∀ job ∈ s.unqueued, job.cid ∉ s.inFlight
  answered : s.log.filterMap QueueEvent.placedJob =
    s.log.filterMap QueueEvent.queuedJob ++ s.pending

variable {depth : Nat} {s s' : PullQueue}

/-- A statement that moves jobs around, or only the mutex. -/
theorem Exact.moved (h : s.Exact) (hmap : s'.inFlight = s.inFlight)
    (hmarking : s'.marking = s.marking) (hcids : s'.cids.Perm s.cids)
    (habsent : ∀ job ∈ s'.unqueued, job.cid ∉ s.inFlight)
    (hanswered : s'.log.filterMap QueueEvent.placedJob =
      s'.log.filterMap QueueEvent.queuedJob ++ s'.pending) : s'.Exact where
  marked cid := by rw [hmap, hmarking, h.marked, hcids.mem_iff]
  once := hcids.nodup_iff.mpr h.once
  absent job hjob := by
    rw [hmap]
    exact habsent job hjob
  answered := hanswered

theorem Exact.select (h : s.Exact) {job : AsyncPullJob} (hholder : s.holder = some (.absent job)) :
    Exact { s with
      queue := s.queue ++ [job], holder := some (.sent job), log := s.log ++ [.placed job] } := by
  have hcids : s.cids = (s.queue ++ s.pulling).map (·.cid) := by simp [cids, releasing, hholder]
  have hfresh : job.cid ∉ s.cids := by
    rw [← h.marked]
    simp [marking, hholder, h.absent job (by simp [unqueued, hholder])]
  have hperm : (cids { s with
      queue := s.queue ++ [job], holder := some (.sent job), log := s.log ++ [.placed job] }).Perm
      (job.cid :: s.cids) := by
    rw [hcids]
    simp [cids, releasing, List.perm_middle]
  refine ⟨fun cid => ?_, hperm.nodup_iff.mpr (List.nodup_cons.mpr ⟨hfresh, h.once⟩), ?_, ?_⟩
  · have hmarked := h.marked cid
    simp only [marking, hholder, List.not_mem_nil, or_false] at hmarked
    rw [hperm.mem_iff, List.mem_cons, ← hmarked]
    simp only [marking, List.mem_singleton]
    exact or_comm
  · simp [unqueued]
  · have hanswered := h.answered
    simp only [pending, hholder, List.append_nil] at hanswered
    simp [pending, hanswered, QueueEvent.placedJob, QueueEvent.queuedJob]

theorem Exact.delete (h : s.Exact) {job : AsyncPullJob}
    (hholder : s.holder = some (.releasing job)) :
    Exact { s with inFlight := s.inFlight.erase job.cid, holder := some .released } := by
  have hcids : s.cids = (s.queue ++ s.pulling).map (·.cid) ++ [job.cid] := by
    simp [cids, releasing, hholder]
  have honce := h.once
  rw [hcids, List.nodup_append_comm, List.singleton_append, List.nodup_cons] at honce
  refine ⟨fun cid => ?_, by simpa [cids, releasing] using honce.2, ?_, ?_⟩
  · have hmarked := h.marked cid
    simp only [marking, hholder, hcids, List.not_mem_nil, or_false, List.mem_append,
      List.mem_singleton] at hmarked
    simp only [marking, cids, releasing, Finset.mem_erase, hmarked, List.not_mem_nil, or_false,
      List.append_nil]
    constructor
    · rintro ⟨hne, hrest | heq⟩
      exacts [hrest, absurd heq hne]
    · intro hrest
      exact ⟨fun heq => honce.1 (heq ▸ hrest), .inl hrest⟩
  · simp [unqueued]
  · simpa [pending, hholder] using h.answered

/-- What one statement preserves. -/
theorem Exact.step (h : s.Exact) {a : QueueStep} (hstep : s.step depth a = some s') :
    s'.Exact := by
  have hanswered := h.answered
  cases a with
  | lock job =>
    simp only [PullQueue.step] at hstep
    split at hstep
    · rename_i hholder
      cases hstep
      exact h.moved rfl (by simp [marking, hholder]) (by simp [cids, releasing, hholder])
        (by simp [unqueued]) (by simpa [pending, hholder] using hanswered)
    · cases hstep
  | check =>
    simp only [PullQueue.step] at hstep
    split at hstep
    · rename_i job hholder
      simp only [pending, hholder] at hanswered
      split at hstep <;> cases hstep
      · exact h.moved rfl (by simp [marking, hholder]) (by simp [cids, releasing, hholder])
          (by simp [unqueued]) hanswered
      · rename_i hnot
        exact h.moved rfl (by simp [marking, hholder]) (by simp [cids, releasing, hholder])
          (by simpa [unqueued] using hnot) hanswered
    · cases hstep
  | select =>
    simp only [PullQueue.step] at hstep
    split at hstep
    · rename_i job hholder
      split at hstep <;> cases hstep
      · exact h.select hholder
      · exact h.moved rfl (by simp [marking, hholder]) (by simp [cids, releasing, hholder])
          (by simpa [unqueued, hholder] using h.absent)
          (by simpa [pending, hholder] using hanswered)
    · cases hstep
  | mark =>
    simp only [PullQueue.step] at hstep
    split at hstep
    · rename_i job hholder
      cases hstep
      refine ⟨fun cid => ?_, by simpa [cids, releasing, hholder] using h.once, ?_,
        by simpa [pending, hholder] using hanswered⟩
      · have hmarked := h.marked cid
        simp only [marking, cids, releasing, hholder, List.mem_singleton] at hmarked
        simp only [marking, cids, releasing, Finset.mem_insert, List.not_mem_nil, or_false]
        rw [or_comm, hmarked]
      · simp [unqueued]
    · cases hstep
  | unlock =>
    simp only [PullQueue.step] at hstep
    split at hstep
    · rename_i job answer hholder
      cases hstep
      refine h.moved rfl (by simp [marking, hholder]) (by simp [cids, releasing, hholder])
        (by simp [unqueued]) ?_
      rcases answer with e | _ | _ <;>
        simpa [pending, hholder, List.filterMap_cons, QueueEvent.placedJob, QueueEvent.queuedJob]
          using hanswered
    · rename_i hholder
      cases hstep
      exact h.moved rfl (by simp [marking, hholder]) (by simp [cids, releasing, hholder])
        (by simp [unqueued]) (by simpa [pending, hholder] using hanswered)
    · cases hstep
  | receive =>
    simp only [PullQueue.step] at hstep
    split at hstep
    · rename_i job rest hqueue
      cases hstep
      refine h.moved rfl rfl ?_ h.absent hanswered
      -- the job goes from the front of the queue behind those of the workers
      refine List.Perm.map _ (List.Perm.append_right _ ?_)
      rw [hqueue, List.cons_append, ← List.append_assoc]
      exact List.perm_append_singleton job _
    · cases hstep
  | finish i =>
    simp only [PullQueue.step] at hstep
    split at hstep
    · rename_i job hholder hjob
      cases hstep
      refine h.moved rfl (by simp [marking, hholder]) ?_ (by simp [unqueued])
        (by simpa [pending, hholder] using hanswered)
      obtain ⟨hi, rfl⟩ := List.getElem?_eq_some_iff.mp hjob
      simp only [cids, releasing, hholder, List.append_nil, List.append_assoc]
      refine List.Perm.map _ (List.Perm.append_left _ ?_)
      exact (List.perm_append_singleton _ _).trans (List.getElem_cons_eraseIdx_perm hi)
    · cases hstep
  | delete =>
    simp only [PullQueue.step] at hstep
    split at hstep
    · rename_i job hholder
      cases hstep
      exact h.delete hholder
    · cases hstep

theorem Exact.run (h : s.Exact) {steps : List QueueStep} (hrun : s.run depth steps = some s') :
    s'.Exact := by
  induction steps generalizing s with
  | nil => exact Option.some.inj hrun ▸ h
  | cons a steps ih =>
    obtain ⟨s₁, hstep, hrest⟩ := Option.bind_eq_some_iff.mp hrun
    exact ih (h.step hstep) hrest

theorem exact_start : Exact {} :=
  ⟨by simp [marking, cids, releasing], by simp [cids, releasing], by simp [unqueued],
    rfl⟩

/-- A call that finds its CID absent and room in the queue places its job. -/
theorem run_enqueueAsyncPull {job : AsyncPullJob} (hfree : s.holder = none)
    (habsent : job.cid ∉ s.inFlight) (hroom : s.queue.length < depth) :
    ∃ s', s.run depth (enqueueAsyncPull job) = some s' ∧ s'.queue = s.queue ++ [job] ∧
      s'.log = s.log ++ [.placed job, .answered job (.ok .queued)] := by
  refine ⟨{ s with
    queue := s.queue ++ [job], inFlight := insert job.cid s.inFlight, holder := none,
    log := s.log ++ [.placed job] ++ [.answered job (.ok .queued)] }, ?_, rfl, by simp⟩
  simp [run, enqueueAsyncPull, PullQueue.step, hfree, habsent, hroom]

/-- In every state of every interleaving: the map and the CID an enqueue is about to mark are the
CIDs in the queue or under a worker, so that the map is exactly these whenever the mutex is free;
none of them is there twice; the jobs that were placed are those of the enqueues that were answered
as queued, or are about to be, one each; an enqueue for which the queue was full leaves its CID out
of the map; and an enqueue of a CID that is not under way is queued if there is room. -/
theorem inFlight_exact_of_run {steps : List QueueStep} (hrun : run depth {} steps = some s) :
    (∀ cid, cid ∈ s.inFlight ∨ cid ∈ s.marking ↔ cid ∈ s.cids) ∧
    (s.holder = none → ∀ cid, cid ∈ s.inFlight ↔ cid ∈ s.cids) ∧ s.cids.Nodup ∧
    s.log.filterMap QueueEvent.placedJob = s.log.filterMap QueueEvent.queuedJob ++ s.pending ∧
    (∀ job e, s.holder = some (.answered job (.error e)) →
      ∃ s', s.step depth .unlock = some s' ∧ s'.holder = none ∧ job.cid ∉ s'.inFlight) ∧
    ∀ job, s.holder = none → job.cid ∉ s.cids → s.queue.length < depth →
      ∃ s', s.run depth (enqueueAsyncPull job) = some s' ∧ s'.queue = s.queue ++ [job] ∧
        s'.log = s.log ++ [.placed job, .answered job (.ok .queued)] := by
  have h := exact_start.run hrun
  have hexact : s.holder = none → ∀ cid, cid ∈ s.inFlight ↔ cid ∈ s.cids := by
    intro hfree cid
    simpa [marking, hfree] using h.marked cid
  refine ⟨h.marked, hexact, h.once, h.answered, fun job e hholder => ?_,
    fun job hfree hnot hroom => ?_⟩
  · refine ⟨{ s with holder := none, log := s.log ++ [.answered job (.error e)] }, ?_, rfl, ?_⟩
    · simp only [PullQueue.step, hholder]
    · exact h.absent job (by simp [unqueued, hholder])
  · exact run_enqueueAsyncPull hfree (mt (hexact hfree _).mp hnot) hroom

/-- With room for one job, the second pull is refused while the first waits, the same pull is folded
into it, and the worker's release is all that is left of it. -/
def refusedPull : List QueueStep :=
  let job (cid : String) : AsyncPullJob :=
    { sourceHost := "https://b.example", cid, ranked := [], answer := { body := .ok [] } }
  enqueueAsyncPull (job "a") ++ [.lock (job "a"), .check, .unlock] ++
    [.lock (job "b"), .check, .select, .receive, .unlock, .finish 0, .delete, .unlock]

theorem refusedPull_exact : ∃ s, run 1 {} refusedPull = some s ∧ s.holder = none ∧ s.log.length = 4 ∧
    ∀ cid, cid ∈ s.inFlight ↔ cid ∈ s.cids := by
  obtain ⟨s, hs⟩ : ∃ s, run 1 {} refusedPull = some s := ⟨_, rfl⟩
  have hend : s.holder = none ∧ s.log.length = 4 := by
    cases hs
    exact ⟨rfl, rfl⟩
  exact ⟨s, hs, hend.1, hend.2, (inFlight_exact_of_run hs).2.1 hend.1⟩

end PullQueue

end OpenAudio.Mediorum
