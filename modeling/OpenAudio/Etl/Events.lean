import OpenAudio.Etl.Tracks

/-!
# Remix contests

An event hangs on an entity and has an end date. At any time an entity may host one remix contest
that is still running: opening another one is refused. The end date of a contest can be moved later
on, also when it has passed.
-/

namespace OpenAudio.Etl

open OpenAudio.Core Prog

structure EventEnv extends EntityEnv where
  /-- the moment `time.Parse` reads in one of the two layouts -/
  parseDate : String → Option Int
  /-- the timestamp the server reads in a text, whose zone it ignores -/
  timestampOf : String → Option Int

/-! ### Queries -/

namespace EntityTables

variable (s : EntityTables)

/-- The live row of an event. -/
def liveEvent (eventID : Int) : Except EtlError (Option EventRow) := do
  let id ← Int4.ofInt eventID
  return s.events.find? fun e => e.eventId == id && !e.isDeleted

def eventExists (eventID : Int) : Except EtlError Bool := do
  let e ← s.liveEvent eventID
  return e.isSome

def eventOwner (eventID : Int) : Except EtlError Int := do
  match ← s.liveEvent eventID with
  | some e => return e.userId.val
  | none => .error .noRows

def eventTypeAndEndDate (eventID : Int) : Except EtlError (String × Option Int) := do
  match ← s.liveEvent eventID with
  | some e => return (e.eventType, e.endDate)
  | none => .error .noRows

end EntityTables

/-- A remix contest that has not ended by the time. -/
def EventRow.isRunning (e : EventRow) (time : Int) : Bool :=
  e.eventType == "remix_contest" && !e.isDeleted && e.endDate.any fun d => decide (time < d)

/-! ### Creating -/

section Create

variable (env : EventEnv) (p : EntityParams)

def parseEventEndDate (text : String) : Except EtlError Int :=
  match env.parseDate text with
  | some d => .ok d
  | none => .error (.validation "end_date is not a valid iso format")

/-- An event on a track is the track owner's. -/
def validateEventTrack (s : EntityTables) : Except EtlError Unit :=
  match p.metadataInt64 env.rt "entity_id" with
  | some entityID =>
    if p.metadataString "entity_type" = "track" then do
      let user := p.userId
      let trackOK ← s.trackExists entityID
      invalidIf (trackOK = false) s!"track {entityID} does not exist"
      let ownerID ← s.getTrackOwner entityID
      invalidIf (ownerID ≠ user) s!"user {user} is not the owner of track {entityID}"
    else return ()
  | none => return ()

def validateEventCreateShape (s : EntityTables) : Except EtlError Int := do
  let id := p.entityId
  let user := p.userId
  let eventType := p.metadataString "event_type"
  validateSigner env.rt s.base p.toParams
  let taken ← s.eventExists id
  invalidIf (taken = true) s!"event {id} already exists"
  invalidIf (eventType = "") "missing required field: event_type"
  invalidIf (p.metadataString "end_date" = "") "missing required field: end_date"
  let endDate ← parseEventEndDate env (p.metadataString "end_date")
  let userOK ← s.base.userExists user
  invalidIf (userOK = false) s!"user {user} does not exist"
  validateEventTrack env p s
  invalidIf (eventType = "remix_contest" ∧ ((p.metadataInt64 env.rt "entity_id").isNone = true ∨
    p.metadataString "entity_type" = ""))
    "for remix competitions, entity_id and entity_type must be provided"
  return endDate

/-- A track whose `remix_of` is neither NULL nor the JSON null. -/
def TrackRow.isRemix (r : TrackRow) : Bool :=
  match r.jsons .remixOf with
  | none | some .null => false
  | some _ => true

def validateRemixContestOpening (entityID : Int) (s : EntityTables) : Except EtlError Unit := do
  let id ← Int4.ofInt entityID
  let contestExists := s.events.any fun e => e.entityId == some id && e.isRunning p.blockTime
  invalidIf (contestExists = true)
    s!"an existing remix contest for entity_id {entityID} already exists"
  invalidIf ((s.currentTrack id).any TrackRow.isRemix = true)
    s!"track {entityID} is a remix and cannot host a remix contest"

def validateCreateEvent (s : EntityTables) : Except EtlError Unit := do
  let endDate ← validateEventCreateShape env p s
  invalidIf (endDate < p.blockTime) "end_date cannot be in the past"
  if p.metadataString "event_type" = "remix_contest" then
    validateRemixContestOpening p ((p.metadataInt64 env.rt "entity_id").getD 0) s
  else return ()

/-- Bind the text of a date to a timestamp parameter. -/
def bindTimestamp (text : String) : Except EtlError Int :=
  match env.timestampOf text with
  | some d => .ok d
  | none => .error (.query .invalidText)

def insertEvent : EntityProg Unit := stmt fun s => do
  let id ← Int4.ofInt p.entityId
  let user ← Int4.ofInt p.userId
  let entity ← Int4.ofInt ((p.metadataInt64 env.rt "entity_id").getD 0)
  bindOptText (some (p.metadataString "event_type"))
  bindOptText (some (p.metadataString "entity_type"))
  bindJson (p.metadataJSON "event_data")
  let endDate ← bindTimestamp env (p.metadataString "end_date")
  if s.events.any fun e => e.eventId == id then .error (.query (.uniqueViolation "events_pkey"))
  else return { s with events := s.events ++
    [{ eventId := id
       eventType := p.metadataString "event_type"
       userId := user
       entityId := some entity
       endDate := some endDate
       isDeleted := false
       entityType := p.metadataString "entity_type" }] }

def eventCreateHandler : EntityProg Unit := do
  reads (validateCreateEvent env p)
  insertEvent env p

end Create

/-! ### Changing -/

section Change

variable (env : EventEnv) (p : EntityParams)

/-- The event exists and is the user's. -/
def validateOwnEvent (verb : String) (s : EntityTables) : Except EtlError Unit := do
  let id := p.entityId
  validateSigner env.rt s.base p.toParams
  let found ← s.eventExists id
  invalidIf (found = false) s!"cannot {verb} event {id} that does not exist"
  let ownerID ← s.eventOwner id
  invalidIf (ownerID ≠ p.userId) s!"only event owner can {verb} event {id}"

/-- For a remix contest the date may not go back, and for another event it lies ahead. -/
def validateNewEndDate (endDate : Int) : String × Option Int → Except EtlError Unit
  | ("remix_contest", some current) => invalidIf (endDate < current)
    "end_date cannot be before the current end_date of the remix contest"
  | _ => invalidIf (endDate < p.blockTime) "end_date cannot be in the past"

def validateUpdateEvent (s : EntityTables) : Except EtlError Unit := do
  validateOwnEvent env p "update" s
  if p.metadataString "end_date" = "" then return ()
  else
    let endDate ← parseEventEndDate env (p.metadataString "end_date")
    let current ← s.eventTypeAndEndDate p.entityId
    validateNewEndDate p endDate current

def EntityTables.updateEvents (s : EntityTables) (id : Int4) (f : EventRow → EventRow) :
    EntityTables :=
  { s with events := s.events.map fun e => if e.eventId == id then f e else e }

def eventUpdateHandler : EntityProg Unit := do
  reads (validateUpdateEvent env p)
  stmt fun s => do
    let id ← Int4.ofInt p.entityId
    bindJson (p.metadataJSON "event_data")
    if p.metadataString "end_date" = "" then return s
    else
      let endDate ← bindTimestamp env (p.metadataString "end_date")
      return s.updateEvents id fun e => { e with endDate := some endDate }

def eventDeleteHandler : EntityProg Unit := do
  reads (validateOwnEvent env p "delete")
  stmt fun s => do
    let id ← Int4.ofInt p.entityId
    return s.updateEvents id fun e => { e with isDeleted := true }

/-- The handler of a live Event Create, Update or Delete. -/
def eventHandler : Option (EntityProg Unit) :=
  if p.entityType = "Event" ∧ p.action = "Create" then some (eventCreateHandler env p)
  else if p.entityType = "Event" ∧ p.action = "Update" then some (eventUpdateHandler env p)
  else if p.entityType = "Event" ∧ p.action = "Delete" then some (eventDeleteHandler env p)
  else none

end Change

/-! ### Runs -/

/-- The tables and the time after some accepted event transactions, each of which meets `C` where
it runs. Between them other transactions may change everything but the events. -/
inductive EventRun (env : EventEnv) (C : EntityTables → EntityTx → Prop) (s₀ : EntityTables)
    (t₀ : Int) : EntityTables → Int → Prop
  | init : EventRun env C s₀ t₀ s₀ t₀
  | other {s s' : EntityTables} {t t' : Int} : EventRun env C s₀ t₀ s t → t ≤ t' →
    s'.events = s.events → EventRun env C s₀ t₀ s' t'
  | step {s s' : EntityTables} {t : Int} {tx : EntityTx} : EventRun env C s₀ t₀ s t →
    t ≤ tx.blockTime → C s tx → Accepts (eventHandler env) tx s s' →
    EventRun env C s₀ t₀ s' tx.blockTime

/-- A contest on an entity that is running at the time. -/
def EventRow.isRunningOn (entityType : String) (entity : Option Int4) (time : Int) (e : EventRow) :
    Bool :=
  e.entityType == entityType && e.entityId == entity && e.isRunning time

/-- No entity has two contests that are running at the time. -/
def EntityTables.OneContest (s : EntityTables) (time : Int) : Prop :=
  ∀ (entityType : String) (entity : Option Int4),
    s.events.countP (EventRow.isRunningOn entityType entity time) ≤ 1

/-- An Update that gives a remix contest an end date comes while the contest is running. -/
def MovesRunningContest (s : EntityTables) (tx : EntityTx) : Prop :=
  tx.tx.action = "Update" → tx.params.metadataString "end_date" ≠ "" →
    ∀ e ∈ s.events, e.eventId.val = tx.tx.entityId → e.eventType = "remix_contest" →
      e.isDeleted = false → e.isRunning tx.blockTime = true

section Steps

variable {env : EventEnv} {p : EntityParams} {s s' : EntityTables} {entityType : String}
  {entity : Option Int4} {t t' : Int}

theorem isRunningOn_of_le {e : EventRow} (hle : t ≤ t')
    (h : e.isRunningOn entityType entity t' = true) : e.isRunningOn entityType entity t = true := by
  simp only [EventRow.isRunningOn, EventRow.isRunning, Bool.and_eq_true, Option.any_eq_true,
    decide_eq_true_eq] at h ⊢
  obtain ⟨hon, hlive, d, hd, hlt⟩ := h
  exact ⟨hon, hlive, d, hd, by omega⟩

/-- Contests only end as time passes. -/
theorem EntityTables.OneContest.later (h : s.OneContest t) (hle : t ≤ t') : s.OneContest t' := fun ty id =>
  (List.countP_mono_left fun _ _ hrun => isRunningOn_of_le hle hrun).trans (h ty id)

/-- A change that starts no contest. -/
theorem EntityTables.OneContest.updateEvents {id : Int4} {f : EventRow → EventRow} (h : s.OneContest t)
    (hf : ∀ e ∈ s.events, e.eventId = id → ∀ ty entity, (f e).isRunningOn ty entity t = true →
      e.isRunningOn ty entity t = true) : (s.updateEvents id f).OneContest t := by
  intro ty entity
  refine le_trans ?_ (h ty entity)
  rw [EntityTables.updateEvents, List.countP_map]
  refine List.countP_mono_left fun e he hrun => ?_
  simp only [Function.comp_apply] at hrun
  split at hrun
  · rename_i hid
    exact hf e he (by simpa using hid) ty entity hrun
  · exact hrun

theorem insertEvent_eq_ok {u : Unit} (h : insertEvent env p s = (.ok u, s')) :
    ∃ e : EventRow, s'.events = s.events ++ [e] ∧ e.eventType = p.metadataString "event_type" ∧
      ∃ entity, e.entityId = some entity ∧
        entity.val = (p.metadataInt64 env.rt "entity_id").getD 0 := by
  have h := stmt_eq_ok h
  obtain ⟨id, -, h⟩ := except_bind_eq_ok.mp h
  obtain ⟨user, -, h⟩ := except_bind_eq_ok.mp h
  obtain ⟨entity, hentity, h⟩ := except_bind_eq_ok.mp h
  obtain ⟨-, -, h⟩ := except_bind_eq_ok.mp h
  obtain ⟨-, -, h⟩ := except_bind_eq_ok.mp h
  obtain ⟨-, -, h⟩ := except_bind_eq_ok.mp h
  obtain ⟨endDate, -, h⟩ := except_bind_eq_ok.mp h
  split at h
  · cases h
  · cases h
    exact ⟨_, rfl, rfl, entity, rfl, Int4.ofInt_eq_ok hentity⟩

/-- A contest opens only where none is running. -/
theorem validateCreateEvent_contest (h : validateCreateEvent env p s = .ok ())
    (hcontest : p.metadataString "event_type" = "remix_contest") {id : Int4}
    (hid : id.val = (p.metadataInt64 env.rt "entity_id").getD 0) {e : EventRow}
    (he : e ∈ s.events) (hon : e.entityId = some id) : e.isRunning p.blockTime = false := by
  unfold validateCreateEvent at h
  obtain ⟨endDate, -, h⟩ := except_bind_eq_ok.mp h
  obtain ⟨-, h⟩ := invalidIf_bind_eq_ok.mp h
  rw [if_pos hcontest, validateRemixContestOpening, ← hid, Int4.ofInt_val] at h
  obtain ⟨hnone, -⟩ := invalidIf_bind_eq_ok.mp h
  simp only [List.any_eq_true, Bool.and_eq_true, beq_iff_eq, not_exists, not_and] at hnone
  exact Bool.eq_false_of_not_eq_true (hnone e he hon)

theorem eventCreate_oneContest {u : Unit} (h : s.OneContest p.blockTime)
    (hrun : eventCreateHandler env p s = (.ok u, s')) : s'.OneContest p.blockTime := by
  obtain ⟨_, hvalid, hinsert⟩ := reads_bind_eq_ok hrun
  obtain ⟨e, hevents, htype, id, hid, hval⟩ := insertEvent_eq_ok hinsert
  intro ty entity
  rw [hevents, List.countP_append, List.countP_singleton]
  split
  · rename_i hnew
    -- the new contest is running: by the check, no other one on its entity is
    simp only [EventRow.isRunningOn, EventRow.isRunning, Bool.and_eq_true, beq_iff_eq] at hnew
    obtain ⟨⟨-, hon⟩, ⟨hcontest, -⟩, -⟩ := hnew
    have hnone : s.events.countP (EventRow.isRunningOn ty entity p.blockTime) = 0 := by
      apply List.countP_eq_zero.mpr
      intro e' he' hrunning
      simp only [EventRow.isRunningOn, Bool.and_eq_true, beq_iff_eq] at hrunning
      have hstill := validateCreateEvent_contest hvalid (htype ▸ hcontest) hval he'
        (hrunning.1.2.trans (hon.symm.trans hid))
      rw [hrunning.2] at hstill
      cases hstill
    rw [hnone]
  · exact h ty entity

theorem eventUpdate_oneContest {u : Unit} (h : s.OneContest p.blockTime)
    (hmoves : p.metadataString "end_date" ≠ "" → ∀ e ∈ s.events, e.eventId.val = p.entityId →
      e.eventType = "remix_contest" → e.isDeleted = false → e.isRunning p.blockTime = true)
    (hrun : eventUpdateHandler env p s = (.ok u, s')) : s'.OneContest p.blockTime := by
  obtain ⟨_, -, hrun⟩ := reads_bind_eq_ok hrun
  obtain ⟨id, hid, hrun⟩ := except_bind_eq_ok.mp (stmt_eq_ok hrun)
  obtain ⟨-, -, hrun⟩ := except_bind_eq_ok.mp hrun
  split at hrun
  · cases hrun
    exact h
  · rename_i hdate
    obtain ⟨endDate, -, hrun⟩ := except_bind_eq_ok.mp hrun
    cases hrun
    apply EntityTables.OneContest.updateEvents h
    intro e he heid ty entity hnew
    simp only [EventRow.isRunningOn, EventRow.isRunning, Bool.and_eq_true, beq_iff_eq,
      Bool.not_eq_true'] at hnew
    have hrunning := hmoves hdate e he (by rw [heid, Int4.ofInt_eq_ok hid]) hnew.2.1.1 hnew.2.1.2
    simp only [EventRow.isRunningOn, Bool.and_eq_true, beq_iff_eq]
    exact ⟨hnew.1, hrunning⟩

theorem eventDelete_oneContest {u : Unit} (h : s.OneContest t)
    (hrun : eventDeleteHandler env p s = (.ok u, s')) : s'.OneContest t := by
  obtain ⟨_, -, hrun⟩ := reads_bind_eq_ok hrun
  obtain ⟨id, -, hrun⟩ := except_bind_eq_ok.mp (stmt_eq_ok hrun)
  cases hrun
  apply EntityTables.OneContest.updateEvents h
  intro e _ _ ty entity hnew
  simp [EventRow.isRunningOn, EventRow.isRunning] at hnew

theorem oneContest_step {tx : EntityTx} (h : s.OneContest tx.blockTime)
    (hmoves : MovesRunningContest s tx) (haccepts : Accepts (eventHandler env) tx s s') :
    s'.OneContest tx.blockTime := by
  obtain ⟨handle, hhandle, hrun⟩ := haccepts
  unfold eventHandler at hhandle
  split at hhandle
  · cases hhandle
    exact eventCreate_oneContest (p := tx.params) h hrun
  · split at hhandle
    · rename_i hkind
      cases hhandle
      exact eventUpdate_oneContest (p := tx.params) h (hmoves hkind.2) hrun
    · split at hhandle
      · cases hhandle
        exact eventDelete_oneContest h hrun
      · cases hhandle

end Steps

/-! ### Main results -/

/-- If no contest is given another end date after it has ended, no entity ever has two running
contests. -/
theorem one_running_contest {env : EventEnv} {s₀ s : EntityTables} {t₀ t t' : Int}
    (hstart : s₀.OneContest t₀) (hrun : EventRun env MovesRunningContest s₀ t₀ s t) (hle : t ≤ t') :
    s.OneContest t' := by
  suffices h : s.OneContest t from h.later hle
  clear hle
  induction hrun with
  | init => exact hstart
  | other _ hle hsame ih =>
    unfold EntityTables.OneContest
    rw [hsame]
    exact ih.later hle
  | step _ hle hmoves haccepts ih => exact oneContest_step (ih.later hle) hmoves haccepts

/-! ### A contest after a contest -/

/-- The Unix time at which a day of January 2026 begins. -/
def january (day : Int) : Int := 1767225600 + (day - 1) * 86400

def contestDate (text : String) : Option Int :=
  if text = "2026-01-10T00:00:00Z" then some (january 10)
  else if text = "2026-01-20T00:00:00Z" then some (january 20)
  else if text = "2026-01-30T00:00:00Z" then some (january 30)
  else none

def EventEnv.plain : EventEnv where
  toEntityEnv := .plain
  parseDate := contestDate
  timestampOf := contestDate

def contestTables : EntityTables := { oneUser with tracks := [ownTrack] }

def contestMeta (day : String) : List (String × Json.Value) :=
  [("event_type", .str "remix_contest"), ("entity_type", .str "track"),
    ("entity_id", .num ⟨false, 2000000, 0⟩), ("end_date", .str day)]

def firstContest : EntityTx :=
  (ownTrackTx "Create" "\x7b\"event_type\":\"remix_contest\",\"entity_type\":\"track\",\"entity_id\":2000000,\"end_date\":\"2026-01-10T00:00:00Z\"\x7d").retarget "Event" 1 (january 1)

def firstContestParams : EntityParams :=
  (ownTrackParams "Create" (contestMeta "2026-01-10T00:00:00Z")).retarget "Event" 1 (january 1)

theorem params_firstContest : firstContest.params = firstContestParams := by
  rw [firstContest, params_retarget, firstContestParams, params_ownTrackTx]
  rw [Json.parse, Json.numbersInRange, Json.tokens, toList_eq_of_ofList rfl]
  rfl

def firstOpened : EntityTables := (eventCreateHandler .plain firstContestParams contestTables).2

theorem accepts_firstContest :
    Accepts (eventHandler .plain) firstContest contestTables firstOpened := by
  apply accepts_of_isOk
  · rw [params_firstContest]
    rfl
  · decide +kernel

def secondContest : EntityTx :=
  (ownTrackTx "Create" "\x7b\"event_type\":\"remix_contest\",\"entity_type\":\"track\",\"entity_id\":2000000,\"end_date\":\"2026-01-20T00:00:00Z\"\x7d").retarget "Event" 2 (january 11)

def secondContestParams : EntityParams :=
  (ownTrackParams "Create" (contestMeta "2026-01-20T00:00:00Z")).retarget "Event" 2 (january 11)

theorem params_secondContest : secondContest.params = secondContestParams := by
  rw [secondContest, params_retarget, secondContestParams, params_ownTrackTx]
  rw [Json.parse, Json.numbersInRange, Json.tokens, toList_eq_of_ofList rfl]
  rfl

def secondOpened : EntityTables := (eventCreateHandler .plain secondContestParams firstOpened).2

theorem accepts_secondContest :
    Accepts (eventHandler .plain) secondContest firstOpened secondOpened := by
  apply accepts_of_isOk
  · rw [params_secondContest]
    rfl
  · decide +kernel

/-- On the twelfth the end date of a contest is moved to the thirtieth. -/
def postpone (event : Int) : EntityTx :=
  (ownTrackTx "Update" "\x7b\"end_date\":\"2026-01-30T00:00:00Z\"\x7d").retarget "Event" event (january 12)

def postponeParams (event : Int) : EntityParams :=
  (ownTrackParams "Update" [("end_date", .str "2026-01-30T00:00:00Z")]).retarget "Event" event
    (january 12)

theorem params_postpone (event : Int) : (postpone event).params = postponeParams event := by
  rw [postpone, params_retarget, postponeParams, params_ownTrackTx]
  rw [Json.parse, Json.numbersInRange, Json.tokens, toList_eq_of_ofList rfl]
  rfl

theorem handler_postpone (event : Int) : eventHandler .plain (postpone event).params =
    some (eventUpdateHandler .plain (postponeParams event)) := by
  rw [params_postpone]
  rfl

def postponed (event : Int) : EntityTables :=
  (eventUpdateHandler .plain (postponeParams event) secondOpened).2

theorem oneContest_contestTables : contestTables.OneContest (january 1) := fun _ _ => Nat.zero_le 1

/-- A second contest is opened after the first has ended and, while it is running, extended. -/
theorem one_contest_extended :
    EventRun .plain MovesRunningContest contestTables (january 1) (postponed 2) (january 12) ∧
    (postponed 2).events.length = 2 ∧ (postponed 2).OneContest (january 25) := by
  have hcreates : ∀ tables, MovesRunningContest tables firstContest ∧
      MovesRunningContest tables secondContest := fun tables =>
    ⟨fun hupdate => absurd hupdate (by decide), fun hupdate => absurd hupdate (by decide)⟩
  have hmove : MovesRunningContest secondOpened (postpone 2) := by
    intro _ _ e he hid _ _
    have hall : ∀ e ∈ secondOpened.events, e.eventId.val = 2 → e.isRunning (january 12) = true := by
      decide +kernel
    exact hall e he hid
  have hpostpone : Accepts (eventHandler .plain) (postpone 2) secondOpened (postponed 2) :=
    accepts_of_isOk (handler_postpone 2) (by decide +kernel)
  have hopened : EventRun .plain MovesRunningContest contestTables (january 1) firstOpened
      firstContest.blockTime :=
    EventRun.init.step (le_refl _) (hcreates _).1 accepts_firstContest
  have hboth : EventRun .plain MovesRunningContest contestTables (january 1) secondOpened
      secondContest.blockTime := hopened.step (by decide) (hcreates _).2 accepts_secondContest
  have hrun : EventRun .plain MovesRunningContest contestTables (january 1) (postponed 2)
      (postpone 2).blockTime := hboth.step (by decide) hmove hpostpone
  exact ⟨hrun, by decide +kernel, one_running_contest oneContest_contestTables hrun (by decide)⟩

/-- The first contest has ended and a second one is open when the first one is given a later end
date: the track has two running contests. -/
theorem two_running_contests :
    contestTables.OneContest (january 1) ∧
    EventRun .plain (fun _ _ => True) contestTables (january 1) (postponed 1) (january 12) ∧
    ¬ (postponed 1).OneContest (january 12) := by
  have hpostpone : Accepts (eventHandler .plain) (postpone 1) secondOpened (postponed 1) :=
    accepts_of_isOk (handler_postpone 1) (by decide +kernel)
  have hopened : EventRun .plain (fun _ _ => True) contestTables (january 1) firstOpened
      firstContest.blockTime := EventRun.init.step (le_refl _) trivial accepts_firstContest
  have hboth : EventRun .plain (fun _ _ => True) contestTables (january 1) secondOpened
      secondContest.blockTime := hopened.step (by decide) trivial accepts_secondContest
  refine ⟨oneContest_contestTables, ?_, ?_⟩
  · exact hboth.step (t := secondContest.blockTime) (by decide) trivial hpostpone
  · intro hone
    have htwo : (postponed 1).events.countP (EventRow.isRunningOn "track"
        (some (int4 2000000 (by decide))) (january 12)) = 2 := by decide +kernel
    have := hone "track" (some (int4 2000000 (by decide)))
    omega

end OpenAudio.Etl
