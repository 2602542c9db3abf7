import Mathlib
import OpenAudio.Lib.Table

/-!
# The endpoints registered on Ethereum

The service keeps a copy of the endpoints that are registered in the `ServiceProviderFactory`
contract. It hears of registrations, deregistrations and updates on a channel each, and takes what
is there in any order; only the order within a channel is that of the chain. A registration is
checked against the contract as it is when the event is handled.
-/

namespace OpenAudio.Eth

/-! ### The contract -/

inductive ServiceType
  | contentNode
  | validator
  | other (name : String)
  deriving DecidableEq

/-- Ids are counted for each service type. -/
structure ProviderKey where
  id : Nat
  serviceType : ServiceType
  deriving DecidableEq

structure Registration where
  owner : String
  endpoint : String
  deriving DecidableEq

inductive FactoryEvent
  | register (key : ProviderKey) (owner endpoint : String)
  | deregister (key : ProviderKey) (owner endpoint : String)
  | update (key : ProviderKey) (owner oldEndpoint newEndpoint : String)
  deriving DecidableEq

def FactoryEvent.key : FactoryEvent → ProviderKey
  | .register key _ _ => key
  | .deregister key _ _ => key
  | .update key _ _ _ => key

/-- What is registered, and the ids that were given out. -/
structure Factory where
  registrations : Table ProviderKey Registration := ∅
  used : List ProviderKey := []

namespace Factory

def apply (f : Factory) : FactoryEvent → Factory
  | .register key owner endpoint =>
    ⟨f.registrations.insert key ⟨owner, endpoint⟩, key :: f.used⟩
  | .deregister key _ _ => ⟨AList.erase key f.registrations, f.used⟩
  | .update key owner _ newEndpoint => ⟨f.registrations.insert key ⟨owner, newEndpoint⟩, f.used⟩

/-- The contract may emit the event in this state. Which endpoints it takes does not matter. -/
def Allows (f : Factory) : FactoryEvent → Prop
  | .register key _ _ => key ∉ f.used
  | .deregister key owner endpoint => f.registrations.lookup key = some ⟨owner, endpoint⟩
  | .update key owner oldEndpoint _ => f.registrations.lookup key = some ⟨owner, oldEndpoint⟩

end Factory

/-- The contract after the first `n` events. -/
def factoryAfter (history : List FactoryEvent) (n : Nat) : Factory :=
  (history.take n).foldl Factory.apply {}

/-- The contract may emit the events one after another. -/
def IsHistory (history : List FactoryEvent) : Prop :=
  ∀ i e, history[i]? = some e → (factoryAfter history i).Allows e

/-! ### The service -/

/-- `eth_registered_endpoints` under its primary key `(id, service_type)` -/
abbrev EndpointRows := Table (Int × String) Registration

def typeText : ServiceType → String
  | .contentNode => "content-node"
  | .validator => "validator"
  | .other name => name

def serviceTypeToString : ServiceType → Except String String
  | .other _ => .error "no matching service type found"
  | st => .ok (typeText st)

/-- `int32(spID.Int64())` -/
def int32Id (id : Nat) : Int := (id + 2 ^ 31 : Int) % 2 ^ 32 - 2 ^ 31

def deleteAndDeregisterEndpoint (db : EndpointRows) (key : ProviderKey) (endpoint owner : String) :
    Except String EndpointRows := do
  let st ← serviceTypeToString key.serviceType
  if db.any fun _ row => row.endpoint == endpoint then
    if db.lookup (int32Id key.id, st) = some ⟨owner, endpoint⟩ then
      return AList.erase (int32Id key.id, st) db
    else return db
  else .error "could not fetch endpoint from db"

/-- The contract is asked for the node, and a row with the primary key is an error. -/
def addRegisteredEndpoint (contract : Factory) (db : EndpointRows) (key : ProviderKey)
    (endpoint owner : String) : Except String EndpointRows := do
  let st ← serviceTypeToString key.serviceType
  if (contract.registrations.lookup key).isNone then .error "node not found"
  else if (db.lookup (int32Id key.id, st)).isSome then .error "duplicate key"
  else return db.insert (int32Id key.id, st) ⟨owner, endpoint⟩

/-- The three cases of the select loop. An error is logged, and the next event is taken. -/
def handleEvent (contract : Factory) (db : EndpointRows) : FactoryEvent → EndpointRows
  | .register key owner endpoint =>
    (addRegisteredEndpoint contract db key endpoint owner).toOption.getD db
  | .deregister key owner endpoint =>
    (deleteAndDeregisterEndpoint db key endpoint owner).toOption.getD db
  | .update key owner oldEndpoint newEndpoint =>
    match deleteAndDeregisterEndpoint db key oldEndpoint owner with
    | .error _ => db
    | .ok db' => (addRegisteredEndpoint contract db' key newEndpoint owner).toOption.getD db'

/-- An event is taken: its position in the history, and how many events are on the chain by then. -/
structure TakenEvent where
  position : Nat
  seen : Nat

def handleTaken (history : List FactoryEvent) (db : EndpointRows) (t : TakenEvent) : EndpointRows :=
  match history[t.position]? with
  | none => db
  | some e => handleEvent (factoryAfter history t.seen) db e

def handleAll (history : List FactoryEvent) (start : EndpointRows) (taken : List TakenEvent) :
    EndpointRows :=
  taken.foldl (handleTaken history) start

def SameChannel : FactoryEvent → FactoryEvent → Prop
  | .register .., .register .. => True
  | .deregister .., .deregister .. => True
  | .update .., .update .. => True
  | _, _ => False

/-- A relation between the events at two positions. -/
def EventsAt (history : List FactoryEvent) (R : FactoryEvent → FactoryEvent → Prop) (i j : Nat) :
    Prop :=
  ∃ e e', history[i]? = some e ∧ history[j]? = some e' ∧ R e e'

/-- Every event after the first `n`, which the service begins with, is taken once, after it happened,
and those of one channel in their order. -/
structure IsTaken (history : List FactoryEvent) (n : Nat) (taken : List TakenEvent) : Prop where
  perm : (taken.map TakenEvent.position).Perm (List.range' n (history.length - n))
  happened : ∀ t ∈ taken, t.position < t.seen ∧ t.seen ≤ history.length
  grows : taken.Pairwise fun t t' => t.seen ≤ t'.seen
  channels : taken.Pairwise fun t t' =>
    EventsAt history SameChannel t.position t'.position → t.position < t'.position

/-- The events of each provider are taken in their order. -/
def ProvidersInOrder (history : List FactoryEvent) (taken : List TakenEvent) : Prop :=
  taken.Pairwise fun t t' =>
    EventsAt history (fun e e' => e.key = e'.key) t.position t'.position →
      t.position < t'.position

/-- The service keeps providers of this type, and its column holds the id. -/
def Tracked (key : ProviderKey) : Prop :=
  key.id < 2 ^ 31 ∧ (key.serviceType = .contentNode ∨ key.serviceType = .validator)

def rowKey (key : ProviderKey) : Int × String := (int32Id key.id, typeText key.serviceType)

/-- The rows are the registrations. -/
def Mirrors (db : EndpointRows) (f : Factory) : Prop :=
  ∀ id st r, db.lookup (id, st) = some r ↔
    ∃ key, f.registrations.lookup key = some r ∧ rowKey key = (id, st)

/-! ### The contract's laws -/

section Contract

variable {history : List FactoryEvent}

theorem factoryAfter_succ {i : Nat} {e : FactoryEvent} (h : history[i]? = some e) :
    factoryAfter history (i + 1) = (factoryAfter history i).apply e := by
  rw [factoryAfter, List.take_add_one, h, Option.toList_some, List.foldl_append]
  rfl

theorem factoryAfter_succ_of_none {i : Nat} (h : history[i]? = none) :
    factoryAfter history (i + 1) = factoryAfter history i := by
  rw [factoryAfter, List.take_add_one, h, Option.toList_none, List.append_nil]
  rfl

theorem Factory.lookup_apply_of_ne (f : Factory) {e : FactoryEvent} {key : ProviderKey}
    (h : e.key ≠ key) : (f.apply e).registrations.lookup key = f.registrations.lookup key := by
  cases e with
  | register _ _ _ => exact AList.lookup_insert_ne h.symm
  | deregister _ _ _ => exact AList.lookup_erase_ne h.symm
  | update _ _ _ _ => exact AList.lookup_insert_ne h.symm

/-- Only the events of a provider change its registration. -/
theorem lookup_factoryAfter_eq {key : ProviderKey} {m n : Nat} (hmn : m ≤ n)
    (h : ∀ i e, m ≤ i → i < n → history[i]? = some e → e.key ≠ key) :
    (factoryAfter history n).registrations.lookup key =
      (factoryAfter history m).registrations.lookup key := by
  induction n, hmn using Nat.le_induction with
  | base => rfl
  | succ n hmn ih =>
    have hprev := ih fun i e hi hin => h i e hi (Nat.lt_succ_of_lt hin)
    cases he : history[n]? with
    | none => rw [factoryAfter_succ_of_none he, hprev]
    | some e =>
      rw [factoryAfter_succ he, Factory.lookup_apply_of_ne _ (h n e hmn (Nat.lt_succ_self n) he),
        hprev]

/-- What is registered has an id that was given out, and ids are not given out again. -/
theorem mem_used_of_lookup (hvalid : IsHistory history) {key : ProviderKey} (n : Nat)
    (h : ((factoryAfter history n).registrations.lookup key).isSome) :
    key ∈ (factoryAfter history n).used := by
  induction n with
  | zero => simp [factoryAfter] at h
  | succ n ih =>
    cases he : history[n]? with
    | none =>
      rw [factoryAfter_succ_of_none he] at h ⊢
      exact ih h
    | some e =>
      have hallows := hvalid n e he
      rw [factoryAfter_succ he] at h ⊢
      by_cases hkey : e.key = key
      · cases e with
        | register key' _ _ => exact hkey ▸ List.mem_cons_self
        | deregister key' _ _ =>
          rw [show key' = key from hkey] at h
          simp [Factory.apply] at h
        | update key' _ _ _ =>
          rw [show key' = key from hkey] at hallows
          exact ih (Option.isSome_of_eq_some hallows)
      · rw [Factory.lookup_apply_of_ne _ hkey] at h
        cases e with
        | register _ _ _ => exact List.mem_cons_of_mem _ (ih h)
        | deregister _ _ _ => exact ih h
        | update _ _ _ _ => exact ih h

theorem mem_used_mono {key : ProviderKey} {m n : Nat} (hmn : m ≤ n)
    (h : key ∈ (factoryAfter history m).used) : key ∈ (factoryAfter history n).used := by
  induction n, hmn using Nat.le_induction with
  | base => exact h
  | succ n _ ih =>
    cases he : history[n]? with
    | none => rwa [factoryAfter_succ_of_none he]
    | some e =>
      rw [factoryAfter_succ he]
      cases e with
      | register _ _ _ => exact List.mem_cons_of_mem _ ih
      | deregister _ _ _ => exact ih
      | update _ _ _ _ => exact ih

/-- A provider that was deregistered does not come back under its id. -/
theorem lookup_eq_none_mono (hvalid : IsHistory history) {key : ProviderKey} {m n : Nat}
    (hmn : m ≤ n) (hused : key ∈ (factoryAfter history m).used)
    (h : (factoryAfter history m).registrations.lookup key = none) :
    (factoryAfter history n).registrations.lookup key = none := by
  induction n, hmn using Nat.le_induction with
  | base => exact h
  | succ n hmn ih =>
    cases he : history[n]? with
    | none => rwa [factoryAfter_succ_of_none he]
    | some e =>
      have hallows := hvalid n e he
      rw [factoryAfter_succ he]
      by_cases hkey : e.key = key
      · cases e with
        | register key' _ _ =>
          rw [show key' = key from hkey] at hallows
          exact absurd (mem_used_mono hmn hused) hallows
        | deregister key' _ _ =>
          rw [show key' = key from hkey]
          exact AList.lookup_erase _ _
        | update key' _ _ _ =>
          rw [show key' = key from hkey, Factory.Allows, ih] at hallows
          cases hallows
      · rw [Factory.lookup_apply_of_ne _ hkey, ih]

theorem mem_used_succ (hvalid : IsHistory history) {i : Nat} {e : FactoryEvent}
    (he : history[i]? = some e) : e.key ∈ (factoryAfter history (i + 1)).used := by
  have hallows := hvalid i e he
  rw [factoryAfter_succ he]
  cases e with
  | register _ _ _ => exact List.mem_cons_self
  | deregister _ _ _ => exact mem_used_of_lookup hvalid i (Option.isSome_of_eq_some hallows)
  | update _ _ _ _ => exact mem_used_of_lookup hvalid i (Option.isSome_of_eq_some hallows)

theorem mem_history_of_used {key : ProviderKey} (n : Nat) (h : key ∈ (factoryAfter history n).used) :
    ∃ e ∈ history, e.key = key := by
  induction n with
  | zero => cases h
  | succ n ih =>
    cases he : history[n]? with
    | none => exact ih (factoryAfter_succ_of_none he ▸ h)
    | some e =>
      rw [factoryAfter_succ he] at h
      cases e with
      | register key' owner endpoint =>
        rcases List.mem_cons.mp h with heq | hmem
        · exact ⟨_, List.mem_of_getElem? he, heq.symm⟩
        · exact ih hmem
      | deregister _ _ _ => exact ih h
      | update _ _ _ _ => exact ih h

/-- A provider that is registered in the end is so at any time after one of its events. -/
theorem isSome_of_final (hvalid : IsHistory history) {i n : Nat} {e : FactoryEvent}
    (he : history[i]? = some e) (hi : i < n) (hn : n ≤ history.length)
    (hfinal : ((factoryAfter history history.length).registrations.lookup e.key).isSome) :
    ((factoryAfter history n).registrations.lookup e.key).isSome := by
  rw [Option.isSome_iff_ne_none] at hfinal ⊢
  intro hnone
  exact hfinal (lookup_eq_none_mono hvalid hn (mem_used_mono hi (mem_used_succ hvalid he)) hnone)

end Contract

/-! ### One event -/

section Events

variable {contract f : Factory} {db : EndpointRows} {key : ProviderKey} {endpoint owner : String}

theorem serviceTypeToString_eq (h : Tracked key) :
    serviceTypeToString key.serviceType = .ok (typeText key.serviceType) := by
  rcases h.2 with ht | ht
  · rw [ht]
    rfl
  · rw [ht]
    rfl

theorem int32Id_eq {id : Nat} (h : id < 2 ^ 31) : int32Id id = id := by
  unfold int32Id
  omega

theorem rowKey_injective {key' : ProviderKey} (h : Tracked key) (h' : Tracked key')
    (heq : rowKey key = rowKey key') : key = key' := by
  obtain ⟨hid, hst⟩ := Prod.mk.inj heq
  rw [int32Id_eq h.1, int32Id_eq h'.1] at hid
  have htype : key.serviceType = key'.serviceType := by
    rcases h.2 with ht | ht <;> rcases h'.2 with ht' | ht' <;> rw [ht, ht'] at hst ⊢
    · exact absurd hst (by decide)
    · exact absurd hst (by decide)
  obtain ⟨id, st⟩ := key
  obtain ⟨id', st'⟩ := key'
  cases htype
  exact congrArg (ProviderKey.mk · st) (Int.ofNat_inj.mp hid)

theorem deleteAndDeregisterEndpoint_eq (h : Tracked key) :
    deleteAndDeregisterEndpoint db key endpoint owner =
      if db.any fun _ row => row.endpoint == endpoint then
        .ok (if db.lookup (rowKey key) = some ⟨owner, endpoint⟩ then AList.erase (rowKey key) db
          else db)
      else .error "could not fetch endpoint from db" := by
  unfold deleteAndDeregisterEndpoint
  rw [serviceTypeToString_eq h]
  change (if _ then if _ then Except.ok _ else Except.ok _ else _) = _
  rw [← apply_ite Except.ok]
  rfl

theorem addRegisteredEndpoint_eq (h : Tracked key) :
    addRegisteredEndpoint contract db key endpoint owner =
      if (contract.registrations.lookup key).isNone then .error "node not found"
      else if (db.lookup (rowKey key)).isSome then .error "duplicate key"
      else .ok (db.insert (rowKey key) ⟨owner, endpoint⟩) := by
  unfold addRegisteredEndpoint
  rw [serviceTypeToString_eq h]
  rfl

/-- The row of a provider after its endpoint is to be deleted. -/
theorem lookup_delete (h : Tracked key)
    (hrow : db.lookup (rowKey key) = none ∨ db.lookup (rowKey key) = some ⟨owner, endpoint⟩) :
    (∃ db', deleteAndDeregisterEndpoint db key endpoint owner = .ok db' ∧
      db'.lookup (rowKey key) = none) ∨
    (∃ err, deleteAndDeregisterEndpoint db key endpoint owner = .error err) ∧
      db.lookup (rowKey key) = none := by
  rw [deleteAndDeregisterEndpoint_eq h]
  by_cases hfound : (db.any fun _ row => row.endpoint == endpoint) = true
  · refine .inl ⟨_, if_pos hfound, ?_⟩
    rcases hrow with hnone | hsome
    · rw [hnone, if_neg (Option.some_ne_none _).symm, hnone]
    · rw [if_pos hsome, AList.lookup_erase]
  · refine .inr ⟨⟨_, if_neg hfound⟩, hrow.resolve_right fun hsome => hfound ?_⟩
    exact (Table.any_iff _ _).mpr ⟨rowKey key, _, hsome, beq_self_eq_true _⟩

/-- The row of a provider without one, after it is to be added. -/
theorem lookup_add (h : Tracked key) (hrow : db.lookup (rowKey key) = none) :
    ((addRegisteredEndpoint contract db key endpoint owner).toOption.getD db).lookup (rowKey key) =
      if (contract.registrations.lookup key).isSome then some ⟨owner, endpoint⟩ else none := by
  rw [addRegisteredEndpoint_eq h]
  cases hnode : contract.registrations.lookup key with
  | none => exact hrow
  | some node =>
    rw [hrow]
    exact AList.lookup_insert _

/-- After an event of a provider its row is as in the contract, or there is none. If the contract
still has the provider when the event is handled, the row follows. -/
theorem lookup_handleEvent (contract : Factory) {e : FactoryEvent} (h : Tracked e.key) (hallows : f.Allows e)
    (hused : e.key ∉ f.used → f.registrations.lookup e.key = none)
    (hrow : db.lookup (rowKey e.key) = none ∨
      db.lookup (rowKey e.key) = f.registrations.lookup e.key) :
    ∃ kept : Bool, (handleEvent contract db e).lookup (rowKey e.key) =
        (if kept then (f.apply e).registrations.lookup e.key else none) ∧
      ((contract.registrations.lookup e.key).isSome →
        db.lookup (rowKey e.key) = f.registrations.lookup e.key → kept = true) := by
  cases e with
  | register key owner endpoint =>
    dsimp only [FactoryEvent.key] at *
    have hnone : db.lookup (rowKey key) = none := by
      rcases hrow with hnone | heq
      · exact hnone
      · exact heq.trans (hused hallows)
    refine ⟨(contract.registrations.lookup key).isSome, (lookup_add h hnone).trans ?_,
      fun hnode _ => hnode⟩
    rw [Factory.apply, AList.lookup_insert]
  | deregister key owner endpoint =>
    dsimp only [FactoryEvent.key] at *
    refine ⟨true, Eq.trans ?_ (AList.lookup_erase key f.registrations).symm, fun _ _ => rfl⟩
    rw [handleEvent]
    rcases lookup_delete h (hrow.imp_right fun heq => heq.trans hallows) with
      ⟨db', hok, hnone⟩ | ⟨⟨err, herr⟩, hnone⟩
    · rw [hok]
      exact hnone
    · rw [herr]
      exact hnone
  | update key owner oldEndpoint newEndpoint =>
    dsimp only [FactoryEvent.key] at *
    rw [handleEvent]
    rcases lookup_delete h (hrow.imp_right fun heq => heq.trans hallows) with
      ⟨db', hok, hnone⟩ | ⟨⟨err, herr⟩, hnone⟩
    · rw [hok]
      refine ⟨(contract.registrations.lookup key).isSome, (lookup_add h hnone).trans ?_,
        fun hnode _ => hnode⟩
      rw [Factory.apply, AList.lookup_insert]
    · rw [herr]
      refine ⟨false, hnone, fun _ heq => ?_⟩
      rw [hnone, hallows] at heq
      cases heq

/-- An event changes no other row. -/
theorem lookup_handleEvent_of_ne {e : FactoryEvent} {k : Int × String} (h : Tracked e.key)
    (hk : k ≠ rowKey e.key) : (handleEvent contract db e).lookup k = db.lookup k := by
  have hadd (db : EndpointRows) (endpoint owner : String) :
      ((addRegisteredEndpoint contract db e.key endpoint owner).toOption.getD db).lookup k =
        db.lookup k := by
    rw [addRegisteredEndpoint_eq h]
    split
    · rfl
    split
    · rfl
    · exact AList.lookup_insert_ne hk
  have hdelete {db' : EndpointRows} {endpoint owner : String}
      (hok : deleteAndDeregisterEndpoint db e.key endpoint owner = .ok db') :
      db'.lookup k = db.lookup k := by
    rw [deleteAndDeregisterEndpoint_eq h] at hok
    split at hok
    · cases hok
      split
      · exact AList.lookup_erase_ne hk
      · rfl
    · cases hok
  cases e with
  | register key owner endpoint => exact hadd db endpoint owner
  | deregister key owner endpoint =>
    rw [handleEvent]
    cases hok : deleteAndDeregisterEndpoint db key endpoint owner with
    | error err => rfl
    | ok db' => exact hdelete hok
  | update key owner oldEndpoint newEndpoint =>
    rw [handleEvent]
    cases hok : deleteAndDeregisterEndpoint db key oldEndpoint owner with
    | error err => rfl
    | ok db' => exact (hadd db' newEndpoint owner).trans (hdelete hok)

end Events

/-! ### All events -/

section Runs

variable {history : List FactoryEvent}

/-- The events of the provider that were handled are those among the first `n`, and its row is as in
the contract then, unless the provider is gone in the end and the row went before. -/
structure RowFollows (history : List FactoryEvent) (handled : Nat → Prop) (db : EndpointRows)
    (key : ProviderKey) (n : Nat) : Prop where
  le : n ≤ history.length
  handled_iff : ∀ i e, history[i]? = some e → e.key = key → (handled i ↔ i < n)
  row : db.lookup (rowKey key) = none ∨
    db.lookup (rowKey key) = (factoryAfter history n).registrations.lookup key
  row_of_final : ((factoryAfter history history.length).registrations.lookup key).isSome →
    db.lookup (rowKey key) = (factoryAfter history n).registrations.lookup key

/-- Taking an event keeps the row of every provider, if the earlier events of the provider it is
about were handled. -/
theorem RowFollows.handleTaken (hvalid : IsHistory history) {handled : Nat → Prop}
    {db : EndpointRows} {key : ProviderKey} {n : Nat} (h : RowFollows history handled db key n)
    {t : TakenEvent} {e : FactoryEvent} (he : history[t.position]? = some e)
    (hkey : Tracked key) (htracked : Tracked e.key)
    (hseen : t.position < t.seen ∧ t.seen ≤ history.length) (hnew : ¬ handled t.position)
    (hearlier : ∀ i e', i < t.position → history[i]? = some e' → e'.key = e.key → handled i) :
    ∃ n', RowFollows history (fun i => handled i ∨ i = t.position) (handleTaken history db t)
      key n' := by
  have hstep : Eth.handleTaken history db t = handleEvent (factoryAfter history t.seen) db e := by
    rw [Eth.handleTaken, he]
  rw [hstep]
  by_cases heq : e.key = key
  · subst heq
    have hn : n ≤ t.position := Nat.le_of_not_lt fun hlt => hnew ((h.handled_iff _ e he rfl).mpr hlt)
    -- the row is that of position `n`, and the provider has no event from there to this one
    have hlookup : (factoryAfter history t.position).registrations.lookup e.key =
        (factoryAfter history n).registrations.lookup e.key := by
      refine lookup_factoryAfter_eq hn fun i e' hni hi he' hk => ?_
      exact Nat.not_lt.mpr hni ((h.handled_iff i e' he' hk).mp (hearlier i e' hi he' hk))
    have hunused : e.key ∉ (factoryAfter history t.position).used →
        (factoryAfter history t.position).registrations.lookup e.key = none := by
      intro hnot
      exact Option.not_isSome_iff_eq_none.mp fun hsome =>
        hnot (mem_used_of_lookup hvalid t.position hsome)
    have hrow := h.row
    rw [← hlookup] at hrow
    obtain ⟨kept, hafter, hkept⟩ :=
      lookup_handleEvent (factoryAfter history t.seen) htracked (hvalid t.position e he) hunused hrow
    rw [← factoryAfter_succ he] at hafter
    refine ⟨t.position + 1, Nat.lt_of_lt_of_le hseen.1 hseen.2, fun i e' he' hk => ?_, ?_, ?_⟩
    · constructor
      · rintro (hi | rfl)
        · exact Nat.lt_succ_of_lt (Nat.lt_of_lt_of_le ((h.handled_iff i e' he' hk).mp hi) hn)
        · exact Nat.lt_succ_self _
      · intro hi
        rcases Nat.lt_succ_iff_lt_or_eq.mp hi with hlt | rfl
        · exact .inl (hearlier i e' hlt he' hk)
        · exact .inr rfl
    · cases kept with
      | false => exact .inl hafter
      | true => exact .inr hafter
    · intro hfinal
      have hnode := isSome_of_final hvalid he hseen.1 hseen.2 hfinal
      rw [hafter, hkept hnode ((h.row_of_final hfinal).trans hlookup.symm)]
      rfl
  · have hother : (handleEvent (factoryAfter history t.seen) db e).lookup (rowKey key) =
        db.lookup (rowKey key) :=
      lookup_handleEvent_of_ne htracked fun hrow => heq (rowKey_injective hkey htracked hrow).symm
    refine ⟨n, h.le, fun i e' he' hk => ?_, hother ▸ h.row, fun hfinal => ?_⟩
    · refine Iff.trans (or_iff_left ?_) (h.handled_iff i e' he' hk)
      rintro rfl
      exact heq (Option.some.inj (he.symm.trans he') ▸ hk)
    · exact hother.trans (h.row_of_final hfinal)

variable {start : EndpointRows} {n₀ : Nat} {taken : List TakenEvent} {key : ProviderKey}

/-- The events after those that were handled, taken one after another. -/
theorem RowFollows.handleAll (hvalid : IsHistory history)
    (htracked : ∀ e ∈ history, Tracked e.key) (hkey : Tracked key) :
    ∀ (handled left : List TakenEvent) {db : EndpointRows} {n : Nat},
      IsTaken history n₀ (handled ++ left) → ProvidersInOrder history (handled ++ left) →
      RowFollows history (fun i => i < n₀ ∨ i ∈ handled.map TakenEvent.position) db key n →
      ∃ n', RowFollows history (fun i => i < n₀ ∨ i ∈ (handled ++ left).map TakenEvent.position)
        (left.foldl (Eth.handleTaken history) db) key n' := by
  intro handled left
  induction left generalizing handled with
  | nil =>
    intro db n _ _ h
    exact ⟨n, by rwa [List.append_nil]⟩
  | cons t left ih =>
    intro db n htaken horder h
    have hpos (i : Nat) : i ∈ (handled ++ t :: left).map TakenEvent.position ↔
        n₀ ≤ i ∧ i < history.length := by
      rw [htaken.perm.mem_iff, List.mem_range'_1]
      omega
    have hin : t ∈ handled ++ t :: left := List.mem_append_right _ List.mem_cons_self
    obtain ⟨hle, hlt⟩ := (hpos t.position).mp (List.mem_map_of_mem hin)
    have hmem := List.getElem?_eq_getElem hlt
    have hnew : ¬ (t.position < n₀ ∨ t.position ∈ handled.map TakenEvent.position) := by
      have hnodup := htaken.perm.nodup_iff.mpr List.nodup_range'
      rw [List.map_append, List.map_cons] at hnodup
      rintro (hbefore | hmem)
      · exact absurd hbefore (Nat.not_lt.mpr hle)
      · exact List.disjoint_of_nodup_append hnodup hmem List.mem_cons_self
    have hearlier (i : Nat) (e' : FactoryEvent) (hi : i < t.position) (he' : history[i]? = some e')
        (hk : e'.key = history[t.position].key) :
        i < n₀ ∨ i ∈ handled.map TakenEvent.position := by
      by_cases hbefore : i < n₀
      · exact .inl hbefore
      obtain ⟨t', ht', rfl⟩ :=
        List.mem_map.mp ((hpos i).mpr ⟨Nat.not_lt.mp hbefore, Nat.lt_trans hi hlt⟩)
      rcases List.mem_append.mp ht' with hdone | hleft
      · exact .inr (List.mem_map_of_mem hdone)
      rcases List.mem_cons.mp hleft with rfl | hleft
      · exact absurd hi (Nat.lt_irrefl _)
      have hlater := List.rel_of_pairwise_cons (List.pairwise_append.mp horder).2.1 hleft
      exact absurd (hlater ⟨_, _, hmem, he', hk.symm⟩) (Nat.lt_asymm hi)
    obtain ⟨n', hstep⟩ := h.handleTaken hvalid hmem hkey (htracked _ (List.getElem_mem hlt))
      (htaken.happened t hin) hnew hearlier
    have hsplit : handled ++ t :: left = (handled ++ [t]) ++ left := by simp
    rw [hsplit] at htaken horder ⊢
    refine ih (handled ++ [t]) htaken horder (n := n') ?_
    simpa only [List.map_append, List.map_cons, List.map_nil, List.mem_append,
      List.mem_singleton, or_assoc] using hstep

/-- A row has the key of a provider that the service keeps. -/
theorem lookup_handleAll_of_untracked (htracked : ∀ e ∈ history, Tracked e.key)
    {k : Int × String} (hk : ∀ key, Tracked key → rowKey key ≠ k) (start : EndpointRows)
    (taken : List TakenEvent) : (handleAll history start taken).lookup k = start.lookup k := by
  unfold handleAll
  induction taken generalizing start with
  | nil => rfl
  | cons t taken ih =>
    rw [List.foldl_cons, ih, handleTaken]
    cases he : history[t.position]? with
    | none => rfl
    | some e =>
      have htr := htracked e (List.mem_of_getElem? he)
      exact lookup_handleEvent_of_ne htr (hk _ htr).symm

/-- What is registered is of a provider that the service keeps. -/
theorem tracked_of_lookup (hvalid : IsHistory history) (htracked : ∀ e ∈ history, Tracked e.key)
    {n : Nat} {r : Registration} (h : (factoryAfter history n).registrations.lookup key = some r) :
    Tracked key := by
  obtain ⟨e, he, rfl⟩ := mem_history_of_used n
    (mem_used_of_lookup hvalid n (Option.isSome_of_eq_some h))
  exact htracked e he

theorem Mirrors.lookup_rowKey (hvalid : IsHistory history) (htracked : ∀ e ∈ history, Tracked e.key)
    {n : Nat} (h : Mirrors start (factoryAfter history n)) (hkey : Tracked key) :
    start.lookup (rowKey key) = (factoryAfter history n).registrations.lookup key := by
  refine Option.ext fun r => (h _ _ r).trans ⟨?_, fun hr => ⟨key, hr, rfl⟩⟩
  rintro ⟨key', hr, hrow⟩
  exact rowKey_injective (tracked_of_lookup hvalid htracked hr) hkey hrow ▸ hr

/-- The row of a provider after all events is its registration. -/
theorem lookup_handleAll (hvalid : IsHistory history) (htracked : ∀ e ∈ history, Tracked e.key)
    (hn₀ : n₀ ≤ history.length) (hstart : Mirrors start (factoryAfter history n₀))
    (htaken : IsTaken history n₀ taken) (horder : ProvidersInOrder history taken)
    (hkey : Tracked key) :
    (handleAll history start taken).lookup (rowKey key) =
      (factoryAfter history history.length).registrations.lookup key := by
  have hrow := hstart.lookup_rowKey hvalid htracked hkey
  have hbegins : RowFollows history
      (fun i => i < n₀ ∨ i ∈ ([] : List TakenEvent).map TakenEvent.position) start key n₀ :=
    ⟨hn₀, fun i e _ _ => by simp, .inr hrow, fun _ => hrow⟩
  obtain ⟨n, h⟩ := RowFollows.handleAll hvalid htracked hkey [] taken htaken horder hbegins
  have hlookup : (factoryAfter history history.length).registrations.lookup key =
      (factoryAfter history n).registrations.lookup key := by
    refine lookup_factoryAfter_eq h.le fun i e hni hi he hk => ?_
    refine Nat.not_lt.mpr hni ((h.handled_iff i e he hk).mp ?_)
    by_cases hbefore : i < n₀
    · exact .inl hbefore
    · refine .inr (htaken.perm.mem_iff.mpr (List.mem_range'_1.mpr ?_))
      omega
  cases hfinal : (factoryAfter history history.length).registrations.lookup key with
  | none => exact h.row.elim id fun hrow => hrow.trans (hlookup.symm.trans hfinal)
  | some r =>
    exact (h.row_of_final (Option.isSome_of_eq_some hfinal)).trans (hlookup.symm.trans hfinal)

/-- A validator registers and moves to another endpoint. -/
def movedHistory : List FactoryEvent :=
  [.register ⟨1, .validator⟩ "0xA" "https://a", .update ⟨1, .validator⟩ "0xA" "https://a" "https://b"]

theorem isHistory_moved : IsHistory movedHistory := by
  rintro (_ | _ | i) e he
  · cases he
    exact List.not_mem_nil
  · cases he
    rfl
  · cases he

theorem tracked_moved : ∀ e ∈ movedHistory, Tracked e.key := by
  simp [movedHistory, FactoryEvent.key, Tracked]

theorem mirrors_empty : Mirrors ∅ (factoryAfter movedHistory 0) := by
  simp [Mirrors, factoryAfter]

end Runs

end OpenAudio.Eth
