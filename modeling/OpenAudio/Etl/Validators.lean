import OpenAudio.Etl.Runs

/-!
# The validators of the indexer

`etl_validators` is under the endpoint. A registration adds the row of its endpoint, unless there is
one; a deregistration marks every row of its comet address, and leaves it there.
-/

namespace OpenAudio.Etl

open OpenAudio.Core Prog

/-- What the attestations of a block say of a validator. -/
inductive ValidatorEvent where
  | registered (cometAddress endpoint : String)
  | deregistered (cometAddress : String)
deriving DecidableEq

namespace ValidatorEvent

def cometAddress : ValidatorEvent → String
  | .registered comet _ => comet
  | .deregistered comet => comet

def endpoint : ValidatorEvent → Option String
  | .registered _ endpoint => some endpoint
  | .deregistered _ => none

end ValidatorEvent

def BlockTx.validatorEvent (t : BlockTx) : Option ValidatorEvent :=
  match t.transaction.transaction with
  | some (.attestation msg) =>
    match msg.body with
    | some (.validatorRegistration vr) => some (.registered vr.cometAddress vr.endpoint)
    | some (.validatorDeregistration vd) => some (.deregistered vd.cometAddress)
    | none => none
  | _ => none

/-- The columns of an attestation hold its texts, and its key is not NULL. -/
def BlockTx.StorableEvent (t : BlockTx) : Prop :=
  match t.transaction.transaction with
  | some (.attestation msg) =>
    match msg.body with
    | some (.validatorRegistration vr) => NulFree vr.delegateWallet ∧ NulFree vr.endpoint ∧
        NulFree vr.cometAddress ∧ NulFree vr.nodeType ∧ NulFree vr.spId ∧ vr.pubKey ≠ []
    | some (.validatorDeregistration vd) => NulFree vd.cometAddress ∧ vd.pubKey ≠ []
    | none => True
  | _ => True

/-- The events of transactions, the last one last. -/
def validatorEvents (ts : List BlockTx) : List ValidatorEvent := ts.filterMap BlockTx.validatorEvent

theorem validatorEvents_concat (ts : List BlockTx) (t : BlockTx) :
    validatorEvents (ts ++ [t]) = validatorEvents ts ++ t.validatorEvent.toList := by
  unfold validatorEvents
  rw [List.filterMap_append]
  cases h : t.validatorEvent with
  | none =>
    rw [List.filterMap_cons_none h]
    rfl
  | some e =>
    rw [List.filterMap_cons_some h]
    rfl

/-- The endpoint a validator is registered with by the last of its events. -/
def lastEndpoint (events : List ValidatorEvent) (comet : String) : Option String :=
  (events.reverse.find? fun e => e.cometAddress = comet).bind ValidatorEvent.endpoint

/-- A registration is of a validator that is not registered, with an endpoint that no validator had
before, or repeats the one that holds. -/
def CanFollow (before : List ValidatorEvent) : ValidatorEvent → Prop
  | .registered comet endpoint => lastEndpoint before comet = some endpoint ∨
      lastEndpoint before comet = none ∧ ∀ e ∈ before, e.endpoint ≠ some endpoint
  | .deregistered _ => True

def FreshEndpoints (events : List ValidatorEvent) : Prop :=
  ∀ before e after, events = before ++ e :: after → CanFollow before e

/-- The table has the validator as registered, with this endpoint. -/
def ActiveValidator (validators : Table PgText EtlValidatorRow) (comet endpoint : PgText) : Prop :=
  ∃ row, validators.lookup endpoint = some row ∧ row.cometAddress = comet ∧ row.status = "active"

section Events

variable {events : List ValidatorEvent} {validators : Table PgText EtlValidatorRow}

theorem lastEndpoint_concat (e : ValidatorEvent) {comet : PgText} (h : e.cometAddress = comet.val)
    (c : PgText) : lastEndpoint (events ++ [e]) c.val =
      if comet = c then e.endpoint else lastEndpoint events c.val := by
  unfold lastEndpoint
  rw [List.reverse_concat, List.find?_cons, h]
  by_cases hc : comet = c
  · rw [if_pos hc, hc, decide_eq_true rfl]
    rfl
  · rw [if_neg hc, decide_eq_false fun hval => hc (PgText.ext hval)]

/-- The table says of every validator what the last of its events does. -/
structure ValidatorsFollow (events : List ValidatorEvent)
    (validators : Table PgText EtlValidatorRow) : Prop where
  known : ∀ endpoint, (validators.lookup endpoint).isSome →
    ∃ e ∈ events, e.endpoint = some endpoint.val
  active : ∀ comet endpoint, ActiveValidator validators comet endpoint ↔
    lastEndpoint events comet.val = some endpoint.val

theorem ValidatorsFollow.register (h : ValidatorsFollow events validators) {endpoint : PgText} {row : EtlValidatorRow}
    (hcan : CanFollow events (.registered row.cometAddress.val endpoint.val))
    (hactive : row.status = "active") :
    ValidatorsFollow (events ++ [.registered row.cometAddress.val endpoint.val])
      (validators.insertNew endpoint row) := by
  rcases hcan with hsame | ⟨hnone, hfresh⟩
  · obtain ⟨row₀, hrow₀, -⟩ := (h.active row.cometAddress endpoint).mpr hsame
    have htable : validators.insertNew endpoint row = validators := by
      rw [Table.insertNew, hrow₀]
      rfl
    rw [htable]
    refine ⟨fun e he => ?_, fun comet e => (h.active comet e).trans ?_⟩
    · obtain ⟨ev, hev, heq⟩ := h.known e he
      exact ⟨ev, List.mem_append_left _ hev, heq⟩
    · rw [lastEndpoint_concat _ rfl]
      split
      · rename_i heq
        rw [← heq, hsame]
        rfl
      · rfl
  · have hunknown : validators.lookup endpoint = none := by
      by_contra hsome
      obtain ⟨ev, hev, heq⟩ := h.known endpoint (Option.isSome_iff_ne_none.mpr hsome)
      exact hfresh ev hev heq
    rw [Table.insertNew_of_none hunknown]
    refine ⟨fun e he => ?_, fun comet e => ?_⟩
    · rw [Table.lookup_insert_eq] at he
      split at he
      · rename_i heq
        exact ⟨_, List.mem_append_right _ List.mem_cons_self, by rw [heq]; rfl⟩
      · obtain ⟨ev, hev, heq⟩ := h.known e he
        exact ⟨ev, List.mem_append_left _ hev, heq⟩
    · rw [lastEndpoint_concat _ rfl, ActiveValidator, Table.lookup_insert_eq]
      by_cases he : e = endpoint
      · subst he
        rw [if_pos rfl]
        by_cases hc : row.cometAddress = comet
        · subst hc
          rw [if_pos rfl]
          exact iff_of_true ⟨row, rfl, rfl, hactive⟩ rfl
        · rw [if_neg hc]
          refine iff_of_false ?_ fun hlast => ?_
          · rintro ⟨row', hrow', hcomet, -⟩
            cases hrow'
            exact hc hcomet
          · obtain ⟨row', hrow', -⟩ := (h.active comet e).mpr hlast
            rw [hunknown] at hrow'
            cases hrow'
      · rw [if_neg he]
        by_cases hc : row.cometAddress = comet
        · subst hc
          rw [if_pos rfl]
          refine iff_of_false (fun hold => ?_) fun hval => he (PgText.ext (Option.some.inj hval).symm)
          have hlast := (h.active row.cometAddress e).mp hold
          rw [hnone] at hlast
          cases hlast
        · rw [if_neg hc]
          exact h.active comet e

theorem ValidatorsFollow.deregister (h : ValidatorsFollow events validators) {comet : PgText} {b : EtlBlock}
    {validators' : Table PgText EtlValidatorRow}
    (hrows : ∀ e, validators'.lookup e = (validators.lookup e).map fun row =>
      if row.cometAddress = comet then row.deregister b else row) :
    ValidatorsFollow (events ++ [.deregistered comet.val]) validators' := by
  refine ⟨fun e he => ?_, fun c e => ?_⟩
  · rw [hrows, Option.isSome_map] at he
    obtain ⟨ev, hev, heq⟩ := h.known e he
    exact ⟨ev, List.mem_append_left _ hev, heq⟩
  · have hactive : ActiveValidator validators' c e ↔
        comet ≠ c ∧ ActiveValidator validators c e := by
      unfold ActiveValidator
      rw [hrows]
      cases validators.lookup e with
      | none => simp
      | some row =>
        by_cases hc : row.cometAddress = comet
        · simp only [Option.map_some, if_pos hc, Option.some.injEq, exists_eq_left']
          refine iff_of_false (fun hrow => ?_) fun hrow => hrow.1 (hc.symm.trans hrow.2.1)
          exact absurd hrow.2 (show "deregistered" ≠ "active" by decide)
        · simp only [Option.map_some, if_neg hc, Option.some.injEq, exists_eq_left']
          exact ⟨fun hrow => ⟨fun heq => hc (hrow.1.trans heq.symm), hrow⟩, And.right⟩
    rw [hactive, lastEndpoint_concat _ rfl]
    by_cases hc : comet = c
    · rw [if_pos hc]
      exact iff_of_false (fun hrow => hrow.1 hc) fun hnone => by cases hnone
    · rw [if_neg hc, ← h.active c e]
      exact and_iff_right hc

end Events

section Blocks

variable {σ : Type} {ix : Indexing σ} {b : EtlBlock} {t : BlockTx}

theorem validatorEvent_cases (t : BlockTx) : t.validatorEvent = none ∨
    (∃ msg vr, t.transaction.transaction = some (.attestation msg) ∧
      msg.body = some (.validatorRegistration vr) ∧
      t.validatorEvent = some (.registered vr.cometAddress vr.endpoint)) ∨
    ∃ msg vd, t.transaction.transaction = some (.attestation msg) ∧
      msg.body = some (.validatorDeregistration vd) ∧
      t.validatorEvent = some (.deregistered vd.cometAddress) := by
  unfold BlockTx.validatorEvent
  split
  · rename_i msg hbody
    split
    · rename_i vr hvr
      exact .inr (.inl ⟨msg, vr, hbody, hvr, rfl⟩)
    · rename_i vd hvd
      exact .inr (.inr ⟨msg, vd, hbody, hvd, rfl⟩)
    · exact .inl rfl
  · exact .inl rfl

/-- Only attestations of validators write the table. -/
theorem leavesValidators (h : t.validatorEvent = none) :
    t.LeavesPart (fun d : EtlTables σ => d.validators) b where
  registers msg vr hbody hvr := by
    rw [BlockTx.validatorEvent, hbody] at h
    simp only [hvr] at h
    cases h
  deregisters msg vd hbody hvd := by
    rw [BlockTx.validatorEvent, hbody] at h
    simp only [hvd] at h
    cases h
  proves _ _ := by
    refine keepsPart_bind fun _ => keepsPart_bind fun provers => ?_
    split
    · exact keepsPart_error _
    · exact keepsPart_bind fun _ => keepsPart_ok fun _ => rfl
  verifies _ _ := keepsPart_ok fun _ => rfl

theorem bindBytes_of_ne {column : String} {k : Bytes} (h : k ≠ []) :
    bindBytes column k = .ok k := if_neg h

theorem apart_validators : Apart fun d : EtlTables σ => d.validators :=
  fun _ _ _ hvalidators _ => hvalidators

/-- A registration that can be stored adds the row of its endpoint, unless there is one. -/
theorem IndexesTx.registers {msg : Attestation} {vr : ValidatorRegistration}
    (hbody : t.transaction.transaction = some (.attestation msg))
    (hvr : msg.body = some (.validatorRegistration vr)) (hstorable : t.StorableEvent)
    {d d' : EtlTables σ} (h : IndexesTx ix b t d d') :
    ∃ (endpoint : PgText) (row : EtlValidatorRow), endpoint.val = vr.endpoint ∧
      row.cometAddress.val = vr.cometAddress ∧ row.status = "active" ∧
      d'.validators = d.validators.insertNew endpoint row := by
  rw [BlockTx.StorableEvent, hbody] at hstorable
  simp only [hvr] at hstorable
  obtain ⟨hwallet, hendpoint, hcomet, htype, hspid, hkey⟩ := hstorable
  obtain ⟨d₁, hfirst, hsame⟩ : ∃ d₁, insertValidatorRegistration b t.hash vr d = .ok ((), d₁) ∧
      d₁.validators = d.validators := by
    rw [insertValidatorRegistration, PgText.ofString_of_nulFree hwallet,
      PgText.ofString_of_nulFree hendpoint, PgText.ofString_of_nulFree hcomet,
      PgText.ofString_of_nulFree htype, PgText.ofString_of_nulFree hspid, bindBytes_of_ne hkey]
    exact ⟨_, rfl, rfl⟩
  obtain ⟨d₂, hsecond, hadded⟩ : ∃ d₂, registerValidator b vr d₁ = .ok ((), d₂) ∧ d₂.validators =
      d₁.validators.insertNew ⟨vr.endpoint, hendpoint⟩ ⟨⟨_, hwallet⟩, ⟨vr.cometAddress, hcomet⟩,
        ⟨_, htype⟩, ⟨_, hspid⟩, vr.power, "active", b.height, none, b.timestamp, b.timestamp⟩ := by
    rw [registerValidator, PgText.ofString_of_nulFree hwallet,
      PgText.ofString_of_nulFree hendpoint, PgText.ofString_of_nulFree hcomet,
      PgText.ofString_of_nulFree htype, PgText.ofString_of_nulFree hspid]
    exact ⟨_, rfl, rfl⟩
  have hafter : d'.validators = d₂.validators := by
    refine h.part_of_two apart_validators (fun emBlock row _ => ⟨{ row with
      txType := "validator_registration", address := some vr.delegateWallet }, ?_, ?_⟩)
      hfirst hsecond
    · rw [processOneTx, hbody]
      simp only [hvr]
    · rintro a ha
      cases ha
      exact hwallet
  exact ⟨_, _, rfl, rfl, rfl, hafter.trans (hsame ▸ hadded)⟩

/-- A deregistration that can be stored marks the rows of its comet address. -/
theorem IndexesTx.deregisters {msg : Attestation} {vd : ValidatorDeregistration}
    (hbody : t.transaction.transaction = some (.attestation msg))
    (hvd : msg.body = some (.validatorDeregistration vd)) (hstorable : t.StorableEvent)
    {d d' : EtlTables σ} (h : IndexesTx ix b t d d') :
    ∃ comet : PgText, comet.val = vd.cometAddress ∧ ∀ e, d'.validators.lookup e =
      (d.validators.lookup e).map fun row =>
        if row.cometAddress = comet then row.deregister b else row := by
  rw [BlockTx.StorableEvent, hbody] at hstorable
  simp only [hvd] at hstorable
  obtain ⟨hcomet, hkey⟩ := hstorable
  obtain ⟨d₁, hfirst, hsame⟩ : ∃ d₁, insertValidatorDeregistration b t.hash vd d = .ok ((), d₁) ∧
      d₁.validators = d.validators := by
    rw [insertValidatorDeregistration, PgText.ofString_of_nulFree hcomet, bindBytes_of_ne hkey]
    exact ⟨_, rfl, rfl⟩
  obtain ⟨d₂, hsecond, hmarked⟩ : ∃ d₂, deregisterValidator b vd d₁ = .ok ((), d₂) ∧
      d₂.validators = d₁.validators.keys.foldl (fun t endpoint => t.update endpoint fun row =>
        if row.cometAddress = ⟨vd.cometAddress, hcomet⟩ then row.deregister b else row)
          d₁.validators := by
    rw [deregisterValidator, PgText.ofString_of_nulFree hcomet]
    exact ⟨_, rfl, rfl⟩
  have hafter : d'.validators = d₂.validators := by
    refine h.part_of_two apart_validators (fun emBlock row _ => ⟨{ row with
      txType := "validator_deregistration", address := some vd.cometAddress }, ?_, ?_⟩)
      hfirst hsecond
    · rw [processOneTx, hbody]
      simp only [hvd]
    · rintro a ha
      cases ha
      exact hcomet
  refine ⟨⟨vd.cometAddress, hcomet⟩, rfl, fun e => ?_⟩
  rw [hafter, hmarked, hsame]
  refine Table.lookup_foldl_keys (fun row => ?_) d.validators e
  by_cases hrow : row.cometAddress = ⟨vd.cometAddress, hcomet⟩
  · rw [if_pos hrow]
    exact if_pos hrow
  · rw [if_neg hrow, if_neg hrow]

/-- Each transaction keeps the table up to date, if its registration can be recorded. -/
theorem ValidatorsFollow.indexesTx {before : List BlockTx} {d d' : EtlTables σ}
    (h : ValidatorsFollow (validatorEvents before) d.validators) (htx : IndexesTx ix b t d d')
    (hstorable : t.StorableEvent)
    (hcan : ∀ e, t.validatorEvent = some e → CanFollow (validatorEvents before) e) :
    ValidatorsFollow (validatorEvents (before ++ [t])) d'.validators := by
  rw [validatorEvents_concat]
  rcases validatorEvent_cases t with hnone | ⟨msg, vr, hbody, hvr, hevent⟩ |
    ⟨msg, vd, hbody, hvd, hevent⟩
  · rw [hnone, Option.toList_none, List.append_nil,
      htx.keeps apart_validators (leavesValidators hnone)]
    exact h
  · obtain ⟨endpoint, row, hendpoint, hcomet, hactive, hadded⟩ := htx.registers hbody hvr hstorable
    have hfollows := hcan _ hevent
    rw [← hcomet, ← hendpoint] at hfollows
    rw [hevent, hadded, Option.toList_some, ← hcomet, ← hendpoint]
    exact h.register hfollows hactive
  · obtain ⟨comet, hcomet, hmarked⟩ := htx.deregisters hbody hvd hstorable
    rw [hevent, Option.toList_some, ← hcomet]
    exact h.deregister hmarked

/-- If every registration is of a validator that is not registered and a new endpoint, or repeats
the one that holds, the table has the endpoints that the last events of the validators say. -/
theorem validators_follow_last_event {bs : List EtlBlock} {d d' : EtlTables σ}
    (h : IndexedBlocks ix d bs d') (hempty : d.validators = ∅)
    (hstorable : ∀ t ∈ bs.flatMap (·.transactions), t.StorableEvent)
    (hfresh : FreshEndpoints (validatorEvents (bs.flatMap (·.transactions))))
    (comet endpoint : PgText) :
    ActiveValidator d'.validators comet endpoint ↔
      lastEndpoint (validatorEvents (bs.flatMap (·.transactions))) comet.val =
        some endpoint.val := by
  have hfollow : (∀ t ∈ bs.flatMap (·.transactions), t.StorableEvent) →
      FreshEndpoints (validatorEvents (bs.flatMap (·.transactions))) →
      ValidatorsFollow (validatorEvents (bs.flatMap (·.transactions))) d'.validators := by
    refine IndexedBlocks.invariant (P := fun before validators =>
      (∀ t ∈ before, t.StorableEvent) → FreshEndpoints (validatorEvents before) →
        ValidatorsFollow (validatorEvents before) validators) apart_validators (fun _ _ => rfl)
      (fun b before t d d' ih htx hstorable hfresh => ?_) h fun _ _ => ?_
    · rw [validatorEvents_concat] at hfresh
      have hbefore : FreshEndpoints (validatorEvents before) := by
        intro events e after heq
        exact hfresh events e (after ++ t.validatorEvent.toList) (by simp [heq])
      refine (ih (fun t ht => hstorable t (List.mem_append_left _ ht)) hbefore).indexesTx htx
        (hstorable t (by simp)) fun e he => ?_
      exact hfresh (validatorEvents before) e [] (by rw [he]; rfl)
    · refine ⟨fun endpoint hsome => ?_, fun comet endpoint => ?_⟩
      · rw [hempty] at hsome
        cases hsome
      · rw [hempty]
        exact iff_of_false (fun ⟨row, hrow, _⟩ => by cases hrow) fun hlast => by cases hlast
  exact (hfollow hstorable hfresh).active comet endpoint

end Blocks

/-! ### A validator that comes back -/

def attestationBlock (height : Int) (hash : PgText) (body : AttestationBody) : EtlBlock :=
  recordedBlock height [⟨hash, { transaction := some (.attestation { body := some body }) }⟩]

/-- The consensus key of `firstNode`. -/
def returningKey : Bytes :=
  bigEndian 32 0xd75a980182b10ab7d54bfed3c964073a0ee172f3daa62325af021a68f707511a

def returningAddress : PgText := Server.firstNode.cometAddress

/-- An endpoint, and the hash of the registration with it. -/
structure RecordedEndpoint where
  endpoint : PgText
  hash : PgText

def firstEndpoint : RecordedEndpoint where
  endpoint := Server.firstNode.endpoint
  hash := ⟨"CAE16CF37C8CE45810B3CE6F43F7E473CC817ED51D70900933D0B6447C6DC760", by decide⟩

def otherEndpoint : RecordedEndpoint where
  endpoint := ⟨"https://b.example", by decide⟩
  hash := ⟨"0719EB934EF6CA207D3CC428092109914C6D8A83EBBDA18E63B0D4C78EF49950", by decide⟩

def registerAt (height : Int) (e : RecordedEndpoint) : EtlBlock :=
  attestationBlock height e.hash (.validatorRegistration {
    cometAddress := returningAddress.val, endpoint := e.endpoint.val, pubKey := returningKey })

/-- A validator registers, deregisters and registers again. -/
def returningBlocks (again : RecordedEndpoint) : List EtlBlock :=
  [registerAt 1 firstEndpoint,
    attestationBlock 2
      ⟨"2BBABFAA53CEA64B0DCE69B8B70F5D4735757D2E0C29A82CADD33804648A605D", by decide⟩
      (.validatorDeregistration { cometAddress := returningAddress.val, pubKey := returningKey }),
    registerAt 3 again]

def returningTables (again : RecordedEndpoint) : EtlTables AggregatePlays :=
  (returningBlocks again).foldl (fun d b => afterBlock playCountIndexing b {} {} d) emptyTables

theorem indexedBlocks_returning :
    IndexedBlocks playCountIndexing emptyTables (returningBlocks otherEndpoint)
        (returningTables otherEndpoint) ∧
      IndexedBlocks playCountIndexing emptyTables (returningBlocks firstEndpoint)
        (returningTables firstEndpoint) := by
  refine ⟨((IndexedBlocks.nil.after ?_).after ?_).after ?_,
    ((IndexedBlocks.nil.after ?_).after ?_).after ?_⟩
  all_goals decide +kernel

theorem freshEndpoints_returning :
    FreshEndpoints (validatorEvents ((returningBlocks otherEndpoint).flatMap (·.transactions))) := by
  change FreshEndpoints [.registered returningAddress.val firstEndpoint.endpoint.val,
    .deregistered returningAddress.val, .registered returningAddress.val otherEndpoint.endpoint.val]
  rintro (_ | ⟨e₁, _ | ⟨e₂, _ | ⟨e₃, before⟩⟩⟩) e after h
  · cases h
    exact .inr ⟨rfl, by decide⟩
  · cases h
    trivial
  · cases h
    exact .inr ⟨by decide, by decide⟩
  · simp at h

/-- Under another endpoint the validator is registered, and no longer under the first. -/
theorem validators_follow_last_event_returning :
    ActiveValidator (returningTables otherEndpoint).validators returningAddress
        otherEndpoint.endpoint ∧
      ¬ ActiveValidator (returningTables otherEndpoint).validators returningAddress
        firstEndpoint.endpoint := by
  have hstorable : ∀ t ∈ (returningBlocks otherEndpoint).flatMap (·.transactions),
      t.StorableEvent := by
    simp only [returningBlocks, attestationBlock, recordedBlock, registerAt, List.flatMap_cons,
      List.flatMap_nil, List.append_nil, List.cons_append, List.nil_append, List.forall_mem_cons,
      List.not_mem_nil, false_implies, implies_true, and_true, BlockTx.StorableEvent]
    decide
  have hlast := validators_follow_last_event indexedBlocks_returning.1 rfl hstorable
    freshEndpoints_returning returningAddress
  exact ⟨(hlast otherEndpoint.endpoint).mpr (by decide),
    fun h => absurd ((hlast _).mp h) (by decide)⟩

/-- Under the endpoint it had the registration changes nothing, and the validator stays
deregistered. -/
theorem reregistration_not_recorded :
    IndexedBlocks playCountIndexing emptyTables (returningBlocks firstEndpoint)
        (returningTables firstEndpoint) ∧
      lastEndpoint (validatorEvents ((returningBlocks firstEndpoint).flatMap (·.transactions)))
          returningAddress.val = some firstEndpoint.endpoint.val ∧
      ¬ ActiveValidator (returningTables firstEndpoint).validators returningAddress
        firstEndpoint.endpoint := by
  refine ⟨indexedBlocks_returning.2, by decide, ?_⟩
  have hrow : ((returningTables firstEndpoint).validators.lookup firstEndpoint.endpoint).map
      (·.status) = some "deregistered" := by decide +kernel
  rintro ⟨row, hlookup, -, hactive⟩
  rw [hlookup, Option.map_some, hactive] at hrow
  exact absurd hrow (by decide)

end OpenAudio.Etl
