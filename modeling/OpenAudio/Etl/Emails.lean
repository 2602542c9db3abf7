import OpenAudio.Etl.EntityManager
import OpenAudio.Core.Auth.Effects

/-!
# Encrypted emails and who may read them

A user's email is stored encrypted, with one row for every user a copy of its key was shared with.
A transaction adds the email of an owner together with the first shares, or adds shares by users
who hold one. Both carry a list of grants, each with its own grantor and receiver.
-/

namespace OpenAudio.Etl

open OpenAudio.Core Prog

/-- The key of `email_access`: owner, receiver and grantor. -/
abbrev AccessKey := Int4 × Int4 × Int4

/-- `email_access`, with the encrypted key and `is_initial`. -/
abbrev AccessTable := Table AccessKey (PgText × Bool)

structure EmailDb where
  base : EtlDb
  encryptedEmails : Table Int4 PgText
  emailAccess : AccessTable

/-- A row a transaction added; a share comes with the shares there were before it. -/
inductive EmailRow where
  | email (owner : Int4)
  | access (before : AccessTable) (key : AccessKey)

/-- The tables inside a transaction and the rows it has added to them. -/
structure EmailState where
  db : EmailDb
  added : List EmailRow

abbrev EmailProg := Prog EmailState EtlError

/-- `accessGrant` -/
structure AccessGrant where
  receivingUserId : Int
  grantorUserId : Int
  encryptedKey : String
  isInitial : Bool
deriving DecidableEq, Repr

/-! ### The handlers -/

section Handlers

variable (rt : GoRuntime)

/-- `is_initial`, which may be absent. -/
def isInitialMember (members : List (String × Json.Value)) : Bool :=
  match Json.lastMember members "is_initial" with
  | some (.bool b) => b
  | _ => false

def parseUserId (v : Json.Value) (name : String) : Except EtlError Int :=
  match v with
  | .num d => .ok (rt.int64OfFloat d.truncated)
  | _ => .error (.validation (name ++ " must be a number"))

/-- An element of `access_grants`. -/
def parseAccessGrant (v : Json.Value) : Except EtlError AccessGrant :=
  match v with
  | .obj members => do
    let some receivingRaw := Json.lastMember members "receiving_user_id"
      | .error (.validation "each access grant must contain receiving_user_id")
    let some grantorRaw := Json.lastMember members "grantor_user_id"
      | .error (.validation "each access grant must contain grantor_user_id")
    let some (.str encryptedKey) := Json.lastMember members "encrypted_key"
      | .error (.validation "each access grant must contain encrypted_key")
    invalidIf (encryptedKey = "") "each access grant must contain encrypted_key"
    let receivingUserId ← parseUserId rt receivingRaw "receiving_user_id"
    let grantorUserId ← parseUserId rt grantorRaw "grantor_user_id"
    return ⟨receivingUserId, grantorUserId, encryptedKey, isInitialMember members⟩
  | _ => .error (.validation "each access grant must be a dict")

def parseAccessGrants (p : Params) : Except EtlError (List AccessGrant) :=
  match Json.lastMember p.metadata "access_grants" with
  | none => .error (.validation "missing required field: access_grants")
  | some (.arr vs) => vs.mapM (parseAccessGrant rt)
  | some _ => .error (.validation "access_grants must be a list")

/-- `email_owner_user_id` of a transaction with metadata. -/
def parseEmailOwner (tx : ManageEntityLegacy) : Except EtlError Int := do
  invalidIf (metadataIsNil tx = true) "email metadata must be a dictionary"
  match (newParams tx).metadataInt64 rt "email_owner_user_id" with
  | none => .error (.validation "missing required field: email_owner_user_id")
  | some owner => return owner

/-- What EncryptedEmail AddEmail reads from its metadata: owner, email and grants. -/
def parseAddEmail (tx : ManageEntityLegacy) : Except EtlError (Int × String × List AccessGrant) := do
  let owner ← parseEmailOwner rt tx
  let encryptedEmail := (newParams tx).metadataString "encrypted_email"
  invalidIf (encryptedEmail = "") "missing required field: encrypted_email"
  return (owner, encryptedEmail, ← parseAccessGrants rt (newParams tx))

/-- What EmailAccess Update reads from its metadata: owner and grants. -/
def parseEmailAccess (tx : ManageEntityLegacy) : Except EtlError (Int × List AccessGrant) := do
  let owner ← parseEmailOwner rt tx
  return (owner, ← parseAccessGrants rt (newParams tx))

def accessRow (owner : Int) (g : AccessGrant) : Except EtlError (AccessKey × PgText × Bool) := do
  let o ← Int4.ofInt owner
  let receiver ← Int4.ofInt g.receivingUserId
  let grantor ← Int4.ofInt g.grantorUserId
  let key ← bindText g.encryptedKey
  return ((o, receiver, grantor), key, g.isInitial)

/-- A user holds a share of an owner's email. -/
def AccessTable.holds (t : AccessTable) (owner user : Int4) : Bool :=
  t.any fun key _ => key.1 == owner && key.2.1 == user

def EmailState.insertAccess (s : EmailState) (key : AccessKey) (row : PgText × Bool) : EmailState :=
  if (s.db.emailAccess.lookup key).isSome then s
  else
    { db := { s.db with emailAccess := s.db.emailAccess.insert key row }
      added := s.added ++ [.access s.db.emailAccess key] }

/-- `INSERT INTO email_access … ON CONFLICT DO NOTHING` -/
def insertEmailAccess (owner : Int) (g : AccessGrant) : EmailProg Unit := do
  let (key, row) ← ofExcept (accessRow owner g)
  modify fun s => s.insertAccess key row

def EmailState.insertEmail (s : EmailState) (owner : Int4) (text : PgText) : EmailState where
  db := { s.db with encryptedEmails := s.db.encryptedEmails.insert owner text }
  added := s.added ++ [.email owner]

/-- The email of an owner who has none, with its shares. -/
def insertEncryptedEmail (owner : Int4) (encryptedEmail : String) (grants : List AccessGrant) :
    EmailProg Unit := do
  let text ← ofExcept (bindText encryptedEmail)
  modify fun s => s.insertEmail owner text
  forEach grants (insertEmailAccess owner.val)

/-- `encryptedEmailHandler.Handle`: an owner who has an email keeps it. -/
def encryptedEmailHandler (tx : ManageEntityLegacy) : EmailProg Unit := do
  let (owner, encryptedEmail, grants) ← ofExcept (parseAddEmail rt tx)
  let o ← ofExcept (Int4.ofInt owner)
  let exists' ← reads fun s => .ok (s.db.encryptedEmails.lookup o).isSome
  if exists' then return () else insertEncryptedEmail o encryptedEmail grants

def grantorHasNoAccess (grantor : Int) : EtlError :=
  .validation s!"grantor {grantor} does not have access to the email"

def grantAccess (owner : Int) (g : AccessGrant) : EmailProg Unit := do
  let o ← ofExcept (Int4.ofInt owner)
  let grantor ← ofExcept (Int4.ofInt g.grantorUserId)
  let grantorHasAccess ← reads fun s => .ok (s.db.emailAccess.holds o grantor)
  rejectIf (grantorHasAccess = false) (grantorHasNoAccess g.grantorUserId)
  insertEmailAccess owner g

/-- `emailAccessHandler.Handle` -/
def emailAccessHandler (tx : ManageEntityLegacy) : EmailProg Unit := do
  let (owner, grants) ← ofExcept (parseEmailAccess rt tx)
  forEach grants (grantAccess owner)

def emailHandler (tx : ManageEntityLegacy) : Option (EmailProg Unit) :=
  if tx.entityType = "EncryptedEmail" ∧ tx.action = "AddEmail" then
    some (encryptedEmailHandler rt tx)
  else if tx.entityType = "EmailAccess" ∧ tx.action = "Update" then some (emailAccessHandler rt tx)
  else none

def indexEmailTx (db : EmailDb) (tx : ManageEntityLegacy) : EmailState :=
  match emailHandler rt tx with
  | none => ⟨db, []⟩
  | some handle => settle ⟨db, []⟩ (handle ⟨db, []⟩)

end Handlers

/-! ### What the rows need -/

section Warranted

variable (rt : GoRuntime) (base : EtlDb) (p : Params)

/-- The signer may act for the owner of an email that is added, and for the grantor of a share; the
grantor is the owner or held a share. -/
def EmailRow.Warranted : EmailRow → Prop
  | .email owner => validateSignerForUser rt base p owner.val = .ok ()
  | .access before (owner, _, grantor) =>
    validateSignerForUser rt base p grantor.val = .ok () ∧
      (grantor = owner ∨ before.holds owner grantor = true)

/-- A grant whose row is new is by a user the signer may act for, who is the owner or holds a share
by then. -/
def GrantsWarranted (owner : Int) : List AccessGrant → AccessTable → Prop
  | [], _ => True
  | g :: gs, t =>
    match accessRow owner g with
    | .error _ => True
    | .ok (key, row) =>
      (t.lookup key = none → EmailRow.Warranted rt base p (.access t key)) ∧
        GrantsWarranted owner gs (t.insertNew key row)

/-- Up to the first grantor without a share, a grant whose row is new is by a user the signer may
act for. -/
def GrantorsAuthorized (owner : Int) : List AccessGrant → AccessTable → Prop
  | [], _ => True
  | g :: gs, t =>
    match accessRow owner g with
    | .error _ => True
    | .ok (key, row) =>
      t.holds key.1 key.2.2 = true →
        (t.lookup key = none → validateSignerForUser rt base p key.2.2.val = .ok ()) ∧
          GrantorsAuthorized owner gs (t.insertNew key row)

/-- What a transaction has to meet: AddEmail for an owner without an email is signed for the owner
and has warranted grants, the grantors of EmailAccess are users the signer may act for. -/
def SharesAuthorized (db : EmailDb) (tx : ManageEntityLegacy) : Prop :=
  if tx.entityType = "EncryptedEmail" then
    ∀ owner encryptedEmail grants, parseAddEmail rt tx = .ok (owner, encryptedEmail, grants) →
      validateSignerForUser rt db.base (newParams tx) owner = .ok () ∧
        GrantsWarranted rt db.base (newParams tx) owner grants db.emailAccess
  else
    ∀ owner grants, parseEmailAccess rt tx = .ok (owner, grants) →
      GrantorsAuthorized rt db.base (newParams tx) owner grants db.emailAccess

end Warranted

/-! ### Every new row is in the record -/

/-- A row of either table that is not as it was is in the record. -/
def EmailState.Complete (db : EmailDb) (s : EmailState) : Prop :=
  (∀ o, s.db.encryptedEmails.lookup o ≠ db.encryptedEmails.lookup o → .email o ∈ s.added) ∧
    ∀ key, s.db.emailAccess.lookup key ≠ db.emailAccess.lookup key →
      ∃ before, .access before key ∈ s.added

def KeepsComplete (s s' : EmailState) : Prop := ∀ db, s.Complete db → s'.Complete db

instance : IsPreorder EmailState KeepsComplete where
  refl _ _ h := h
  trans _ _ _ h₁ h₂ db h := h₂ db (h₁ db h)

theorem keepsComplete_insertEmailAccess (owner : Int) (g : AccessGrant) :
    Keeps KeepsComplete (insertEmailAccess owner g) := by
  refine (keeps_ofExcept _).bind fun ⟨key, row⟩ s db h => ?_
  change (s.insertAccess key row).Complete db
  unfold EmailState.insertAccess
  split
  · exact h
  · refine ⟨fun o ho => List.mem_append_left _ (h.1 o ho), fun j hj => ?_⟩
    rw [Table.lookup_insert_eq] at hj
    by_cases hjk : j = key
    · exact ⟨s.db.emailAccess, by simp [hjk]⟩
    · rw [if_neg hjk] at hj
      exact (h.2 j hj).imp fun _ => List.mem_append_left _

theorem keepsComplete_insertEmail (owner : Int4) (text : PgText) (s : EmailState) :
    KeepsComplete s (s.insertEmail owner text) := by
  refine fun db h => ⟨fun o ho => ?_, fun key hkey =>
    (h.2 key hkey).imp fun _ => List.mem_append_left _⟩
  unfold EmailState.insertEmail at ho ⊢
  rw [Table.lookup_insert_eq] at ho
  by_cases hoo : o = owner
  · simp [hoo]
  · rw [if_neg hoo] at ho
    exact List.mem_append_left _ (h.1 o ho)

theorem keepsComplete_emailHandler {rt : GoRuntime} {tx : ManageEntityLegacy} {m : EmailProg Unit}
    (h : emailHandler rt tx = some m) : Keeps KeepsComplete m := by
  unfold emailHandler at h
  split_ifs at h <;> cases h
  · refine (keeps_ofExcept _).bind fun _ => (keeps_ofExcept _).bind fun o =>
      (keeps_reads _).bind fun _ => Keeps.ite (keeps_pure ()) ?_
    refine (keeps_ofExcept _).bind fun text => ?_
    refine Keeps.bind (keepsComplete_insertEmail o text) fun _ => ?_
    exact Keeps.forEach (keepsComplete_insertEmailAccess o.val)
  · refine (keeps_ofExcept _).bind fun parsed => Keeps.forEach fun g => ?_
    refine (keeps_ofExcept _).bind fun _ => (keeps_ofExcept _).bind fun _ =>
      (keeps_reads _).bind fun _ => (keeps_rejectIf _ _).bind fun _ => ?_
    exact keepsComplete_insertEmailAccess parsed.1 g

/-- What a transaction adds to the tables is in the record it leaves, also after an error. -/
theorem complete_indexEmailTx (rt : GoRuntime) (db : EmailDb) (tx : ManageEntityLegacy) :
    (indexEmailTx rt db tx).Complete db := by
  have hstart : EmailState.Complete db ⟨db, []⟩ :=
    ⟨fun _ h => absurd rfl h, fun _ h => absurd rfl h⟩
  unfold indexEmailTx
  cases hm : emailHandler rt tx with
  | none => exact hstart
  | some m =>
    change (settle ⟨db, []⟩ (m ⟨db, []⟩)).Complete db
    unfold settle
    split
    · exact keepsComplete_emailHandler hm _ db hstart
    · exact hstart

/-! ### The shares a transaction adds -/

section Rows

variable {rt : GoRuntime} {base : EtlDb} {p : Params}

def EmailState.Warranted (rt : GoRuntime) (base : EtlDb) (p : Params) (s : EmailState) : Prop :=
  ∀ r ∈ s.added, r.Warranted rt base p

theorem warranted_append_iff {db db' : EmailDb} {added : List EmailRow} {r : EmailRow} :
    EmailState.Warranted rt base p ⟨db', added ++ [r]⟩ ↔
      EmailState.Warranted rt base p ⟨db, added⟩ ∧ r.Warranted rt base p := by
  simp [EmailState.Warranted, or_imp, forall_and]

theorem insertAccess_emailAccess (s : EmailState) (key : AccessKey) (row : PgText × Bool) :
    (s.insertAccess key row).db.emailAccess = s.db.emailAccess.insertNew key row := by
  unfold EmailState.insertAccess Table.insertNew
  split <;> rfl

theorem insertAccess_warranted_iff (s : EmailState) (key : AccessKey) (row : PgText × Bool) :
    (s.insertAccess key row).Warranted rt base p ↔
      s.Warranted rt base p ∧
        (s.db.emailAccess.lookup key = none →
          EmailRow.Warranted rt base p (.access s.db.emailAccess key)) := by
  unfold EmailState.insertAccess
  cases hrow : s.db.emailAccess.lookup key with
  | none => simpa using warranted_append_iff
  | some _ => simp

theorem forEach_insertEmailAccess_iff {owner : Int} {grants : List AccessGrant} {s s' : EmailState}
    (h : forEach grants (insertEmailAccess owner) s = (.ok (), s')) :
    s'.Warranted rt base p ↔
      s.Warranted rt base p ∧ GrantsWarranted rt base p owner grants s.db.emailAccess := by
  induction grants generalizing s with
  | nil =>
    cases h
    simp [GrantsWarranted]
  | cons g gs ih =>
    obtain ⟨_, s₁, hg, hgs⟩ := bind_eq_ok h
    obtain ⟨⟨key, row⟩, hrow, hs₁⟩ := reads_bind_eq_ok hg
    cases hs₁
    rw [ih hgs, insertAccess_warranted_iff, insertAccess_emailAccess, GrantsWarranted, hrow,
      and_assoc]

def Hard {α : Type} (r : Except EtlError α) : Prop :=
  ∀ e, r = .error e → keepsSavepoint (.error e) = false

theorem Hard.bind {α β : Type} {r : Except EtlError α} {f : α → Except EtlError β} (hr : Hard r)
    (hf : ∀ a, Hard (f a)) : Hard (r >>= f) := by
  intro e he
  cases r with
  | error e' =>
    cases he
    exact hr e rfl
  | ok a => exact hf a e he

theorem hard_ok {α : Type} (a : α) : Hard (.ok a) := by
  intro e h
  cases h

theorem hard_ofInt (n : Int) : Hard (Int4.ofInt n) := by
  intro e h
  unfold Int4.ofInt at h
  split at h
  · cases h
  · cases h
    rfl

theorem hard_bindText (s : String) : Hard (bindText s) := by
  intro e h
  unfold bindText at h
  cases ht : PgText.ofString s with
  | ok t =>
    rw [ht] at h
    cases h
  | error e' =>
    rw [ht] at h
    cases h
    rfl

theorem hard_accessRow (owner : Int) (g : AccessGrant) : Hard (accessRow owner g) := by
  refine (hard_ofInt owner).bind fun o => (hard_ofInt g.receivingUserId).bind fun receiver => ?_
  exact (hard_ofInt g.grantorUserId).bind fun grantor =>
    (hard_bindText g.encryptedKey).bind fun key => hard_ok _

theorem insertEmailAccess_of_row {owner : Int} {g : AccessGrant} {key : AccessKey}
    {row : PgText × Bool} (h : accessRow owner g = .ok (key, row)) (s : EmailState) :
    insertEmailAccess owner g s = (.ok (), s.insertAccess key row) := by
  rw [insertEmailAccess, h]
  rfl

theorem insertEmailAccess_of_error {owner : Int} {g : AccessGrant} {e : EtlError}
    (h : accessRow owner g = .error e) (s : EmailState) :
    insertEmailAccess owner g s = (.error e, s) := by
  rw [insertEmailAccess, h]
  rfl

theorem hard_forEach_insertEmailAccess (owner : Int) (grants : List AccessGrant) (s : EmailState) :
    Hard (forEach grants (insertEmailAccess owner) s).1 := by
  induction grants generalizing s with
  | nil => exact hard_ok ()
  | cons g gs ih =>
    rw [forEach]
    cases hrow : accessRow owner g with
    | error e =>
      rw [bind_of_error (insertEmailAccess_of_error hrow s)]
      intro e' he'
      cases he'
      exact hard_accessRow owner g e hrow
    | ok kr =>
      rw [bind_of_ok (insertEmailAccess_of_row hrow s)]
      exact ih _

theorem accessRow_eq_ok {owner : Int} {g : AccessGrant} {key : AccessKey} {row : PgText × Bool}
    (h : accessRow owner g = .ok (key, row)) :
    Int4.ofInt owner = .ok key.1 ∧ Int4.ofInt g.grantorUserId = .ok key.2.2 := by
  obtain ⟨o, ho, h⟩ := except_bind_eq_ok.mp h
  obtain ⟨receiver, -, h⟩ := except_bind_eq_ok.mp h
  obtain ⟨grantor, hgrantor, h⟩ := except_bind_eq_ok.mp h
  obtain ⟨text, -, h⟩ := except_bind_eq_ok.mp h
  cases h
  exact ⟨ho, hgrantor⟩

theorem grantAccess_of_ids {owner : Int} {g : AccessGrant} {o grantor : Int4}
    (ho : Int4.ofInt owner = .ok o) (hgrantor : Int4.ofInt g.grantorUserId = .ok grantor)
    (s : EmailState) :
    grantAccess owner g s =
      if s.db.emailAccess.holds o grantor then insertEmailAccess owner g s
      else (.error (grantorHasNoAccess g.grantorUserId), s) := by
  rw [grantAccess, ho, hgrantor, ofExcept_ok_bind, ofExcept_ok_bind]
  have hread : (reads fun s => .ok (s.db.emailAccess.holds o grantor) : EmailProg Bool) s =
      (.ok (s.db.emailAccess.holds o grantor), s) := rfl
  rw [bind_of_ok hread]
  cases s.db.emailAccess.holds o grantor <;> rfl

theorem grantAccess_of_error {owner : Int} {g : AccessGrant} {e : EtlError}
    (h : accessRow owner g = .error e) (s : EmailState) :
    ∃ e', grantAccess owner g s = (.error e', s) := by
  cases ho : Int4.ofInt owner with
  | error e' => exact ⟨e', by rw [grantAccess, ho]; rfl⟩
  | ok o =>
    cases hgrantor : Int4.ofInt g.grantorUserId with
    | error e' => exact ⟨e', by rw [grantAccess, ho, hgrantor]; rfl⟩
    | ok grantor =>
      rw [grantAccess_of_ids ho hgrantor, insertEmailAccess_of_error h]
      split
      · exact ⟨e, rfl⟩
      · exact ⟨grantorHasNoAccess g.grantorUserId, rfl⟩

theorem forEach_grantAccess_iff (owner : Int) (grants : List AccessGrant) (s : EmailState) :
    (forEach grants (grantAccess owner) s).2.Warranted rt base p ↔
      s.Warranted rt base p ∧ GrantorsAuthorized rt base p owner grants s.db.emailAccess := by
  induction grants generalizing s with
  | nil => simp [GrantorsAuthorized, forEach, pure_apply]
  | cons g gs ih =>
    rw [forEach]
    cases hrow : accessRow owner g with
    | error e =>
      obtain ⟨e', hg⟩ := grantAccess_of_error hrow s
      rw [bind_of_error hg, GrantorsAuthorized, hrow]
      simp
    | ok kr =>
      obtain ⟨key, row⟩ := kr
      obtain ⟨ho, hgrantor⟩ := accessRow_eq_ok hrow
      have hg := grantAccess_of_ids ho hgrantor s
      rw [insertEmailAccess_of_row hrow] at hg
      rw [GrantorsAuthorized, hrow]
      cases hholds : s.db.emailAccess.holds key.1 key.2.2 with
      | false =>
        rw [hholds, if_neg Bool.false_ne_true] at hg
        rw [bind_of_error hg]
        simp [hholds]
      | true =>
        rw [hholds, if_pos rfl] at hg
        rw [bind_of_ok hg, ih, insertAccess_warranted_iff, insertAccess_emailAccess, and_assoc]
        simp [hholds, EmailRow.Warranted]

/-- AddEmail changes the tables only by adding the email of the owner and then the shares. -/
theorem encryptedEmailHandler_adds {db : EmailDb} {tx : ManageEntityLegacy}
    (hkept : keepsSavepoint (encryptedEmailHandler rt tx ⟨db, []⟩).1 = true)
    (hne : (encryptedEmailHandler rt tx ⟨db, []⟩).2.db ≠ db) :
    ∃ (o : Int4) (encryptedEmail : String) (grants : List AccessGrant) (text : PgText)
        (s : EmailState),
      parseAddEmail rt tx = .ok (o.val, encryptedEmail, grants) ∧
      forEach grants (insertEmailAccess o.val) (EmailState.insertEmail ⟨db, []⟩ o text) =
        (.ok (), s) ∧
      encryptedEmailHandler rt tx ⟨db, []⟩ = (.ok (), s) := by
  rw [encryptedEmailHandler] at hkept hne ⊢
  cases hparse : parseAddEmail rt tx with
  | error e =>
    rw [hparse] at hne
    exact absurd rfl hne
  | ok parsed =>
    obtain ⟨owner, encryptedEmail, grants⟩ := parsed
    rw [hparse, ofExcept_ok_bind] at hkept hne
    rw [ofExcept_ok_bind]
    cases ho : Int4.ofInt owner with
    | error e =>
      simp only [ho] at hne
      exact absurd rfl hne
    | ok o =>
      obtain rfl := Int4.ofInt_eq_ok ho
      simp only [ho, ofExcept_ok_bind] at hkept hne ⊢
      have hread : (reads fun s => .ok (s.db.encryptedEmails.lookup o).isSome : EmailProg Bool)
          ⟨db, []⟩ = (.ok (db.encryptedEmails.lookup o).isSome, ⟨db, []⟩) := rfl
      rw [bind_of_ok hread] at hkept hne ⊢
      by_cases hexists : (db.encryptedEmails.lookup o).isSome = true
      · rw [if_pos hexists] at hne
        exact absurd rfl hne
      · rw [if_neg hexists, insertEncryptedEmail] at hkept hne ⊢
        cases htext : bindText encryptedEmail with
        | error e =>
          rw [htext] at hne
          exact absurd rfl hne
        | ok text =>
          rw [htext, ofExcept_ok_bind, modify_bind_apply] at hkept hne
          rw [ofExcept_ok_bind, modify_bind_apply]
          cases hresult : (forEach grants (insertEmailAccess o.val)
              (EmailState.insertEmail ⟨db, []⟩ o text)).1 with
          | error e =>
            have hhard := hard_forEach_insertEmailAccess o.val grants _ e hresult
            rw [hresult, hhard] at hkept
            exact absurd hkept Bool.false_ne_true
          | ok u =>
            have hrun := eq_mk_of_fst hresult
            exact ⟨o, encryptedEmail, grants, text, _, rfl, hrun, hrun⟩

theorem encryptedEmailHandler_iff {db : EmailDb} {tx : ManageEntityLegacy}
    (hkept : keepsSavepoint (encryptedEmailHandler rt tx ⟨db, []⟩).1 = true)
    (hne : (encryptedEmailHandler rt tx ⟨db, []⟩).2.db ≠ db) :
    (encryptedEmailHandler rt tx ⟨db, []⟩).2.Warranted rt base p ↔
      ∀ owner encryptedEmail grants, parseAddEmail rt tx = .ok (owner, encryptedEmail, grants) →
        validateSignerForUser rt base p owner = .ok () ∧
          GrantsWarranted rt base p owner grants db.emailAccess := by
  obtain ⟨o, encryptedEmail, grants, text, s, hparse, hloop, hrun⟩ :=
    encryptedEmailHandler_adds hkept hne
  have hemail : (EmailState.insertEmail ⟨db, []⟩ o text).Warranted rt base p ↔
      validateSignerForUser rt base p o.val = .ok () := by
    simp [EmailState.Warranted, EmailState.insertEmail, EmailRow.Warranted]
  rw [hrun, forEach_insertEmailAccess_iff hloop, hemail, hparse]
  constructor
  · rintro h _ _ _ ⟨⟩
    exact h
  · intro h
    exact h _ _ _ rfl

theorem emailAccessHandler_iff {db : EmailDb} {tx : ManageEntityLegacy} :
    (emailAccessHandler rt tx ⟨db, []⟩).2.Warranted rt base p ↔
      ∀ owner grants, parseEmailAccess rt tx = .ok (owner, grants) →
        GrantorsAuthorized rt base p owner grants db.emailAccess := by
  have hnil : EmailState.Warranted rt base p ⟨db, []⟩ := by
    intro r hr
    cases hr
  rw [emailAccessHandler]
  cases hparse : parseEmailAccess rt tx with
  | error e =>
    constructor
    · rintro - _ _ ⟨⟩
    · intro _
      exact hnil
  | ok parsed =>
    obtain ⟨owner, grants⟩ := parsed
    rw [ofExcept_ok_bind, forEach_grantAccess_iff]
    constructor
    · rintro ⟨-, h⟩ _ _ ⟨⟩
      exact h
    · intro h
      exact ⟨hnil, h owner grants rfl⟩

end Rows

theorem settle_of_ne {db : EmailDb} {out : Except EtlError Unit × EmailState}
    (h : (settle ⟨db, []⟩ out).db ≠ db) :
    keepsSavepoint out.1 = true ∧ settle ⟨db, []⟩ out = out.2 := by
  unfold settle at h ⊢
  by_cases hkept : keepsSavepoint out.1 = true
  · exact ⟨hkept, if_pos hkept⟩
  · rw [if_neg hkept] at h
    exact absurd rfl h

/-- A transaction that changes the tables has its rows warranted if and only if it is signed for the
owner and the grantors it names, as `SharesAuthorized` says. -/
theorem rowsWarranted_iff {rt : GoRuntime} {db : EmailDb} {tx : ManageEntityLegacy}
    (h : (indexEmailTx rt db tx).db ≠ db) :
    (∀ r ∈ (indexEmailTx rt db tx).added, r.Warranted rt db.base (newParams tx)) ↔
      SharesAuthorized rt db tx := by
  by_cases hadd : tx.entityType = "EncryptedEmail" ∧ tx.action = "AddEmail"
  · have htx : indexEmailTx rt db tx =
        settle ⟨db, []⟩ (encryptedEmailHandler rt tx ⟨db, []⟩) := by
      rw [indexEmailTx, emailHandler, if_pos hadd]
    rw [htx] at h
    obtain ⟨hkept, hsettle⟩ := settle_of_ne h
    rw [hsettle] at h
    rw [htx, hsettle, SharesAuthorized, if_pos hadd.1]
    exact encryptedEmailHandler_iff hkept h
  · by_cases hupdate : tx.entityType = "EmailAccess" ∧ tx.action = "Update"
    · have htx : indexEmailTx rt db tx = settle ⟨db, []⟩ (emailAccessHandler rt tx ⟨db, []⟩) := by
        rw [indexEmailTx, emailHandler, if_neg hadd, if_pos hupdate]
      have htype : tx.entityType ≠ "EncryptedEmail" := by
        rw [hupdate.1]
        decide
      rw [htx] at h
      rw [htx, (settle_of_ne h).2, SharesAuthorized, if_neg htype]
      exact emailAccessHandler_iff
    · have htx : indexEmailTx rt db tx = ⟨db, []⟩ := by
        rw [indexEmailTx, emailHandler, if_neg hadd, if_neg hupdate]
      rw [htx] at h
      exact absurd rfl h

/-! ### A share nobody signed for -/

def emailDb : EmailDb where
  base :=
    { users := [⟨⟨1, by decide⟩, Server.firstWallet, none, false, true⟩,
        ⟨⟨2, by decide⟩, ⟨"0x2b5ad5c4795c026514f8317c7a215e218dccd6cf", by decide⟩, none, false,
          true⟩]
      grants := []
      developerApps := [] }
  encryptedEmails := (∅ : Table Int4 PgText).insert ⟨1, by decide⟩ ⟨"email", by decide⟩
  emailAccess := (∅ : AccessTable).insert (⟨1, by decide⟩, ⟨2, by decide⟩, ⟨1, by decide⟩)
    (⟨"key", by decide⟩, false)

def secondShare : AccessGrant := ⟨3, 2, "key", false⟩

def shareTx (signer : String) : ManageEntityLegacy where
  userId := 2
  entityType := "EmailAccess"
  action := "Update"
  metadata := "\x7b\"email_owner_user_id\":1,\"access_grants\":[\x7b\"receiving_user_id\":3," ++
    "\"grantor_user_id\":2,\"encrypted_key\":\"key\"\x7d]\x7d"
  signer := signer

def ownShareTx : ManageEntityLegacy := shareTx "0x2b5ad5c4795c026514f8317c7a215e218dccd6cf"

theorem shares_ownShareTx : (indexEmailTx .amd64 emailDb ownShareTx).db ≠ emailDb := by
  have hrow : ((indexEmailTx .amd64 emailDb ownShareTx).db.emailAccess.lookup
      (⟨1, by decide⟩, ⟨3, by decide⟩, ⟨2, by decide⟩)).isSome = true := by
    decide +kernel
  intro h
  rw [h] at hrow
  revert hrow
  decide +kernel

theorem rowsWarranted_own :
    (indexEmailTx .amd64 emailDb ownShareTx).db ≠ emailDb ∧
      ∀ r ∈ (indexEmailTx .amd64 emailDb ownShareTx).added,
        r.Warranted .amd64 emailDb.base (newParams ownShareTx) := by
  refine ⟨shares_ownShareTx, (rowsWarranted_iff shares_ownShareTx).mpr ?_⟩
  have hparse : parseEmailAccess .amd64 ownShareTx = .ok (1, [secondShare]) := by decide +kernel
  have hsigner : validateSignerForUser .amd64 emailDb.base (newParams ownShareTx) 2 = .ok () := by
    decide +kernel
  rw [SharesAuthorized, if_neg (by decide), hparse]
  rintro _ _ ⟨⟩
  exact fun _ => ⟨fun _ => hsigner, trivial⟩

/-- A stranger shares the email in the second user's name. -/
theorem share_unsigned :
    (indexEmailTx .amd64 emailDb (shareTx "0xdead")).db.emailAccess.lookup
        (⟨1, by decide⟩, ⟨3, by decide⟩, ⟨2, by decide⟩) =
      some (⟨"key", by decide⟩, false) ∧
    emailDb.emailAccess.lookup (⟨1, by decide⟩, ⟨3, by decide⟩, ⟨2, by decide⟩) = none ∧
    validateSignerForUser .amd64 emailDb.base (newParams (shareTx "0xdead")) 2 =
      .error (.validation "signer 0xdead is not authorized for user 2") := by
  refine ⟨by decide +kernel, by decide +kernel, by decide +kernel⟩

end OpenAudio.Etl
