import Mathlib.Logic.Function.Basic
import OpenAudio.Core.Auth.Rejections

/-!
# The rows of an auth store

Both stores show rows under texts: the durable one those of its tables, the overlay those it has
written and, for the others, those of its base. A read by key returns the row and a write sets one;
only the scans by wallet and handle are not determined by the rows.
-/

namespace OpenAudio.Core

open Prog AuthStore

/-- The rows of an auth store under their keys, as the reads return them. -/
@[ext]
structure AuthRows where
  users : Int → Option AuthUserRow
  grants : String × Int → Option AuthGrantRow
  apps : String → Option AuthAppRow
  entities : String × Int → Option AuthEntityRow
  cids : String × Int → Option Unit

namespace AuthRows

variable (S : AuthRows)

def setUser (id : Int) (u : AuthUserRow) : AuthRows :=
  { S with users := Function.update S.users id (some u) }

def setGrant (k : String × Int) (g : AuthGrantRow) : AuthRows :=
  { S with grants := Function.update S.grants k (some g) }

def setApp (a : String) (r : AuthAppRow) : AuthRows :=
  { S with apps := Function.update S.apps a (some r) }

def setEntity (k : String × Int) (e : AuthEntityRow) : AuthRows :=
  { S with entities := Function.update S.entities k (some e) }

def claim (k : String × Int) : AuthRows :=
  { S with cids := Function.update S.cids k (some ()) }

end AuthRows

/-- The store reads and writes rows under their keys. -/
structure RowStore {σ : Type} [AuthStore σ] (rows : σ → AuthRows) : Prop where
  rejects : StoreRejectsNothing σ
  getUser : ∀ {id s s' r}, getUser id s = (.ok r, s') → r = (rows s).users id
  getGrant : ∀ {g id s s' r}, getGrant g id s = (.ok r, s') → r = (rows s).grants (g, id)
  getApp : ∀ {a s s' r}, getApp a s = (.ok r, s') → r = (rows s).apps a
  getEntity : ∀ {e id s s' r}, getEntity e id s = (.ok r, s') → r = (rows s).entities (e, id)
  cidIsClaimed : ∀ {c s s'}, cidIsClaimed c s = (.ok false, s') → ∀ id, (rows s).cids (c, id) = none
  insertUser : ∀ {id w l d s s'}, insertUser id w l d s = (.ok (), s') → (rows s).users id = none →
    rows s' = (rows s).setUser id ⟨w, l, d⟩
  setUserHandle : ∀ {id l u s s'}, setUserHandle id l s = (.ok (), s') →
    (rows s).users id = some u → rows s' = (rows s).setUser id { u with handleLC := l }
  setUserDeactivated : ∀ {id d u s s'}, setUserDeactivated id d s = (.ok (), s') →
    (rows s).users id = some u → rows s' = (rows s).setUser id { u with deactivated := d }
  upsertGrant : ∀ {g id a r s s'}, upsertGrant g id a r s = (.ok (), s') →
    rows s' = (rows s).setGrant (g, id) ⟨a, r⟩
  upsertApp : ∀ {a id s s'}, upsertApp a id s = (.ok (), s') → rows s' = (rows s).setApp a ⟨id, false⟩
  setAppDeleted : ∀ {a r s s'}, setAppDeleted a s = (.ok (), s') → (rows s).apps a = some r →
    rows s' = (rows s).setApp a { r with deleted := true }
  insertEntity : ∀ {e id o d s s'}, insertEntity e id o d s = (.ok (), s') →
    (rows s).entities (e, id) = none → rows s' = (rows s).setEntity (e, id) ⟨o, d⟩
  setEntityDeleted : ∀ {e id r s s'}, setEntityDeleted e id s = (.ok (), s') →
    (rows s).entities (e, id) = some r → rows s' = (rows s).setEntity (e, id) { r with deleted := true }
  insertCid : ∀ {c id l s s'}, insertCid c id l s = (.ok (), s') → rows s' = (rows s).claim (c, id)
  /-- a grant that can be read can be written -/
  writable : ∀ {g id r} {s : σ}, (AuthStore.getGrant g id s).1 = .ok (some r) →
    ∀ approved revoked, ∃ s', AuthStore.upsertGrant g id approved revoked s = (.ok (), s')

/-! ### The tables -/

/-- The rows of a table under the texts of its keys. -/
def textRows {ρ ρ' : Type} (row : ρ → ρ') (rowOf : PgText → Option ρ) (text : String) : Option ρ' :=
  ((PgText.ofString text).toOption.bind rowOf).map row

theorem textRows_of_ofString {ρ ρ' : Type} {row : ρ → ρ'} {rowOf : PgText → Option ρ} {text : String}
    {p : PgText} (h : PgText.ofString text = .ok p) : textRows row rowOf text = (rowOf p).map row := by
  rw [textRows, h]
  rfl

/-- What a query under a text finds. -/
theorem textRows_of_query {ρ ρ' : Type} {row : ρ → ρ'} {rowOf : PgText → Option ρ} {text : String}
    {r : Option ρ'} (h : (do return (rowOf (← PgText.ofString text)).map row) = Except.ok r) :
    r = textRows row rowOf text := by
  obtain ⟨p, hp, hr⟩ := except_bind_eq_ok.mp h
  cases hr
  exact (textRows_of_ofString hp).symm

/-- Under a text there is the row of the one key with this text. -/
theorem textRows_of_set {ρ ρ' : Type} (row : ρ → ρ') {rowOf rowOf' : PgText → Option ρ} {key : PgText}
    {new : ρ} (h : ∀ p, rowOf' p = if p = key then some new else rowOf p) (text : String) :
    textRows row rowOf' text = if text = key.val then some (row new) else textRows row rowOf text := by
  by_cases hnul : NulFree text
  · have hkey : (⟨text, hnul⟩ : PgText) = key ↔ text = key.val := PgText.ext_iff
    rw [textRows_of_ofString (PgText.ofString_of_nulFree hnul),
      textRows_of_ofString (PgText.ofString_of_nulFree hnul), h]
    by_cases heq : text = key.val
    · rw [if_pos (hkey.mpr heq), if_pos heq]
      rfl
    · rw [if_neg (mt hkey.mp heq), if_neg heq]
  · rw [if_neg]
    · rw [textRows, textRows, PgText.ofString_of_not_nulFree hnul]
      rfl
    · rintro rfl
      exact hnul key.nulFree

namespace AuthTables

variable (S : AuthTables)

def rows : AuthRows where
  users := S.getUser
  grants k := textRows AuthGrantRecord.row (fun g => S.grants.lookup (g, k.2)) k.1
  apps := textRows AuthAppRecord.row fun a => S.apps.lookup a
  entities k := textRows AuthEntityRecord.row (fun e => S.entities.lookup (e, k.2)) k.1
  cids k := textRows (fun _ => ()) (fun c => S.cids.lookup (c, k.2)) k.1

variable {S} {S' : AuthTables}

theorem getGrant_rows {g : String} {id : Int} {r : Option AuthGrantRow}
    (h : S.getGrant g id = .ok r) : r = S.rows.grants (g, id) := textRows_of_query h

theorem getApp_rows {a : String} {r : Option AuthAppRow} (h : S.getApp a = .ok r) :
    r = S.rows.apps a := textRows_of_query h

theorem getEntity_rows {e : String} {id : Int} {r : Option AuthEntityRow}
    (h : S.getEntity e id = .ok r) : r = S.rows.entities (e, id) := textRows_of_query h

theorem cidIsClaimed_rows {c : String} (h : S.cidIsClaimed c = .ok false) (id : Int) :
    S.rows.cids (c, id) = none := by
  obtain ⟨p, rfl, hclaimed⟩ := cidIsClaimed_eq_ok h
  change textRows _ _ p.val = none
  rw [textRows_of_ofString p.ofString_val, Option.map_eq_none_iff]
  by_contra hsome
  exact Bool.false_ne_true (hclaimed.mpr ⟨id, Option.isSome_iff_ne_none.mpr hsome⟩)

theorem getUserIDByWallet_rows {w : String} {id : Int} (h : S.getUserIDByWallet w = .ok (some id)) :
    ∃ u, S.rows.users id = some u ∧ u.wallet = w ∧ u.deactivated = false := by
  obtain ⟨p, u, rfl, hu, rfl, hactive⟩ := getUserIDByWallet_eq_ok h
  refine ⟨u.row, ?_, rfl, hactive⟩
  change (S.users.lookup id).map (·.row) = _
  rw [hu]
  rfl

theorem rows_users_set {id : Int} {u : AuthUserRecord} {users : Table Int AuthUserRecord}
    (h : S.users.Sets users id u) :
    ({ S with users := users } : AuthTables).rows = S.rows.setUser id u.row := by
  refine AuthRows.ext (funext fun j => ?_) rfl rfl rfl rfl
  change (users.lookup j).map (·.row) = Function.update S.getUser id (some u.row) j
  rw [h j, Function.update_apply]
  split <;> rfl

/-- A table under a text and a number, with a row set. -/
theorem textRows_pair_set {ρ ρ' : Type} (row : ρ → ρ') {t t' : Table (PgText × Int) ρ} {g : PgText}
    {id : Int} {new : ρ} (h : t.Sets t' (g, id) new) :
    (fun k : String × Int => textRows row (fun g => t'.lookup (g, k.2)) k.1) =
      Function.update (fun k => textRows row (fun g => t.lookup (g, k.2)) k.1) (g.val, id)
        (some (row new)) := by
  funext ⟨text, j⟩
  rw [Function.update_apply]
  by_cases hj : j = id
  · subst hj
    have hset : ∀ p, t'.lookup (p, j) = if p = g then some new else t.lookup (p, j) :=
      fun p => by simp [h (p, j)]
    rw [textRows_of_set row hset]
    simp
  · have hsame : ∀ p, t'.lookup (p, j) = t.lookup (p, j) := fun p => by rw [h]; simp [hj]
    simp [hj, hsame]

theorem rows_grants_set {g : PgText} {id : Int} {r : AuthGrantRecord}
    {grants : Table (PgText × Int) AuthGrantRecord} (h : S.grants.Sets grants (g, id) r) :
    ({ S with grants := grants } : AuthTables).rows = S.rows.setGrant (g.val, id) r.row :=
  AuthRows.ext rfl (textRows_pair_set _ h) rfl rfl rfl

theorem rows_apps_set {a : PgText} {r : AuthAppRecord} {apps : Table PgText AuthAppRecord}
    (h : S.apps.Sets apps a r) :
    ({ S with apps := apps } : AuthTables).rows = S.rows.setApp a.val r.row := by
  refine AuthRows.ext rfl rfl (funext fun text => ?_) rfl rfl
  change textRows _ _ text = Function.update S.rows.apps a.val (some r.row) text
  rw [Function.update_apply]
  exact textRows_of_set _ h text

theorem rows_entities_set {e : PgText} {id : Int} {r : AuthEntityRecord}
    {entities : Table (PgText × Int) AuthEntityRecord} (h : S.entities.Sets entities (e, id) r) :
    ({ S with entities := entities } : AuthTables).rows = S.rows.setEntity (e.val, id) r.row :=
  AuthRows.ext rfl rfl rfl (textRows_pair_set _ h) rfl

theorem rows_cids_insertNew (c : PgText) (id : Int) (l : PgText) :
    ({ S with cids := S.cids.insertNew (c, id) l } : AuthTables).rows = S.rows.claim (c.val, id) := by
  refine AuthRows.ext rfl rfl rfl rfl ?_
  cases hold : S.cids.lookup (c, id) with
  | none => exact textRows_pair_set (fun _ => ()) (Table.sets_insertNew hold l)
  | some row =>
    have hsame : S.cids.insertNew (c, id) l = S.cids := by simp [Table.insertNew, hold]
    rw [hsame]
    exact textRows_pair_set (fun _ => ()) (Table.sets_self hold)

end AuthTables

def Txn.rows (t : Txn Db) : AuthRows := t.view.auth.rows

/-- A write under a text. -/
theorem authWrite_text {f : AuthTables → PgText → AuthTables} {text : String} {t t' : Txn Db}
    (h : authWrite (fun S => do return f S (← PgText.ofString text)) t = (.ok (), t')) :
    ∃ p : PgText, text = p.val ∧ t'.view.auth = f t.view.auth p := by
  obtain ⟨S, hw, rfl⟩ := authWrite_eq_ok h
  obtain ⟨p, hp, hw⟩ := except_bind_eq_ok.mp hw
  cases hw
  exact ⟨p, (PgText.val_of_ofString hp).symm, rfl⟩

theorem rowStore_db : RowStore Txn.rows where
  rejects := storeRejectsNothing_db
  getUser h := (Except.ok.inj (authQuery_eq_ok h).2.1).symm
  getGrant h := AuthTables.getGrant_rows (authQuery_eq_ok h).2.1
  getApp h := AuthTables.getApp_rows (authQuery_eq_ok h).2.1
  getEntity h := AuthTables.getEntity_rows (authQuery_eq_ok h).2.1
  cidIsClaimed h := AuthTables.cidIsClaimed_rows (authQuery_eq_ok h).2.1
  insertUser {id w l d t t'} h hnone := by
    obtain ⟨S, hw, rfl⟩ := authWrite_eq_ok h
    obtain ⟨w', hw', hw⟩ := except_bind_eq_ok.mp hw
    obtain ⟨l', hl', hw⟩ := except_bind_eq_ok.mp hw
    cases hw
    have hset := Table.sets_insertNew (Option.map_eq_none_iff.mp hnone)
      (⟨w', if l = "" then none else some l', d⟩ : AuthUserRecord)
    have hrow : (⟨w', if l = "" then none else some l', d⟩ : AuthUserRecord).row = ⟨w, l, d⟩ := by
      rw [AuthUserRecord.row, PgText.val_of_ofString hw', ← PgText.val_of_ofString hl']
      by_cases hl : l'.val = "" <;> simp [hl]
    rw [← hrow]
    exact AuthTables.rows_users_set hset
  setUserHandle h hu := by
    obtain ⟨p, rfl, hrows⟩ := authWrite_text h
    obtain ⟨r, hr, rfl⟩ := Option.map_eq_some_iff.mp hu
    rw [Txn.rows, hrows]
    exact AuthTables.rows_users_set (Table.sets_update hr _)
  setUserDeactivated h hu := by
    obtain ⟨S, hw, rfl⟩ := authWrite_eq_ok h
    cases hw
    obtain ⟨r, hr, rfl⟩ := Option.map_eq_some_iff.mp hu
    exact AuthTables.rows_users_set (Table.sets_update hr _)
  upsertGrant h := by
    obtain ⟨p, rfl, hrows⟩ := authWrite_text h
    rw [Txn.rows, hrows]
    exact AuthTables.rows_grants_set (Table.sets_insert _ _ _)
  upsertApp h := by
    obtain ⟨p, rfl, hrows⟩ := authWrite_text h
    rw [Txn.rows, hrows]
    exact AuthTables.rows_apps_set (Table.sets_insert _ _ _)
  setAppDeleted h hr := by
    obtain ⟨p, rfl, hrows⟩ := authWrite_text h
    have hold := (textRows_of_ofString p.ofString_val).symm.trans hr
    obtain ⟨row, hrow, rfl⟩ := Option.map_eq_some_iff.mp hold
    rw [Txn.rows, hrows]
    exact AuthTables.rows_apps_set (Table.sets_update hrow _)
  insertEntity h hnone := by
    obtain ⟨p, rfl, hrows⟩ := authWrite_text h
    have hold := (textRows_of_ofString p.ofString_val).symm.trans hnone
    rw [Txn.rows, hrows]
    exact AuthTables.rows_entities_set (Table.sets_insertNew (Option.map_eq_none_iff.mp hold) _)
  setEntityDeleted h hr := by
    obtain ⟨p, rfl, hrows⟩ := authWrite_text h
    have hold := (textRows_of_ofString p.ofString_val).symm.trans hr
    obtain ⟨row, hrow, rfl⟩ := Option.map_eq_some_iff.mp hold
    rw [Txn.rows, hrows]
    exact AuthTables.rows_entities_set (Table.sets_update hrow _)
  insertCid h := by
    obtain ⟨S, hw, rfl⟩ := authWrite_eq_ok h
    obtain ⟨c', hc, hw⟩ := except_bind_eq_ok.mp hw
    obtain ⟨l', -, hw⟩ := except_bind_eq_ok.mp hw
    cases hw
    rw [← PgText.val_of_ofString hc]
    exact AuthTables.rows_cids_insertNew c' _ l'
  writable {g id r t} h approved revoked := by
    obtain ⟨hlive, hget, -⟩ := authQuery_eq_ok (eq_mk_of_fst h)
    obtain ⟨p, hp, -⟩ := except_bind_eq_ok.mp hget
    obtain ⟨S, hwrite⟩ : ∃ S, t.view.auth.upsertGrant g id approved revoked = .ok S := by
      rw [AuthTables.upsertGrant, hp]
      exact ⟨_, rfl⟩
    refine ⟨⟨{ t.view with auth := S }, false⟩, ?_⟩
    change authWrite _ t = _
    rw [authWrite, mapError, Txn.exec_of_ok (a := ()) hlive (by rw [hwrite]; rfl)]
    rfl

/-! ### The overlay -/

def Overlay.rows (o : Overlay) : AuthRows where
  users := o.getUser
  grants k := (o.grants.lookup k).or (o.base.rows.grants k)
  apps a := (o.apps.lookup a).or (o.base.rows.apps a)
  entities k := (o.entities.lookup k).or (o.base.rows.entities k)
  cids k := (o.cids.lookup k).or (o.base.rows.cids k)

/-- Rows over others, with one of them set. -/
theorem or_of_sets {κ ρ : Type} [DecidableEq κ] {t t' : Table κ ρ} {k : κ} {row : ρ}
    (h : t.Sets t' k row) (below : κ → Option ρ) :
    (fun j => (t'.lookup j).or (below j)) =
      Function.update (fun j => (t.lookup j).or (below j)) k (some row) := by
  funext j
  rw [h j, Function.update_apply]
  split <;> rfl

theorem overlayWrite_eq_ok {w : Overlay → Except PgError Overlay} {o o' : Overlay}
    (h : overlayWrite w o = (.ok (), o')) : w o = .ok o' := by
  unfold overlayWrite at h
  split at h
  · rename_i written hw
    cases h
    exact hw
  · cases h

theorem overlayRead_eq_ok {α : Type} {q : Overlay → Except PgError α} {o o' : Overlay} {a : α}
    (h : overlayRead q o = (.ok a, o')) : q o = .ok a :=
  except_mapError_eq_ok.mp (congrArg Prod.fst h)

namespace Overlay

variable {o : Overlay}

theorem changeUser_rows {id : Int} {u : AuthUserRow} (h : o.getUser id = some u)
    (f : AuthUserRow → AuthUserRow) : (o.changeUser id f).rows = o.rows.setUser id (f u) := by
  rw [changeUser, h]
  exact AuthRows.ext (or_of_sets (Table.sets_insert _ _ _) _) rfl rfl rfl rfl

theorem getGrant_rows {g : String} {id : Int} {r : Option AuthGrantRow}
    (h : o.getGrant g id = .ok r) : r = o.rows.grants (g, id) := by
  change r = (o.grants.lookup (g, id)).or _
  unfold getGrant at h
  split at h
  · rename_i found hfound
    rw [hfound, ← Except.ok.inj h]
    rfl
  · rename_i hnone
    rw [hnone]
    exact AuthTables.getGrant_rows h

theorem getApp_rows {a : String} {r : Option AuthAppRow} (h : o.getApp a = .ok r) :
    r = o.rows.apps a := by
  change r = (o.apps.lookup a).or _
  unfold getApp at h
  split at h
  · rename_i found hfound
    rw [hfound, ← Except.ok.inj h]
    rfl
  · rename_i hnone
    rw [hnone]
    exact AuthTables.getApp_rows h

theorem getEntity_rows {e : String} {id : Int} {r : Option AuthEntityRow}
    (h : o.getEntity e id = .ok r) : r = o.rows.entities (e, id) := by
  change r = (o.entities.lookup (e, id)).or _
  unfold getEntity at h
  split at h
  · rename_i found hfound
    rw [hfound, ← Except.ok.inj h]
    rfl
  · rename_i hnone
    rw [hnone]
    exact AuthTables.getEntity_rows h

end Overlay

theorem rowStore_overlay : RowStore Overlay.rows where
  rejects := storeRejectsNothing_overlay
  getUser h := by
    cases h
    rfl
  getGrant h := Overlay.getGrant_rows (overlayRead_eq_ok h)
  getApp h := Overlay.getApp_rows (overlayRead_eq_ok h)
  getEntity h := Overlay.getEntity_rows (overlayRead_eq_ok h)
  cidIsClaimed {c o o'} h id := by
    have hget := overlayRead_eq_ok h
    unfold Overlay.cidIsClaimed at hget
    split at hget
    · cases hget
    · rename_i hnone
      change (o.cids.lookup (c, id)).or (o.base.rows.cids (c, id)) = none
      rw [AuthTables.cidIsClaimed_rows hget id, Option.or_none]
      by_contra hsome
      obtain ⟨row, hrow⟩ := Option.ne_none_iff_exists'.mp hsome
      exact hnone ((Table.any_iff _ _).mpr ⟨(c, id), row, hrow, by simp⟩)
  insertUser {id w l d o o'} h hnone := by
    cases overlayWrite_eq_ok h
    obtain ⟨hrow, -⟩ := Option.or_eq_none_iff.mp hnone
    exact AuthRows.ext (or_of_sets (Table.sets_insertNew hrow _) _) rfl rfl rfl rfl
  setUserHandle h hu := by
    cases overlayWrite_eq_ok h
    exact Overlay.changeUser_rows hu _
  setUserDeactivated h hu := by
    cases overlayWrite_eq_ok h
    exact Overlay.changeUser_rows hu _
  upsertGrant h := by
    cases overlayWrite_eq_ok h
    exact AuthRows.ext rfl (or_of_sets (Table.sets_insert _ _ _) _) rfl rfl rfl
  upsertApp h := by
    cases overlayWrite_eq_ok h
    exact AuthRows.ext rfl rfl (or_of_sets (Table.sets_insert _ _ _) _) rfl rfl
  setAppDeleted {a r o o'} h hr := by
    obtain ⟨found, hfound, hw⟩ := except_bind_eq_ok.mp (overlayWrite_eq_ok h)
    obtain rfl : found = some r := (Overlay.getApp_rows hfound).trans hr
    cases hw
    exact AuthRows.ext rfl rfl (or_of_sets (Table.sets_insert _ _ _) _) rfl rfl
  insertEntity h hnone := by
    cases overlayWrite_eq_ok h
    obtain ⟨hrow, -⟩ := Option.or_eq_none_iff.mp hnone
    exact AuthRows.ext rfl rfl rfl (or_of_sets (Table.sets_insertNew hrow _) _) rfl
  setEntityDeleted {e id r o o'} h hr := by
    obtain ⟨found, hfound, hw⟩ := except_bind_eq_ok.mp (overlayWrite_eq_ok h)
    obtain rfl : found = some r := (Overlay.getEntity_rows hfound).trans hr
    cases hw
    exact AuthRows.ext rfl rfl rfl (or_of_sets (Table.sets_insert _ _ _) _) rfl
  insertCid h := by
    cases overlayWrite_eq_ok h
    exact AuthRows.ext rfl rfl rfl rfl (or_of_sets (Table.sets_insert _ _ _) _)
  writable _ _ _ := ⟨_, rfl⟩

end OpenAudio.Core
