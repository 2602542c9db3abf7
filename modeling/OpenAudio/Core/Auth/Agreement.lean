import OpenAudio.Core.Auth.Projection

/-!
# The durable store on texts it can hold

The statements of the auth tables fail on a text with a zero byte and on nothing else. On all other
texts each read answers from the tables and each write makes its change.
-/

namespace OpenAudio.Core

open Prog

/-! ### What the tables answer -/

namespace AuthTables

variable (t : AuthTables)

theorem getGrant_of_nulFree {g : String} (h : NulFree g) (id : Int) :
    t.getGrant g id = .ok ((t.grants.lookup (⟨g, h⟩, id)).map (·.row)) := by
  rw [getGrant, PgText.ofString_of_nulFree h]
  rfl

theorem getApp_of_nulFree {a : String} (h : NulFree a) :
    t.getApp a = .ok ((t.apps.lookup ⟨a, h⟩).map (·.row)) := by
  rw [getApp, PgText.ofString_of_nulFree h]
  rfl

theorem isCidClaimedByUser_of_nulFree {c : String} (h : NulFree c) (id : Int) :
    t.isCidClaimedByUser c id = .ok (t.cids.lookup (⟨c, h⟩, id)).isSome := by
  rw [isCidClaimedByUser, PgText.ofString_of_nulFree h]
  rfl

private theorem wallet_beq (u : AuthUserRecord) {w : String} (h : NulFree w) :
    (u.wallet == (⟨w, h⟩ : PgText)) = (u.row.wallet == w) := by
  rw [Bool.eq_iff_iff, beq_iff_eq, beq_iff_eq, PgText.ext_iff]
  rfl

theorem activeWalletExists_of_nulFree {w : String} (h : NulFree w) :
    t.activeWalletExists w =
      .ok (t.users.any fun _ u => u.row.wallet == w && !u.row.deactivated) := by
  rw [activeWalletExists, PgText.ofString_of_nulFree h]
  change Except.ok (t.users.any fun _ u => u.wallet == ⟨w, h⟩ && !u.row.deactivated) = _
  simp only [wallet_beq]

/-! ### Writes of text Postgres accepts -/

theorem upsertGrant_of_nulFree {g : String} (hg : NulFree g) (id : Int) (approved : Option Bool)
    (revoked : Bool) :
    t.upsertGrant g id approved revoked =
      .ok { t with grants := t.grants.insert (⟨g, hg⟩, id) ⟨approved, revoked⟩ } := by
  rw [upsertGrant, PgText.ofString_of_nulFree hg]
  rfl

theorem upsertApp_of_nulFree {a : String} (ha : NulFree a) (owner : Int) :
    t.upsertApp a owner = .ok { t with apps := t.apps.insert ⟨a, ha⟩ ⟨owner, false⟩ } := by
  rw [upsertApp, PgText.ofString_of_nulFree ha]
  rfl

theorem setAppDeleted_of_nulFree {a : String} (ha : NulFree a) :
    t.setAppDeleted a =
      .ok { t with apps := t.apps.update ⟨a, ha⟩ fun r => { r with isDeleted := true } } := by
  rw [setAppDeleted, PgText.ofString_of_nulFree ha]
  rfl

theorem insertCid_of_nulFree {c l : String} (hc : NulFree c) (hl : NulFree l) (id : Int) :
    t.insertCid c id l = .ok { t with cids := t.cids.insertNew (⟨c, hc⟩, id) ⟨l, hl⟩ } := by
  rw [insertCid, PgText.ofString_of_nulFree hc, PgText.ofString_of_nulFree hl]
  rfl

end AuthTables

/-! ### The relation -/

def AuthTables.WalletsDistinct (t : AuthTables) : Prop :=
  ∀ i j r r', t.users.lookup i = some r → t.users.lookup j = some r' → r.wallet = r'.wallet → i = j

end OpenAudio.Core
