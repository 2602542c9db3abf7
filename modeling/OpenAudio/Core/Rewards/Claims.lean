import OpenAudio.Lib.Framing
import OpenAudio.Lib.Program
import OpenAudio.Core.Externals

/-!
# The bytes of a reward claim

An authority signs a reward claim as one byte string: the recipient, the scaled amount, the
disbursement id and, when there is one, the authority, joined with underscores. The disbursement id
joins texts of any content with colons, so that two claims may share their bytes.
-/

namespace OpenAudio.Core

structure RewardClaim where
  recipientEthAddress : String
  amount : UInt64
  rewardID : String
  rewardAddress : String
  specifier : String
  claimAuthority : String
  decimals : UInt32
deriving DecidableEq

namespace RewardClaim

def combinedID (claim : RewardClaim) : String :=
  if claim.rewardAddress ≠ "" then
    claim.rewardAddress ++ ":" ++ claim.rewardID ++ ":" ++ claim.specifier
  else claim.rewardID ++ ":" ++ claim.specifier

/-- The decimals the amount is scaled by; a claim without any has eight. -/
def tokenDecimals (claim : RewardClaim) : Nat :=
  if claim.decimals = 0 then 8 else claim.decimals.toNat

def scaledAmount (claim : RewardClaim) : Nat := claim.amount.toNat * 10 ^ claim.tokenDecimals

/-- `hex.DecodeString` of an address that may start with `0x`. -/
def decodeAddress (ext : Externals) (context address : String) : Except String Bytes :=
  let digits := trimPrefix address "0x"
  match decodeHex digits with
  | some bytes => .ok bytes
  | none => .error (context ++ ext.hexError digits)

/-- The authority ends the items when the claim names one. -/
def authorityItems (ext : Externals) (claim : RewardClaim) : Except String (List Bytes) :=
  if claim.claimAuthority ≠ "" then do
    let oracleBytes ← decodeAddress ext "failed to decode oracle address: " claim.claimAuthority
    return [oracleBytes]
  else return []

def compile (ext : Externals) (claim : RewardClaim) : Except String Bytes := do
  refuseIf (18 < claim.tokenDecimals) "amount_decimals too large; max 18"
  refuseIf (2 ^ 64 ≤ claim.scaledAmount) "amount overflows after scaling"
  let userBytes ← decodeAddress ext "failed to decode user wallet: " claim.recipientEthAddress
  let oracle ← claim.authorityItems ext
  let items := [userBytes, littleEndian 8 claim.scaledAmount, textBytes claim.combinedID] ++ oracle
  return (textBytes "_").intercalate items

/-! ### What a claim says -/

def recipient (claim : RewardClaim) : Option Bytes :=
  decodeHex (trimPrefix claim.recipientEthAddress "0x")

/-- The bytes of the authority, when the claim names one. -/
def authority (claim : RewardClaim) : Option Bytes :=
  if claim.claimAuthority = "" then none else decodeHex (trimPrefix claim.claimAuthority "0x")

/-- The recipient is an address of twenty bytes, and so is the authority when there is one. -/
def WellFormed (claim : RewardClaim) : Prop :=
  (∃ user ∈ claim.recipient, user.length = 20) ∧
    (claim.claimAuthority ≠ "" → ∃ oracle ∈ claim.authority, oracle.length = 20)

/-- The claims name different rewards, recipients, authorities or amounts. -/
def Differ (c d : RewardClaim) : Prop :=
  (c.rewardAddress, c.rewardID, c.specifier) ≠ (d.rewardAddress, d.rewardID, d.specifier) ∨
    c.recipient ≠ d.recipient ∨ c.authority ≠ d.authority ∨ c.scaledAmount ≠ d.scaledAmount

/-- The texts of the disbursement id; the authority follows the last of them. -/
def idFields (claim : RewardClaim) : List Bytes :=
  (if claim.rewardAddress = "" then [] else [textBytes claim.rewardAddress]) ++
    [textBytes claim.rewardID,
      textBytes claim.specifier ++ (claim.authority.elim [] fun oracle => 95 :: oracle)]

def colons (s : String) : Nat := (textBytes s).count 58

/-- Both claims or neither name a reward address, and an authority; the colons of the reward
addresses and of the reward ids are as many. -/
def FramedAlike (c d : RewardClaim) : Prop :=
  (c.rewardAddress = "" ↔ d.rewardAddress = "") ∧ (c.claimAuthority = "" ↔ d.claimAuthority = "") ∧
    colons c.rewardAddress = colons d.rewardAddress ∧ colons c.rewardID = colons d.rewardID

/-! ### What is compiled -/

theorem idFields_ne_nil (claim : RewardClaim) : claim.idFields ≠ [] := by simp [idFields]

theorem decodeAddress_eq_ok {ext : Externals} {context address : String} {bytes : Bytes} :
    decodeAddress ext context address = .ok bytes ↔
      decodeHex (trimPrefix address "0x") = some bytes := by
  cases h : decodeHex (trimPrefix address "0x") <;> simp [decodeAddress, h]

theorem authorityItems_eq_ok {ext : Externals} {claim : RewardClaim} {items : List Bytes}
    (h : claim.authorityItems ext = .ok items) : items = claim.authority.toList := by
  unfold authorityItems at h
  unfold authority
  split at h
  · rename_i hname
    obtain ⟨oracle, horacle, h⟩ := except_bind_eq_ok.mp h
    cases h
    rw [if_neg hname, decodeAddress_eq_ok.mp horacle]
    rfl
  · rename_i hname
    cases h
    rw [if_pos (not_not.mp hname)]
    rfl

theorem intercalate_idFields (claim : RewardClaim) :
    [58].intercalate claim.idFields =
      textBytes claim.combinedID ++ claim.authority.elim [] fun oracle => 95 :: oracle := by
  have hcolon : textBytes ":" = [58] := by decide
  unfold idFields combinedID
  split <;> rename_i h <;> simp [h, textBytes_append, hcolon, List.intercalate_cons_cons]

theorem compile_eq_ok {ext : Externals} {claim : RewardClaim} {bytes : Bytes}
    (h : claim.compile ext = .ok bytes) :
    claim.scaledAmount < 2 ^ 64 ∧ ∃ user, claim.recipient = some user ∧
      bytes = user ++ 95 :: (littleEndian 8 claim.scaledAmount ++
        95 :: [58].intercalate claim.idFields) := by
  have hunder : textBytes "_" = [95] := by decide
  unfold compile at h
  obtain ⟨_, h⟩ := refuseIf_bind_eq_ok.mp h
  obtain ⟨hamount, h⟩ := refuseIf_bind_eq_ok.mp h
  obtain ⟨user, huser, h⟩ := except_bind_eq_ok.mp h
  obtain ⟨items, hitems, h⟩ := except_bind_eq_ok.mp h
  cases h
  refine ⟨Nat.not_le.mp hamount, user, decodeAddress_eq_ok.mp huser, ?_⟩
  rw [authorityItems_eq_ok hitems, hunder, intercalate_idFields]
  cases claim.authority <;> simp [List.intercalate_cons_cons]

theorem compile_eq_iff {ext : Externals} {c d : RewardClaim} (hc : c.WellFormed)
    (hd : d.WellFormed) {b b' : Bytes} (hb : c.compile ext = .ok b)
    (hb' : d.compile ext = .ok b') :
    b = b' ↔ c.recipient = d.recipient ∧ c.scaledAmount = d.scaledAmount ∧
      pieces 58 c.idFields = pieces 58 d.idFields := by
  obtain ⟨hamount, user, huser, rfl⟩ := compile_eq_ok hb
  obtain ⟨hamount', user', huser', rfl⟩ := compile_eq_ok hb'
  obtain ⟨⟨_, hmem, hlen⟩, _⟩ := hc
  obtain ⟨⟨_, hmem', hlen'⟩, _⟩ := hd
  rw [huser, Option.mem_some_iff] at hmem
  rw [huser', Option.mem_some_iff] at hmem'
  subst hmem hmem'
  rw [← join_eq_join_iff 58 c.idFields_ne_nil d.idFields_ne_nil, huser, huser',
    Option.some.injEq]
  constructor
  · intro h
    obtain ⟨huser, h⟩ := List.append_inj h (hlen.trans hlen'.symm)
    obtain ⟨hscaled, h⟩ := List.append_inj (List.cons.inj h).2 (by simp)
    exact ⟨huser, littleEndian_injective hamount hamount' hscaled, (List.cons.inj h).2⟩
  · rintro ⟨huser, hscaled, hfields⟩
    rw [huser, hscaled, hfields]

theorem authority_eq_of_append_eq {c d : RewardClaim} (hc : c.WellFormed) (hd : d.WellFormed)
    (hnamed : c.claimAuthority = "" ↔ d.claimAuthority = "")
    (h : textBytes c.specifier ++ (c.authority.elim [] fun oracle => 95 :: oracle) =
      textBytes d.specifier ++ (d.authority.elim [] fun oracle => 95 :: oracle)) :
    c.specifier = d.specifier ∧ c.authority = d.authority := by
  by_cases hempty : c.claimAuthority = ""
  · have hnone : c.authority = none := if_pos hempty
    have hnone' : d.authority = none := if_pos (hnamed.mp hempty)
    rw [hnone, hnone'] at h ⊢
    simp only [Option.elim_none, List.append_nil] at h
    exact ⟨textBytes_injective h, rfl⟩
  · obtain ⟨oracle, hmem, hlen⟩ := hc.2 hempty
    obtain ⟨oracle', hmem', hlen'⟩ := hd.2 (mt hnamed.mpr hempty)
    rw [Option.mem_def] at hmem hmem'
    rw [hmem, hmem'] at h ⊢
    obtain ⟨hspecifier, horacle⟩ := List.append_inj' h (by simp [hlen, hlen'])
    exact ⟨textBytes_injective hspecifier, congrArg some (List.cons.inj horacle).2⟩

theorem eq_of_pieces_idFields {c d : RewardClaim} (hc : c.WellFormed) (hd : d.WellFormed)
    (hframed : c.FramedAlike d) (h : pieces 58 c.idFields = pieces 58 d.idFields) :
    (c.rewardAddress, c.rewardID, c.specifier) = (d.rewardAddress, d.rewardID, d.specifier) ∧
      c.authority = d.authority := by
  obtain ⟨haddress, hnamed, hcolonsAddress, hcolonsID⟩ := hframed
  have hfields : c.idFields = d.idFields := by
    apply eq_of_pieces_eq 58 c.idFields_ne_nil d.idFields_ne_nil _ h
    unfold colons at hcolonsAddress hcolonsID
    by_cases hempty : c.rewardAddress = ""
    · simp [idFields, hempty, haddress.mp hempty, hcolonsID]
    · simp [idFields, hempty, mt haddress.mpr hempty, hcolonsID, hcolonsAddress]
  by_cases hempty : c.rewardAddress = ""
  · have hempty' := haddress.mp hempty
    simp only [idFields, hempty, hempty', if_true, List.nil_append, List.cons.injEq, and_true]
      at hfields
    obtain ⟨hspecifier, hauthority⟩ := authority_eq_of_append_eq hc hd hnamed hfields.2
    exact ⟨by rw [hempty, hempty', textBytes_injective hfields.1, hspecifier], hauthority⟩
  · have hempty' := mt haddress.mpr hempty
    simp only [idFields, hempty, hempty', if_false, List.singleton_append, List.cons.injEq,
      and_true] at hfields
    obtain ⟨hspecifier, hauthority⟩ := authority_eq_of_append_eq hc hd hnamed hfields.2.2
    exact ⟨by rw [textBytes_injective hfields.1, textBytes_injective hfields.2.1, hspecifier],
      hauthority⟩

theorem head_pieces_idFields {claim : RewardClaim} (hne : claim.rewardAddress ≠ "")
    (hcolon : 58 ∉ textBytes claim.rewardAddress) :
    (pieces 58 claim.idFields).head? = some (textBytes claim.rewardAddress) := by
  rw [idFields, if_neg hne, List.singleton_append, pieces, List.flatMap_cons,
    List.splitOn_eq_singleton hcolon]
  rfl

/-- Claims that differ compile to different bytes exactly when the recipients, the scaled amounts or
the pieces of the ids differ. So they do when the claims are framed alike, and when they are for
programmatic rewards at different addresses without a colon. -/
theorem compile_ne_iff (ext : Externals) {c d : RewardClaim} (hc : c.WellFormed)
    (hd : d.WellFormed) (hdiffer : c.Differ d) {b b' : Bytes} (hb : c.compile ext = .ok b)
    (hb' : d.compile ext = .ok b') :
    (b ≠ b' ↔ c.recipient ≠ d.recipient ∨ c.scaledAmount ≠ d.scaledAmount ∨
      pieces 58 c.idFields ≠ pieces 58 d.idFields) ∧
    (c.FramedAlike d → b ≠ b') ∧
    (c.rewardAddress ≠ "" → d.rewardAddress ≠ "" → c.rewardAddress ≠ d.rewardAddress →
      58 ∉ textBytes c.rewardAddress → 58 ∉ textBytes d.rewardAddress → b ≠ b') := by
  have heq := compile_eq_iff hc hd hb hb'
  refine ⟨?_, ?_, ?_⟩
  · rw [Ne, heq, not_and_or, not_and_or]
  · intro hframed h
    obtain ⟨hrecipient, hscaled, hpieces⟩ := heq.mp h
    obtain ⟨hreward, hauthority⟩ := eq_of_pieces_idFields hc hd hframed hpieces
    rcases hdiffer with hne | hne | hne | hne
    · exact hne hreward
    · exact hne hrecipient
    · exact hne hauthority
    · exact hne hscaled
  · intro hc' hd' hne hcolon hcolon' h
    obtain ⟨_, _, hpieces⟩ := heq.mp h
    have hhead := head_pieces_idFields hc' hcolon
    rw [hpieces, head_pieces_idFields hd' hcolon', Option.some.injEq] at hhead
    exact hne (textBytes_injective hhead.symm)

/-! ### Claims with the same bytes -/

def programmatic : RewardClaim where
  recipientEthAddress := "0x8fdfc19a0fc7be6a1bf1ec6e8cf7ad2eeb3ff9a4"
  amount := 5
  rewardID := "c"
  rewardAddress := "0x2b5ad5c4795c026514f8317c7a215e218dccd6cf"
  specifier := "37364e80:2"
  claimAuthority := "0x6813eb9362372eef6200f3b1dbc3f819671cba69"
  decimals := 0

def plain : RewardClaim :=
  { programmatic with
    rewardID := "0x2b5ad5c4795c026514f8317c7a215e218dccd6cf", rewardAddress := "",
    specifier := "c:37364e80:2" }

def relabelled : RewardClaim := { programmatic with rewardID := "c:37364e80", specifier := "2" }

/-- A signature for the programmatic reward is one for the other two as well. -/
theorem programmatic_compile :
    programmatic.WellFormed ∧ plain.WellFormed ∧ relabelled.WellFormed ∧
      programmatic.Differ plain ∧ programmatic.Differ relabelled ∧
      ∀ ext : Externals, ∃ b, programmatic.compile ext = .ok b ∧ plain.compile ext = .ok b ∧
        relabelled.compile ext = .ok b := by
  refine ⟨?_, ?_, ?_, Or.inl (by decide), Or.inl (by decide), fun _ => ⟨_, rfl, rfl, rfl⟩⟩
  all_goals exact ⟨⟨_, rfl, rfl⟩, fun _ => ⟨_, rfl, rfl⟩⟩

def elsewhere : RewardClaim :=
  { programmatic with rewardAddress := "0x7e5f4552091a69125d5dfcb7b8c2659029395bdf" }

/-- The address keeps the claims apart. -/
theorem programmatic_ne_elsewhere :
    ∃ b b', programmatic.compile (Externals.Recorded.externals {}) = .ok b ∧
      elsewhere.compile (Externals.Recorded.externals {}) = .ok b' ∧
      programmatic.FramedAlike elsewhere ∧ b ≠ b' := by
  have hwell : programmatic.WellFormed := ⟨⟨_, rfl, rfl⟩, fun _ => ⟨_, rfl, rfl⟩⟩
  have hwell' : elsewhere.WellFormed := ⟨⟨_, rfl, rfl⟩, fun _ => ⟨_, rfl, rfl⟩⟩
  have hdiffer : programmatic.Differ elsewhere := Or.inl (by decide)
  have hframed : programmatic.FramedAlike elsewhere := by
    refine ⟨?_, Iff.rfl, ?_, rfl⟩ <;> decide
  obtain ⟨b, hb⟩ : ∃ b, programmatic.compile (Externals.Recorded.externals {}) = .ok b := ⟨_, rfl⟩
  obtain ⟨b', hb'⟩ : ∃ b, elsewhere.compile (Externals.Recorded.externals {}) = .ok b := ⟨_, rfl⟩
  obtain ⟨_, _, haddresses⟩ := compile_ne_iff _ hwell hwell' hdiffer hb hb'
  exact ⟨b, b', hb, hb', hframed,
    haddresses (by decide) (by decide) (by decide) (by decide) (by decide)⟩

end RewardClaim

end OpenAudio.Core
