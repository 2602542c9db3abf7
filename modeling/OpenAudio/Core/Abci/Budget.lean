import OpenAudio.Core.Abci.Propose
import OpenAudio.Lib.Protobuf

/-!
# The size of a proposal

CometBFT refuses a proposal whose transactions, each framed as an entry of a repeated field, are
over the bytes it allows. The cut keeps the transactions in their order as long as they fit, and
passes over those that no proposal could hold.
-/

namespace OpenAudio.Core

theorem sizeVarint_eq_length {n : Nat} (hn : n < 2 ^ 64) :
    sizeVarint n = (Protobuf.appendVarint n).length := by
  unfold sizeVarint Protobuf.appendVarint
  by_cases hzero : n = 0
  · subst hzero
    rfl
  have hlog : n.log2 < 64 := (Nat.log2_lt hzero).mpr hn
  have hlength : (Protobuf.appendVarintUpTo 9 n).length = max 1 ((n.log2 + 1 + 6) / 7) :=
    Protobuf.length_appendVarintUpTo Nat.lt_log2_self (fun _ => Nat.log2_self_le hzero) (by omega)
  rw [hlength]
  simp only [hzero, if_false]
  omega

theorem proposalTxWireCost_eq {tx : Bytes} (hsize : tx.length < 2 ^ 63) :
    proposalTxWireCost tx.length = (Protobuf.bytesField 1 tx).length := by
  have htag : (Protobuf.appendVarint (8 * 1 + 2)).length = 1 := rfl
  rw [Protobuf.bytesField, List.length_append, List.length_append, htag,
    ← sizeVarint_eq_length (by omega), proposalTxWireCost]
  omega

/-- The bytes a list of transactions takes of the budget. -/
def totalCost (txs : List Bytes) : Int := (txs.map fun tx => proposalTxWireCost tx.length).sum

@[simp] theorem totalCost_nil : totalCost [] = 0 := rfl

@[simp] theorem totalCost_cons (tx : Bytes) (txs : List Bytes) :
    totalCost (tx :: txs) = proposalTxWireCost tx.length + totalCost txs := by
  simp [totalCost]

theorem proposalTxWireCost_pos (n : Nat) : 0 < proposalTxWireCost n := by
  unfold proposalTxWireCost
  omega

theorem totalCost_nonneg (txs : List Bytes) : 0 ≤ totalCost txs := by
  induction txs with
  | nil => simp
  | cons tx txs ih =>
    have hpos := proposalTxWireCost_pos tx.length
    rw [totalCost_cons]
    omega

/-- The transactions that fit a proposal on their own. -/
def fitting (maxTxBytes : Int) (txs : List Bytes) : List Bytes :=
  txs.filter fun tx => decide (proposalTxWireCost tx.length ≤ maxTxBytes)

section Cap

variable {maxTxBytes : Int}

theorem capFrom_prefix (remaining : Int) (txs : List Bytes) :
    capFrom maxTxBytes remaining txs <+: fitting maxTxBytes txs := by
  induction txs generalizing remaining with
  | nil => simp [capFrom, fitting]
  | cons tx txs ih =>
    by_cases hlarge : maxTxBytes < proposalTxWireCost tx.length
    · have hdrop : fitting maxTxBytes (tx :: txs) = fitting maxTxBytes txs := by
        simp [fitting, hlarge]
      rw [hdrop]
      simpa [capFrom, hlarge] using ih remaining
    · have hkeep : fitting maxTxBytes (tx :: txs) = tx :: fitting maxTxBytes txs := by
        simp [fitting, not_lt.mp hlarge]
      rw [hkeep]
      by_cases hover : remaining < proposalTxWireCost tx.length
      · simp [capFrom, hlarge, hover]
      · simpa [capFrom, hlarge, hover] using ih (remaining - proposalTxWireCost tx.length)

theorem totalCost_capFrom_le {remaining : Int} (hremaining : 0 ≤ remaining) (txs : List Bytes) :
    totalCost (capFrom maxTxBytes remaining txs) ≤ remaining := by
  induction txs generalizing remaining with
  | nil => simpa [capFrom] using hremaining
  | cons tx txs ih =>
    by_cases hlarge : maxTxBytes < proposalTxWireCost tx.length
    · simpa [capFrom, hlarge] using ih hremaining
    by_cases hover : remaining < proposalTxWireCost tx.length
    · simpa [capFrom, hlarge, hover] using hremaining
    · have hrest := ih (sub_nonneg.mpr (not_lt.mp hover))
      simp only [capFrom, hlarge, hover, if_false, totalCost_cons]
      omega

theorem prefix_capFrom {remaining : Int} {txs kept : List Bytes}
    (hkept : kept <+: fitting maxTxBytes txs) (hcost : totalCost kept ≤ remaining) :
    kept <+: capFrom maxTxBytes remaining txs := by
  induction txs generalizing remaining kept with
  | nil => simpa [capFrom, fitting] using hkept
  | cons tx txs ih =>
    by_cases hlarge : maxTxBytes < proposalTxWireCost tx.length
    · have hdrop : fitting maxTxBytes (tx :: txs) = fitting maxTxBytes txs := by
        simp [fitting, hlarge]
      rw [hdrop] at hkept
      simpa [capFrom, hlarge] using ih hkept hcost
    · have hkeep : fitting maxTxBytes (tx :: txs) = tx :: fitting maxTxBytes txs := by
        simp [fitting, not_lt.mp hlarge]
      rw [hkeep] at hkept
      cases kept with
      | nil => simp
      | cons first rest =>
        obtain ⟨rfl, hrest⟩ := List.cons_prefix_cons.mp hkept
        rw [totalCost_cons] at hcost
        have hnonneg := totalCost_nonneg rest
        have hfits : ¬ remaining < proposalTxWireCost first.length := by omega
        simp only [capFrom, hlarge, hfits, if_false, List.cons_prefix_cons, true_and]
        exact ih hrest (by omega)

/-- The cut keeps the order and the budget, and is the longest beginning that fits it of the
transactions no larger than the budget; the cost it counts is the one of the wire. -/
theorem capProposalTxs_longest (hmax : 0 < maxTxBytes) (txs : List Bytes) :
    (capProposalTxs maxTxBytes txs).Sublist txs ∧
    totalCost (capProposalTxs maxTxBytes txs) ≤ maxTxBytes ∧
    capProposalTxs maxTxBytes txs <+: fitting maxTxBytes txs ∧
    (∀ kept, kept <+: fitting maxTxBytes txs → totalCost kept ≤ maxTxBytes →
      kept <+: capProposalTxs maxTxBytes txs) ∧
    ∀ tx : Bytes, tx.length < 2 ^ 63 →
      proposalTxWireCost tx.length = (Protobuf.bytesField 1 tx).length := by
  have hcap : capProposalTxs maxTxBytes txs = capFrom maxTxBytes maxTxBytes txs := by
    rw [capProposalTxs, if_neg (by omega)]
  have hinitial : capFrom maxTxBytes maxTxBytes txs <+: fitting maxTxBytes txs :=
    capFrom_prefix maxTxBytes txs
  rw [hcap]
  refine ⟨hinitial.sublist.trans List.filter_sublist, totalCost_capFrom_le hmax.le txs, hinitial,
    fun kept hkept hcost => prefix_capFrom hkept hcost, fun tx hsize => proposalTxWireCost_eq hsize⟩

/-- A transaction that no proposal holds between two that fit, and one over what is left. -/
theorem capProposalTxs_between :
    let txs : List Bytes := [[1, 2], List.replicate 40 0, [3, 4, 5], [6]]
    [[1, 2], [3, 4, 5]] <+: capProposalTxs 12 txs ∧ totalCost (capProposalTxs 12 txs) ≤ 12 ∧
      proposalTxWireCost 2 = (Protobuf.bytesField 1 [1, 2]).length := by
  intro txs
  obtain ⟨_, hbudget, _, hlongest, hcost⟩ := capProposalTxs_longest (show (0 : Int) < 12 by decide) txs
  exact ⟨hlongest _ (by decide) (by decide), hbudget, hcost [1, 2] (by decide)⟩

end Cap

end OpenAudio.Core
