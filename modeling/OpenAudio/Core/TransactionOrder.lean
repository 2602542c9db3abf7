import OpenAudio.Core.BlockReaders
import OpenAudio.Lib.StableSort

/-!
# The order in which a block's transactions are served

Unless the order of the block is asked for, its transactions are sorted: those that manage entities
first, of these the ones that create, and otherwise by a hash of their signatures. Plays and the
other kinds are each sorted among themselves but not against each other, so that the comparison is
no order of a block that has both.
-/

namespace OpenAudio.Core

/-! ### The comparison -/

/-- FNV-1a with 32 bits -/
def stringToUint32 (s : String) : UInt32 :=
  (textBytes s).foldl (fun h b => (h ^^^ UInt32.ofNat b.toNat) * 16777619) 2166136261

def isStringGreater (a b : String) : Bool := stringToUint32 a > stringToUint32 b

inductive TransactionType
  | manage
  | play
  | other
  deriving DecidableEq

def getTransactionType (tx : Option SignedTransaction) : TransactionType :=
  match tx.bind (·.transaction) with
  | some (.manageEntity _) => .manage
  | some (.plays _) => .play
  | _ => .other

/-- `isCreateAction` of the action of a transaction that manages an entity -/
def isCreateTx (rt : GoRuntime) (tx : Option SignedTransaction) : Bool :=
  match tx.bind (·.transaction) with
  | some (.manageEntity msg) => rt.equalFold msg.action "Create"
  | _ => false

def getSignature (tx : Option SignedTransaction) : String := tx.elim "" (·.signature)

namespace Transaction

variable (rt : GoRuntime)

/-- The comparison of `sortTransactionResponse` -/
def less (one two : Transaction) : Bool :=
  let oneType := getTransactionType one.transaction
  let twoType := getTransactionType two.transaction
  if oneType ≠ twoType then oneType == .manage
  else
    let oneIsCreate := isCreateTx rt one.transaction
    let twoIsCreate := isCreateTx rt two.transaction
    if oneType = .manage ∧ oneIsCreate ≠ twoIsCreate then oneIsCreate
    else isStringGreater (getSignature one.transaction) (getSignature two.transaction)

def signatureHash (tx : Transaction) : UInt32 := stringToUint32 (getSignature tx.transaction)

def type (tx : Transaction) : TransactionType := getTransactionType tx.transaction

def isCreate (tx : Transaction) : Bool := isCreateTx rt tx.transaction

end Transaction

def sortTransactionResponse (S : SliceStable) (rt : GoRuntime) (txs : List Transaction) :
    List Transaction :=
  S.sort (Transaction.less rt) txs

/-! ### Its rank -/

section Rank

variable {rt : GoRuntime} {one two : Transaction}

/-- Creates, then what else manages entities, then the rest. -/
def Transaction.priority (rt : GoRuntime) (tx : Transaction) : Nat :=
  if tx.isCreate rt then 0 else if tx.type = .manage then 1 else 2

/-- The priority, and within one the greater hash first. -/
def Transaction.rank (rt : GoRuntime) (tx : Transaction) : Nat :=
  tx.priority rt * 2 ^ 32 + (2 ^ 32 - 1 - tx.signatureHash.toNat)

theorem Transaction.type_of_isCreate (h : one.isCreate rt = true) : one.type = .manage := by
  unfold isCreate isCreateTx at h
  unfold type getTransactionType
  split at h
  · rename_i hbody
    rw [hbody]
  · cases h

theorem Transaction.less_of_type_ne (h : one.type ≠ two.type) :
    one.less rt two = (one.type == .manage) := if_pos h

theorem Transaction.less_eq_priority
    (h : one.type = two.type ∨ one.type = .manage ∨ two.type = .manage) : one.less rt two =
      if one.priority rt = two.priority rt then
        decide (two.signatureHash.toNat < one.signatureHash.toNat)
      else decide (one.priority rt < two.priority rt) := by
  have hone : one.isCreate rt = true → one.type = .manage := type_of_isCreate
  have htwo : two.isCreate rt = true → two.type = .manage := type_of_isCreate
  have hless : one.less rt two =
      if one.type ≠ two.type then one.type == .manage
      else if one.type = .manage ∧ one.isCreate rt ≠ two.isCreate rt then one.isCreate rt
      else decide (two.signatureHash.toNat < one.signatureHash.toNat) := rfl
  rw [hless]
  unfold priority
  generalize one.isCreate rt = create at *
  generalize two.isCreate rt = create' at *
  generalize one.type = type at *
  generalize two.type = type' at *
  clear hless
  cases create <;> cases create' <;> cases type <;> cases type' <;> simp_all

theorem Transaction.less_eq_rank
    (h : one.type = two.type ∨ one.type = .manage ∨ two.type = .manage) :
    one.less rt two = decide (one.rank rt < two.rank rt) := by
  have hone := one.signatureHash.toNat_lt
  have htwo := two.signatureHash.toNat_lt
  rw [less_eq_priority h, Bool.eq_iff_iff]
  unfold rank
  split
  · simp only [decide_eq_true_eq]
    omega
  · simp only [decide_eq_true_eq]
    omega

theorem Transaction.priority_le (h : one.rank rt ≤ two.rank rt) :
    one.priority rt ≤ two.priority rt := by
  have hone := one.signatureHash.toNat_lt
  have htwo := two.signatureHash.toNat_lt
  unfold rank at h
  omega

theorem Transaction.signatureHash_eq (h : one.rank rt = two.rank rt) :
    one.signatureHash = two.signatureHash := by
  have hone := one.signatureHash.toNat_lt
  have htwo := two.signatureHash.toNat_lt
  unfold rank at h
  exact UInt32.toNat_inj.mp (by omega)

end Rank

/-! ### The result -/

/-- The block has not both plays and transactions of a kind that is neither. -/
def OneOtherKind (txs : List Transaction) : Prop :=
  ∀ one ∈ txs, ∀ two ∈ txs, one.type = .play → two.type ≠ .other

theorem OneOtherKind.comparable {txs : List Transaction} (h : OneOtherKind txs)
    {one two : Transaction} (hone : one ∈ txs) (htwo : two ∈ txs) :
    one.type = two.type ∨ one.type = .manage ∨ two.type = .manage := by
  have h₁ := h one hone two htwo
  have h₂ := h two htwo one hone
  cases hk : one.type <;> cases hk' : two.type <;> simp_all

/-- The transactions come in one order, whatever order they are given in: those that manage entities
first, and of these the ones that create. -/
structure CanonicalOrder (S : SliceStable) (rt : GoRuntime) (txs : List Transaction) : Prop where
  perm : (sortTransactionResponse S rt txs).Perm txs
  manageFirst : (sortTransactionResponse S rt txs).Pairwise
    fun one two => two.type = .manage → one.type = .manage
  createsFirst : (sortTransactionResponse S rt txs).Pairwise
    fun one two => two.isCreate rt = true → one.isCreate rt = true
  orderFree : ∀ txs' : List Transaction, txs'.Perm txs →
    sortTransactionResponse S rt txs' = sortTransactionResponse S rt txs

section Result

variable (S : SliceStable) (rt : GoRuntime) {txs : List Transaction}

theorem canonical_of_oneOtherKind (hdistinct : (txs.map Transaction.signatureHash).Nodup)
    (hkinds : OneOtherKind txs) : CanonicalOrder S rt txs := by
  have hless : ∀ one ∈ txs, ∀ two ∈ txs,
      Transaction.less rt one two = decide (one.rank rt < two.rank rt) :=
    fun one hone two htwo => Transaction.less_eq_rank (hkinds.comparable hone htwo)
  have hpriority : (sortTransactionResponse S rt txs).Pairwise
      fun one two => one.priority rt ≤ two.priority rt :=
    (S.pairwise_rank hless).imp Transaction.priority_le
  refine ⟨S.perm _ txs, hpriority.imp fun {one two} hle htype => ?_,
    hpriority.imp fun {one two} hle hcreate => ?_, fun txs' hperm => ?_⟩
  · by_contra hne
    have hcreate : one.isCreate rt ≠ true := fun h => hne (Transaction.type_of_isCreate h)
    unfold Transaction.priority at hle
    rw [if_neg hcreate, if_neg hne, if_pos htype] at hle
    split at hle <;> omega
  · by_contra hne
    unfold Transaction.priority at hle
    rw [if_pos hcreate, if_neg hne] at hle
    split at hle <;> omega
  · refine S.sort_eq_of_perm hperm hless fun one hone two htwo hrank => ?_
    exact List.inj_on_of_nodup_map hdistinct hone htwo (Transaction.signatureHash_eq hrank)

/-- The transactions of a kind, in order. -/
def kindSorted (txs : List Transaction) (kind : TransactionType) : List Transaction :=
  S.sort (Transaction.less rt) (txs.filter fun tx => tx.type = kind)

theorem mem_kindSorted {kind : TransactionType} {tx : Transaction} :
    tx ∈ kindSorted S rt txs kind ↔ tx ∈ txs ∧ tx.type = kind := by
  rw [kindSorted, (S.perm _ _).mem_iff, List.mem_filter, decide_eq_true_eq]

theorem inOrder_kindSorted (kind : TransactionType) :
    InOrder (Transaction.less rt) (kindSorted S rt txs kind) := by
  have hless : ∀ one ∈ txs.filter (·.type = kind), ∀ two ∈ txs.filter (·.type = kind),
      Transaction.less rt one two = decide (one.rank rt < two.rank rt) := by
    intro one hone two htwo
    rw [List.mem_filter, decide_eq_true_eq] at hone htwo
    exact Transaction.less_eq_rank (.inl (hone.2.trans htwo.2.symm))
  exact S.inOrder (strictWeakOn_of_rank hless)

/-- Kind after kind, the transactions are in order if none but the first kind manages entities. -/
theorem inOrder_kinds {first second third : TransactionType} (hne : first ≠ second)
    (hne' : first ≠ third) (hne'' : second ≠ third) (hsecond : second ≠ .manage)
    (hthird : third ≠ .manage) :
    InOrder (Transaction.less rt) (kindSorted S rt txs first ++
      (kindSorted S rt txs second ++ kindSorted S rt txs third)) := by
  have hless {one two : Transaction} {kind kind' : TransactionType} (hone : one.type = kind)
      (htwo : two.type = kind') (hkinds : kind ≠ kind') (hmanage : kind' ≠ .manage) :
      Transaction.less rt two one = false := by
    rw [Transaction.less_of_type_ne fun h => hkinds (by rw [← hone, ← h, htwo]), htwo]
    exact beq_eq_false_iff_ne.mpr hmanage
  refine List.pairwise_append.mpr ⟨inOrder_kindSorted S rt first,
    List.pairwise_append.mpr ⟨inOrder_kindSorted S rt second, inOrder_kindSorted S rt third,
      fun one hone two htwo => ?_⟩, fun one hone two htwo => ?_⟩
  · exact hless ((mem_kindSorted S rt).mp hone).2 ((mem_kindSorted S rt).mp htwo).2 hne'' hthird
  · have hone := ((mem_kindSorted S rt).mp hone).2
    rcases List.mem_append.mp htwo with htwo | htwo
    · exact hless hone ((mem_kindSorted S rt).mp htwo).2 hne hsecond
    · exact hless hone ((mem_kindSorted S rt).mp htwo).2 hne' hthird

theorem perm_kinds : (kindSorted S rt txs .manage ++
    (kindSorted S rt txs .play ++ kindSorted S rt txs .other)).Perm txs := by
  have hkind (kind : TransactionType) : (kindSorted S rt txs kind).Perm
      (txs.filter fun tx => tx.type = kind) := S.perm _ _
  refine ((hkind .manage).append ((hkind .play).append (hkind .other))).trans ?_
  clear hkind
  induction txs with
  | nil => exact List.Perm.refl _
  | cons tx txs ih =>
    simp only [List.filter_cons]
    cases tx.type with
    | manage => simpa using ih
    | play => simpa using List.perm_middle.trans (ih.cons tx)
    | other =>
      rw [← List.append_assoc] at ih ⊢
      simpa using List.perm_middle.trans (ih.cons tx)

end Result

/-- The transactions of a block come in one order exactly if it has no play beside a transaction of
another kind that manages no entity. -/
theorem sortTransactionResponse_canonical_iff (S : SliceStable) (rt : GoRuntime)
    {txs : List Transaction} (hdistinct : (txs.map Transaction.signatureHash).Nodup) :
    CanonicalOrder S rt txs ↔ OneOtherKind txs := by
  refine ⟨fun h play hplay other hother hp ho => ?_, canonical_of_oneOtherKind S rt hdistinct⟩
  -- plays before the others and the others before the plays are both left as they are
  have hplays := h.orderFree _ (perm_kinds S rt)
  have hothers := h.orderFree _ ((List.perm_append_comm.append_left _).trans (perm_kinds S rt))
  rw [sortTransactionResponse, S.unmoved (inOrder_kinds S rt (by decide) (by decide) (by decide)
    (by decide) (by decide))] at hplays hothers
  have hsame := List.append_cancel_left (hplays.trans hothers.symm)
  have hp := (mem_kindSorted S rt).mpr ⟨hplay, hp⟩
  have ho := (mem_kindSorted S rt).mpr ⟨hother, ho⟩
  obtain ⟨one, ones, hones⟩ := List.exists_cons_of_ne_nil (List.ne_nil_of_mem hp)
  obtain ⟨two, twos, htwos⟩ := List.exists_cons_of_ne_nil (List.ne_nil_of_mem ho)
  rw [hones, htwos] at hsame
  have hone := ((mem_kindSorted S rt).mp (hones ▸ List.mem_cons_self)).2
  have htwo := ((mem_kindSorted S rt).mp (htwos ▸ List.mem_cons_self)).2
  rw [(List.cons.inj hsame).1, htwo] at hone
  cases hone

section Examples

def signedTx (signature : String) (body : Option TxBody) : Transaction :=
  ⟨"", "", "", 0, 0, some { signature := signature, transaction := body }, none⟩

def playTx (signature : String) : Transaction := signedTx signature (some (.plays {}))

def createTx (signature : String) : Transaction :=
  signedTx signature (some (.manageEntity { action := "Create" }))

def otherTx (signature : String) : Transaction := signedTx signature none

theorem sortTransactionResponse_canonical_play :
    sortTransactionResponse .insertion .amd64 [playTx "a", createTx "b"] =
      sortTransactionResponse .insertion .amd64 [createTx "b", playTx "a"] := by
  have hdistinct : ([createTx "b", playTx "a"].map Transaction.signatureHash).Nodup := by
    simp only [List.map, Transaction.signatureHash, stringToUint32, textBytes_eq]
    decide
  have hkinds : OneOtherKind [createTx "b", playTx "a"] := by
    unfold OneOtherKind
    decide
  exact ((sortTransactionResponse_canonical_iff .insertion .amd64 hdistinct).mpr hkinds).orderFree _
    (List.Perm.swap _ _ _)

/-- Two plays are not compared if another transaction stands between them. -/
theorem order_depends_on_input : ∃ txs txs' : List Transaction,
    txs'.Perm txs ∧ (txs.map Transaction.signatureHash).Nodup ∧
    ∀ (S : SliceStable) (rt : GoRuntime),
      sortTransactionResponse S rt txs' ≠ sortTransactionResponse S rt txs := by
  refine ⟨[playTx "a", otherTx "b", playTx "c"], [playTx "a", playTx "c", otherTx "b"],
    (List.Perm.swap _ _ _).cons _, ?_, fun S rt => ?_⟩
  · simp only [List.map, Transaction.signatureHash, stringToUint32, textBytes_eq]
    decide
  · have hplays (s t : String) :
        Transaction.less rt (playTx s) (playTx t) = isStringGreater s t := rfl
    have hleft (s t : String) : Transaction.less rt (playTx s) (otherTx t) = false := rfl
    have hright (s t : String) : Transaction.less rt (otherTx s) (playTx t) = false := rfl
    have hgreater : isStringGreater "c" "a" = true := by
      simp only [isStringGreater, stringToUint32, textBytes_eq]
      decide
    rw [sortTransactionResponse, sortTransactionResponse, S.short _ (by decide),
      S.short _ (by decide)]
    simp only [insertionSortGo, List.foldl, insertLeft, hplays, hleft, hright, hgreater,
      Bool.false_eq_true, if_true, if_false]
    simp [playTx, signedTx]

end Examples

end OpenAudio.Core
