import Mathlib
import OpenAudio.Lib.Framing
import OpenAudio.Lib.Table

/-!
# Comparing the projected auth state with its source

Each table is read twice, from the source snapshot and from the chain, both times as texts in the
bytewise order of a key. The two are merged in one pass that counts the rows only one side has and,
for each column, the rows on which the sides differ.
-/

namespace OpenAudio.Genesis

variable {n : Nat}

local instance (priority := high) byteListLT : LT (List UInt8) := List.instLT

/-- What `next` reads: the key and the `n` columns of the check. -/
@[ext] structure AuthRow (n : Nat) where
  key : String
  values : Fin n → String

/-- Go's order on the keys, which is the one of the `C` collation. -/
def AuthRow.before (a b : AuthRow n) : Prop := textBytes a.key < textBytes b.key

instance (a b : AuthRow n) : Decidable (a.before b) :=
  inferInstanceAs (Decidable (textBytes a.key < textBytes b.key))

/-- An open query: the row at hand, what is still to be read, and how many rows were. -/
structure RowCursor (n : Nat) where
  row : Option (AuthRow n) := none
  rest : List (AuthRow n)
  read : Nat := 0

def RowCursor.next (c : RowCursor n) : RowCursor n :=
  match c.rest with
  | [] => { c with row := none }
  | row :: rest => ⟨some row, rest, c.read + 1⟩

def RowCursor.pending (c : RowCursor n) : List (AuthRow n) := c.row.toList ++ c.rest

def authParitySamples : Nat := 10

structure AuthParityResult (n : Nat) where
  srcRows : Nat := 0
  dstRows : Nat := 0
  missing : Nat := 0
  extra : Nat := 0
  missingEx : List String := []
  extraEx : List String := []
  mismatches : Fin n → Table String Nat := fun _ => ∅
  mismatchEx : Fin n → List String := fun _ => []

def sample (keys : List String) (key : String) : List String :=
  if keys.length < authParitySamples then keys ++ [key] else keys

/-- `m[k]++` on a Go map. -/
def bump (m : Table String Nat) (k : String) : Table String Nat :=
  m.insert k ((m.lookup k).getD 0 + 1)

namespace AuthParityResult

def addMissing (r : AuthParityResult n) (key : String) : AuthParityResult n :=
  { r with missing := r.missing + 1, missingEx := sample r.missingEx key }

def addExtra (r : AuthParityResult n) (key : String) : AuthParityResult n :=
  { r with extra := r.extra + 1, extraEx := sample r.extraEx key }

def addMismatches (r : AuthParityResult n) (s d : AuthRow n) : AuthParityResult n :=
  { r with
    mismatches := fun i =>
      if s.values i ≠ d.values i then bump (r.mismatches i) (s.values i ++ " -> " ++ d.values i)
      else r.mismatches i
    mismatchEx := fun i =>
      if s.values i ≠ d.values i then sample (r.mismatchEx i) s.key else r.mismatchEx i }

def clean (r : AuthParityResult n) : Bool :=
  if r.missing ≠ 0 ∨ r.extra ≠ 0 then false
  else decide (∀ i, (r.mismatches i).keys = [])

end AuthParityResult

theorem RowCursor.pending_next (c : RowCursor n) : c.next.pending = c.rest := by
  obtain ⟨row, rest, read⟩ := c
  cases rest <;> rfl

theorem RowCursor.pending_of_row {c : RowCursor n} {row : AuthRow n} (h : c.row = some row) :
    c.pending = row :: c.next.pending := by
  rw [c.pending_next, RowCursor.pending, h]
  rfl

theorem RowCursor.length_next_lt {c : RowCursor n} {row : AuthRow n} (h : c.row = some row) :
    c.next.pending.length < c.pending.length := by
  rw [RowCursor.pending_of_row h]
  exact Nat.lt_succ_self _

/-- The loop of `runAuthParityCheck`. -/
def mergeRows (s d : RowCursor n) (r : AuthParityResult n) : AuthParityResult n :=
  match _ : s.row, _ : d.row with
  | none, none => { r with srcRows := s.read, dstRows := d.read }
  | some a, none => mergeRows s.next d (r.addMissing a.key)
  | none, some b => mergeRows s d.next (r.addExtra b.key)
  | some a, some b =>
    if a.before b then mergeRows s.next d (r.addMissing a.key)
    else if b.before a then mergeRows s d.next (r.addExtra b.key)
    else mergeRows s.next d.next (r.addMismatches a b)
termination_by s.pending.length + d.pending.length
decreasing_by
  · exact Nat.add_lt_add_right (RowCursor.length_next_lt ‹s.row = some a›) _
  · exact Nat.add_lt_add_left (RowCursor.length_next_lt ‹d.row = some b›) _
  · exact Nat.add_lt_add_right (RowCursor.length_next_lt ‹s.row = some a›) _
  · exact Nat.add_lt_add_left (RowCursor.length_next_lt ‹d.row = some b›) _
  · exact Nat.add_lt_add (RowCursor.length_next_lt ‹s.row = some a›)
      (RowCursor.length_next_lt ‹d.row = some b›)

/-- `runAuthParityCheck` over the rows the two queries return. -/
def runAuthParityCheck (src dst : List (AuthRow n)) : AuthParityResult n :=
  mergeRows (RowCursor.next { rest := src }) (RowCursor.next { rest := dst }) {}

/-! ### The counts -/

def total (m : Table String Nat) : Nat := (m.entries.map fun e => e.2).sum

theorem sum_kerase (k : String) (es : List (Sigma fun _ : String => Nat)) :
    (es.map fun e => e.2).sum =
      (es.dlookup k).getD 0 + ((es.kerase k).map fun e => e.2).sum := by
  induction es with
  | nil => rfl
  | cons e es ih =>
    obtain ⟨j, v⟩ := e
    by_cases h : k = j
    · subst h
      rw [List.dlookup_cons_eq, show List.kerase k (⟨k, v⟩ :: es) = es from List.kerase_cons_eq rfl]
      rfl
    · rw [List.dlookup_cons_ne _ _ h, List.kerase_cons_ne h, List.map_cons, List.sum_cons, ih,
        List.map_cons, List.sum_cons]
      omega

theorem total_bump (m : Table String Nat) (k : String) : total (bump m k) = total m + 1 := by
  unfold total bump
  rw [AList.entries_insert, List.map_cons, List.sum_cons, sum_kerase k m.entries]
  change (m.lookup k).getD 0 + 1 + _ = (m.lookup k).getD 0 + _ + 1
  omega

/-- The rows of a table that the other one has no row for. -/
def onlyIn (rows others : List (AuthRow n)) : List (AuthRow n) :=
  rows.filter fun a => ∀ b ∈ others, b.key ≠ a.key

/-- The rows of a table for which the other one has a row that differs in the column. -/
def differIn (i : Fin n) (rows others : List (AuthRow n)) : List (AuthRow n) :=
  rows.filter fun a => ∃ b ∈ others, b.key = a.key ∧ b.values i ≠ a.values i

/-- The rows come in the order of their keys, each key once. -/
def SortedByKey (rows : List (AuthRow n)) : Prop := rows.Pairwise AuthRow.before

theorem AuthRow.key_ne_of_before {a b : AuthRow n} (h : a.before b) : b.key ≠ a.key := by
  intro heq
  rw [AuthRow.before, heq] at h
  exact List.lt_irrefl _ h

theorem AuthRow.key_eq {a b : AuthRow n} (hab : ¬ a.before b) (hba : ¬ b.before a) :
    a.key = b.key :=
  textBytes_injective (List.le_antisymm hba hab)

theorem SortedByKey.key_ne_of_before {a b : AuthRow n} {rows : List (AuthRow n)}
    (h : SortedByKey (b :: rows)) (hab : a.before b) : ∀ x ∈ b :: rows, x.key ≠ a.key := by
  intro x hx
  rcases List.mem_cons.mp hx with rfl | hx
  · exact AuthRow.key_ne_of_before hab
  · exact AuthRow.key_ne_of_before (List.lt_trans hab (List.rel_of_pairwise_cons h hx))

theorem SortedByKey.key_ne {a : AuthRow n} {rows : List (AuthRow n)}
    (h : SortedByKey (a :: rows)) : ∀ x ∈ rows, x.key ≠ a.key :=
  fun _ hx => AuthRow.key_ne_of_before (List.rel_of_pairwise_cons h hx)

section Rows

variable {a b : AuthRow n} {src dst : List (AuthRow n)} {i : Fin n}

theorem onlyIn_cons_of_ne (h : ∀ x ∈ dst, x.key ≠ a.key) :
    onlyIn (a :: src) dst = a :: onlyIn src dst :=
  List.filter_cons_of_pos (decide_eq_true h)

theorem onlyIn_cons_of_mem (hmem : b ∈ dst) (h : b.key = a.key) :
    onlyIn (a :: src) dst = onlyIn src dst :=
  List.filter_cons_of_neg (by simpa using ⟨b, hmem, h⟩)

theorem onlyIn_others_cons (h : ∀ x ∈ dst, x.key ≠ a.key) :
    onlyIn dst (a :: src) = onlyIn dst src := by
  refine List.filter_congr fun x hx => ?_
  rw [decide_eq_decide, List.forall_mem_cons]
  exact and_iff_right (Ne.symm (h x hx))

theorem differIn_cons_of_ne (h : ∀ x ∈ dst, x.key ≠ a.key) :
    differIn i (a :: src) dst = differIn i src dst :=
  List.filter_cons_of_neg (by simpa using fun x hx hkey => absurd hkey (h x hx))

theorem differIn_others_cons (h : ∀ x ∈ src, x.key ≠ b.key) :
    differIn i src (b :: dst) = differIn i src dst := by
  refine List.filter_congr fun x hx => ?_
  rw [decide_eq_decide]
  simp only [List.mem_cons, or_and_right, exists_or, exists_eq_left]
  exact or_iff_right fun hb => h x hx hb.1.symm

theorem length_differIn_cons (hkey : a.key = b.key) (hdst : ∀ x ∈ dst, x.key ≠ b.key)
    (hsrc : ∀ x ∈ src, x.key ≠ a.key) : (differIn i (a :: src) (b :: dst)).length =
      (if a.values i ≠ b.values i then 1 else 0) + (differIn i src dst).length := by
  have hrest : differIn i src (b :: dst) = differIn i src dst :=
    differIn_others_cons (hkey ▸ hsrc)
  have hhead : (∃ x ∈ b :: dst, x.key = a.key ∧ x.values i ≠ a.values i) ↔
      a.values i ≠ b.values i := by
    simp only [List.mem_cons, or_and_right, exists_or, exists_eq_left]
    constructor
    · rintro (⟨-, hne⟩ | ⟨x, hx, hxkey, -⟩)
      · exact hne.symm
      · exact absurd (hxkey.trans hkey) (hdst x hx)
    · exact fun hne => .inl ⟨hkey.symm, hne.symm⟩
  by_cases hne : a.values i ≠ b.values i
  · rw [if_pos hne, ← hrest, Nat.add_comm]
    rw [differIn, List.filter_cons_of_pos (by simpa only [decide_eq_true_eq] using hhead.mpr hne)]
    rfl
  · rw [if_neg hne, ← hrest, Nat.zero_add]
    rw [differIn, List.filter_cons_of_neg
      (by simpa only [decide_eq_true_eq] using mt hhead.mp hne)]
    rfl

end Rows

/-! ### The loop -/

/-- What the loop adds to the counts. -/
structure Counts (src dst : List (AuthRow n)) (r r' : AuthParityResult n) : Prop where
  missing : r'.missing = r.missing + (onlyIn src dst).length
  extra : r'.extra = r.extra + (onlyIn dst src).length
  mismatches : ∀ i, total (r'.mismatches i) = total (r.mismatches i) + (differIn i src dst).length
  empty : (∀ i, (r.mismatches i).keys = [] ↔ total (r.mismatches i) = 0) →
    ∀ i, (r'.mismatches i).keys = [] ↔ total (r'.mismatches i) = 0

section Loop

variable {a b : AuthRow n} {src dst : List (AuthRow n)} {r r' : AuthParityResult n}

theorem Counts.missing_cons (h : ∀ x ∈ dst, x.key ≠ a.key)
    (hrest : Counts src dst (r.addMissing a.key) r') : Counts (a :: src) dst r r' where
  missing := by
    rw [hrest.missing, onlyIn_cons_of_ne h, List.length_cons]
    exact Nat.add_right_comm _ 1 _
  extra := by
    rw [hrest.extra, onlyIn_others_cons h]
    rfl
  mismatches i := by
    rw [hrest.mismatches, differIn_cons_of_ne h]
    rfl
  empty := hrest.empty

theorem Counts.extra_cons (h : ∀ x ∈ src, x.key ≠ b.key)
    (hrest : Counts src dst (r.addExtra b.key) r') : Counts src (b :: dst) r r' where
  missing := by
    rw [hrest.missing, onlyIn_others_cons h]
    rfl
  extra := by
    rw [hrest.extra, onlyIn_cons_of_ne h, List.length_cons]
    exact Nat.add_right_comm _ 1 _
  mismatches i := by
    rw [hrest.mismatches, differIn_others_cons h]
    rfl
  empty := hrest.empty

theorem total_addMismatches (i : Fin n) : total ((r.addMismatches a b).mismatches i) =
    total (r.mismatches i) + if a.values i ≠ b.values i then 1 else 0 := by
  change total (ite _ _ _) = _
  split
  · exact total_bump _ _
  · rfl

theorem keys_bump_ne_nil (m : Table String Nat) (k : String) : (bump m k).keys ≠ [] := by
  simp [bump, AList.keys_insert]

theorem Counts.both_cons (hkey : a.key = b.key) (hsrc : ∀ x ∈ src, x.key ≠ a.key)
    (hdst : ∀ x ∈ dst, x.key ≠ b.key) (hrest : Counts src dst (r.addMismatches a b) r') :
    Counts (a :: src) (b :: dst) r r' where
  missing := by
    rw [hrest.missing, onlyIn_cons_of_mem List.mem_cons_self hkey.symm,
      onlyIn_others_cons (hkey ▸ hsrc)]
    rfl
  extra := by
    rw [hrest.extra, onlyIn_cons_of_mem List.mem_cons_self hkey,
      onlyIn_others_cons (hkey ▸ hdst)]
    rfl
  mismatches i := by
    rw [hrest.mismatches, length_differIn_cons hkey hdst hsrc, total_addMismatches]
    exact Nat.add_assoc _ _ _
  empty h := by
    refine hrest.empty fun i => ?_
    rw [total_addMismatches]
    change (ite _ _ _ : Table String Nat).keys = [] ↔ _
    split
    · exact iff_of_false (keys_bump_ne_nil _ _) (Nat.succ_ne_zero _)
    · exact h i

/-- The cursor has read a row unless there was none. -/
def RowCursor.Open (c : RowCursor n) : Prop := c.row = none → c.pending = []

theorem RowCursor.open_next (c : RowCursor n) : c.next.Open := by
  obtain ⟨row, rest, read⟩ := c
  cases rest with
  | nil => exact fun _ => rfl
  | cons _ _ => exact fun h => (by cases h)

theorem counts_mergeRows {s d : RowCursor n} (hs : SortedByKey s.pending)
    (hd : SortedByKey d.pending) (hsOpen : s.Open) (hdOpen : d.Open) (r : AuthParityResult n) :
    Counts s.pending d.pending r (mergeRows s d r) := by
  fun_induction mergeRows s d r with
  | case1 s d r hrow hrow' =>
    rw [hsOpen hrow, hdOpen hrow']
    exact ⟨rfl, rfl, fun _ => rfl, id⟩
  | case2 s d r a hrow hrow' ih =>
    rw [RowCursor.pending_of_row hrow] at hs ⊢
    refine Counts.missing_cons ?_ (ih (List.Pairwise.of_cons hs) hd s.open_next hdOpen)
    rw [hdOpen hrow']
    exact fun x hx => (by cases hx)
  | case3 s d r b hrow hrow' ih =>
    rw [RowCursor.pending_of_row hrow'] at hd ⊢
    refine Counts.extra_cons ?_ (ih hs (List.Pairwise.of_cons hd) hsOpen d.open_next)
    rw [hsOpen hrow]
    exact fun x hx => (by cases hx)
  | case4 s d r a b hrow hrow' hlt ih =>
    rw [RowCursor.pending_of_row hrow] at hs ⊢
    refine Counts.missing_cons ?_ (ih (List.Pairwise.of_cons hs) hd s.open_next hdOpen)
    rw [RowCursor.pending_of_row hrow'] at hd ⊢
    exact hd.key_ne_of_before hlt
  | case5 s d r a b hrow hrow' _ hlt ih =>
    rw [RowCursor.pending_of_row hrow'] at hd ⊢
    refine Counts.extra_cons ?_ (ih hs (List.Pairwise.of_cons hd) hsOpen d.open_next)
    rw [RowCursor.pending_of_row hrow] at hs ⊢
    exact hs.key_ne_of_before hlt
  | case6 s d r a b hrow hrow' hab hba ih =>
    rw [RowCursor.pending_of_row hrow] at hs ⊢
    rw [RowCursor.pending_of_row hrow'] at hd ⊢
    exact Counts.both_cons (AuthRow.key_eq hab hba) hs.key_ne hd.key_ne
      (ih (List.Pairwise.of_cons hs) (List.Pairwise.of_cons hd) s.open_next d.open_next)

/-- How many rows the cursor has read when it is drained. -/
def RowCursor.rows (c : RowCursor n) : Nat := c.read + c.rest.length

theorem RowCursor.rows_next (c : RowCursor n) : c.next.rows = c.rows := by
  obtain ⟨row, rest, read⟩ := c
  cases rest with
  | nil => rfl
  | cons _ _ => exact Nat.add_right_comm _ 1 _

theorem RowCursor.rows_of_drained {c : RowCursor n} (h : c.pending = []) : c.rows = c.read := by
  rw [RowCursor.rows, (List.append_eq_nil_iff.mp h).2]
  rfl

theorem rows_mergeRows {s d : RowCursor n} (hs : s.Open) (hd : d.Open) (r : AuthParityResult n) :
    (mergeRows s d r).srcRows = s.rows ∧ (mergeRows s d r).dstRows = d.rows := by
  fun_induction mergeRows s d r with
  | case1 s d r hrow hrow' =>
    exact ⟨(RowCursor.rows_of_drained (hs hrow)).symm, (RowCursor.rows_of_drained (hd hrow')).symm⟩
  | case2 s d r a hrow hrow' ih =>
    rw [← s.rows_next]
    exact ih s.open_next hd
  | case3 s d r b hrow hrow' ih =>
    rw [← d.rows_next]
    exact ih hs d.open_next
  | case4 s d r a b hrow hrow' hlt ih =>
    rw [← s.rows_next]
    exact ih s.open_next hd
  | case5 s d r a b hrow hrow' _ hlt ih =>
    rw [← d.rows_next]
    exact ih hs d.open_next
  | case6 s d r a b hrow hrow' hab hba ih =>
    rw [← s.rows_next, ← d.rows_next]
    exact ih s.open_next d.open_next

theorem counts_runAuthParityCheck (hsrc : SortedByKey src) (hdst : SortedByKey dst) :
    Counts src dst {} (runAuthParityCheck src dst) := by
  have h := counts_mergeRows (s := RowCursor.next { rest := src })
    (d := RowCursor.next { rest := dst }) (by rwa [RowCursor.pending_next])
    (by rwa [RowCursor.pending_next]) (RowCursor.open_next _) (RowCursor.open_next _) {}
  rwa [RowCursor.pending_next, RowCursor.pending_next] at h

theorem clean_iff {r : AuthParityResult n} (hempty : ∀ i, (r.mismatches i).keys = [] ↔
    total (r.mismatches i) = 0) : r.clean = true ↔
      r.missing = 0 ∧ r.extra = 0 ∧ ∀ i, total (r.mismatches i) = 0 := by
  unfold AuthParityResult.clean
  split
  · rename_i hne
    refine iff_of_false Bool.false_ne_true fun h => ?_
    exact hne.elim (· h.1) (· h.2.1)
  · rename_i hne
    rw [decide_eq_true_eq, forall_congr' hempty]
    rw [not_or, not_not, not_not] at hne
    exact ⟨fun h => ⟨hne.1, hne.2, h⟩, fun h => h.2.2⟩

theorem onlyIn_eq_nil_iff : (onlyIn src dst).length = 0 ↔ ∀ a ∈ src, ∃ b ∈ dst, b.key = a.key := by
  rw [List.length_eq_zero_iff, onlyIn, List.filter_eq_nil_iff]
  simp

theorem differIn_eq_nil_iff {i : Fin n} : (differIn i src dst).length = 0 ↔
    ∀ a ∈ src, ∀ b ∈ dst, b.key = a.key → b.values i = a.values i := by
  rw [List.length_eq_zero_iff, differIn, List.filter_eq_nil_iff]
  simp

/-- In the order of unique keys, a key determines the row. -/
theorem SortedByKey.eq_of_key (h : SortedByKey src) (ha : a ∈ src) (hb : b ∈ src)
    (hkey : b.key = a.key) : b = a := by
  induction src with
  | nil => cases ha
  | cons x rest ih =>
    rcases List.mem_cons.mp ha with rfl | ha'
    · rcases List.mem_cons.mp hb with rfl | hb'
      · rfl
      · exact absurd hkey (h.key_ne b hb')
    · rcases List.mem_cons.mp hb with rfl | hb'
      · exact absurd hkey.symm (h.key_ne a ha')
      · exact ih (List.Pairwise.of_cons h) ha' hb'

theorem same_rows_iff (hdst : SortedByKey dst) : (∀ row, row ∈ src ↔ row ∈ dst) ↔
    (onlyIn src dst).length = 0 ∧ (onlyIn dst src).length = 0 ∧
      ∀ i, (differIn i src dst).length = 0 := by
  simp only [onlyIn_eq_nil_iff, differIn_eq_nil_iff]
  constructor
  · intro h
    refine ⟨fun a ha => ⟨a, (h a).mp ha, rfl⟩, fun b hb => ⟨b, (h b).mpr hb, rfl⟩,
      fun i a ha b hb hkey => ?_⟩
    rw [hdst.eq_of_key ((h a).mp ha) hb hkey]
  · rintro ⟨hsrc, hdst', hvalues⟩ row
    constructor
    · intro hmem
      obtain ⟨b, hb, hkey⟩ := hsrc row hmem
      exact AuthRow.ext hkey (funext fun i => hvalues i row hmem b hb hkey) ▸ hb
    · intro hmem
      obtain ⟨a, ha, hkey⟩ := hdst' row hmem
      exact AuthRow.ext hkey (funext fun i => (hvalues i a ha row hmem hkey.symm).symm) ▸ ha

/-- The check reads both tables to their ends and counts what they differ in; it is clean exactly
when the tables are equal. -/
theorem runAuthParityCheck_counts {src dst : List (AuthRow n)} (hsrc : SortedByKey src)
    (hdst : SortedByKey dst) :
    let r := runAuthParityCheck src dst
    (r.srcRows = src.length ∧ r.dstRows = dst.length) ∧
    r.missing = (onlyIn src dst).length ∧
    r.extra = (onlyIn dst src).length ∧
    (∀ i, total (r.mismatches i) = (differIn i src dst).length) ∧
    (r.clean = true ↔ ∀ row, row ∈ src ↔ row ∈ dst) := by
  have h := counts_runAuthParityCheck hsrc hdst
  have hrows := rows_mergeRows (RowCursor.open_next { rest := src })
    (RowCursor.open_next { rest := dst }) {}
  rw [RowCursor.rows_next, RowCursor.rows_next, RowCursor.rows, RowCursor.rows, Nat.zero_add,
    Nat.zero_add] at hrows
  have hmissing := h.missing.trans (Nat.zero_add _)
  have hextra := h.extra.trans (Nat.zero_add _)
  have hmismatches (i : Fin n) := (h.mismatches i).trans (Nat.zero_add _)
  refine ⟨hrows, hmissing, hextra, hmismatches, ?_⟩
  rw [clean_iff (h.empty fun i => iff_of_true rfl rfl), same_rows_iff hdst, hmissing, hextra]
  simp only [hmismatches]

/-- One user is only in the source, one only on the chain, and one has another wallet there. -/
theorem runAuthParityCheck_counts_users :
    let src : List (AuthRow 1) := [⟨"1", fun _ => "0xa"⟩, ⟨"2", fun _ => "0xb"⟩]
    let dst : List (AuthRow 1) := [⟨"2", fun _ => "0xc"⟩, ⟨"3", fun _ => "0xd"⟩]
    SortedByKey src ∧ SortedByKey dst ∧
      (runAuthParityCheck src dst).missing = 1 ∧ (runAuthParityCheck src dst).extra = 1 ∧
      total ((runAuthParityCheck src dst).mismatches 0) = 1 ∧
      (runAuthParityCheck src dst).clean = false := by
  intro src dst
  have hsrc : SortedByKey src := by
    unfold SortedByKey AuthRow.before
    simp only [textBytes_eq, src]
    decide
  have hdst : SortedByKey dst := by
    unfold SortedByKey AuthRow.before
    simp only [textBytes_eq, dst]
    decide
  obtain ⟨-, hmissing, hextra, hmismatches, hclean⟩ := runAuthParityCheck_counts hsrc hdst
  refine ⟨hsrc, hdst, hmissing.trans (by decide), hextra.trans (by decide),
    (hmismatches 0).trans (by decide), ?_⟩
  rw [← Bool.not_eq_true, hclean]
  intro hsame
  have hmem := (hsame ⟨"1", fun _ => "0xa"⟩).mp List.mem_cons_self
  simp [dst] at hmem

end Loop

end OpenAudio.Genesis
