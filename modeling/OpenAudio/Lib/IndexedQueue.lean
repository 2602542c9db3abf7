import OpenAudio.Lib.Table

/-!
# A linked list with an index

Elements are pushed at the back of a list and found again through a map from keys to the elements
themselves, so that one can be unlinked from the middle. An element is told from others by when it
was pushed, as a pointer tells it, not by its value.
-/

namespace OpenAudio

/-- An element of a list, with the number of elements pushed before it. -/
structure Element (α : Type) where
  id : Nat
  value : α

structure IndexedQueue (κ α : Type) where
  deque : List (Element α)
  index : Table κ (Element α)
  /-- how many elements were ever pushed -/
  pushed : Nat

/-- The order in which a Go map is ranged over: every entry once. -/
structure Visit (α : Type) where
  order : List α → List α
  perm : ∀ entries, (order entries).Perm entries

theorem Table.entries_perm_erase {κ ρ : Type} [DecidableEq κ] {t : Table κ ρ} {k : κ} {row : ρ}
    (h : t.lookup k = some row) : t.entries.Perm (⟨k, row⟩ :: (AList.erase k t).entries) := by
  have hmem : (⟨k, row⟩ : Sigma fun _ : κ => ρ) ∈ t.entries := (t.mem_entries_iff k row).mpr h
  obtain ⟨row', before, after, _, hentries, hrest⟩ :=
    List.exists_of_kerase (List.mem_keys_of_mem hmem)
  have hrow : row' = row := by
    have hmem' : (⟨k, row'⟩ : Sigma fun _ : κ => ρ) ∈ t.entries := by simp [hentries]
    rw [t.mem_entries_iff, h] at hmem'
    exact (Option.some.inj hmem').symm
  have herase : (AList.erase k t).entries = before ++ after := hrest
  rw [herase, hentries, hrow]
  exact List.perm_middle

namespace IndexedQueue

variable {κ α : Type} [DecidableEq κ]

def empty : IndexedQueue κ α := ⟨[], ∅, 0⟩

/-- `PushBack`, and the element under its key. -/
def push (q : IndexedQueue κ α) (k : κ) (v : α) : IndexedQueue κ α where
  deque := q.deque ++ [⟨q.pushed, v⟩]
  index := q.index.insert k ⟨q.pushed, v⟩
  pushed := q.pushed + 1

/-- `Remove` of an element, and of its key. -/
def unlink (q : IndexedQueue κ α) (k : κ) (e : Element α) : IndexedQueue κ α :=
  { q with deque := q.deque.eraseP fun d => d.id == e.id, index := AList.erase k q.index }

/-- Unlink the elements under the keys, where there is one. -/
def unlinkKeys : List κ → IndexedQueue κ α → IndexedQueue κ α
  | [], q => q
  | k :: ks, q =>
    match q.index.lookup k with
    | some e => unlinkKeys ks (q.unlink k e)
    | none => unlinkKeys ks q

/-- Unlink those of the entries whose values satisfy `p`. -/
def unlinkEntries (p : α → Bool) :
    List (Sigma fun _ : κ => Element α) → IndexedQueue κ α → IndexedQueue κ α
  | [], q => q
  | entry :: entries, q =>
    unlinkEntries p entries (if p entry.2.value then q.unlink entry.1 entry.2 else q)

/-- The list and the index hold the same elements, the list in the order they were pushed. -/
structure Sound (q : IndexedQueue κ α) : Prop where
  matched : (q.index.entries.map (·.2)).Perm q.deque
  ordered : q.deque.Pairwise fun d e => d.id < e.id
  bounded : ∀ e ∈ q.deque, e.id < q.pushed

omit [DecidableEq κ] in
theorem sound_empty : Sound (empty : IndexedQueue κ α) :=
  ⟨List.Perm.nil, List.Pairwise.nil, by simp [empty]⟩

namespace Sound

variable {q : IndexedQueue κ α}

omit [DecidableEq κ] in
theorem length_eq (h : q.Sound) : q.index.entries.length = q.deque.length := by
  simpa using h.matched.length_eq

theorem mem_of_lookup (h : q.Sound) {k : κ} {e : Element α} (hk : q.index.lookup k = some e) :
    e ∈ q.deque :=
  h.matched.subset (List.mem_map.mpr ⟨⟨k, e⟩, (q.index.mem_entries_iff k e).mpr hk, rfl⟩)

theorem push (h : q.Sound) {k : κ} (hk : q.index.lookup k = none) (v : α) : (q.push k v).Sound where
  matched := by
    have hnew : k ∉ q.index := AList.lookup_eq_none.mp hk
    rw [IndexedQueue.push, AList.entries_insert_of_notMem hnew, List.map_cons]
    exact (h.matched.cons _).trans (List.perm_append_singleton _ _).symm
  ordered := by
    apply List.pairwise_append.mpr
    refine ⟨h.ordered, List.pairwise_singleton _ _, ?_⟩
    intro d hd e he
    rw [List.mem_singleton] at he
    rw [he]
    exact h.bounded d hd
  bounded := by
    intro e he
    simp only [IndexedQueue.push, List.mem_append, List.mem_singleton] at he ⊢
    rcases he with he | rfl
    · have hlt := h.bounded e he
      omega
    · simp

omit [DecidableEq κ] in
theorem eraseP_perm (h : q.Sound) {e : Element α} (he : e ∈ q.deque) :
    q.deque.Perm (e :: q.deque.eraseP fun d => d.id == e.id) := by
  have hordered := h.ordered
  generalize q.deque = deque at he hordered
  induction deque with
  | nil => cases he
  | cons d deque ih =>
    obtain ⟨hfirst, hordered⟩ := List.pairwise_cons.mp hordered
    rcases List.mem_cons.mp he with rfl | he
    · simp
    · have hne : (d.id == e.id) = false := by
        have hlt := hfirst e he
        simp only [beq_eq_false_iff_ne]
        omega
      rw [List.eraseP_cons_of_neg (by simp [hne])]
      exact ((ih he hordered).cons d).trans (List.Perm.swap e d _)

theorem unlink (h : q.Sound) {k : κ} {e : Element α} (hk : q.index.lookup k = some e) :
    (q.unlink k e).Sound where
  matched := by
    have hindex := (Table.entries_perm_erase hk).map (·.2)
    have hdeque := h.eraseP_perm (h.mem_of_lookup hk)
    exact (hindex.symm.trans (h.matched.trans hdeque)).cons_inv
  ordered := h.ordered.sublist List.eraseP_sublist
  bounded := fun d hd => h.bounded d (List.eraseP_sublist.subset hd)

theorem unlinkKeys (h : q.Sound) (ks : List κ) : (unlinkKeys ks q).Sound := by
  induction ks generalizing q with
  | nil => exact h
  | cons k ks ih =>
    rw [IndexedQueue.unlinkKeys]
    split
    · rename_i e hk
      exact ih (h.unlink hk)
    · exact ih h

theorem unlinkEntries (h : q.Sound) (p : α → Bool)
    {entries : List (Sigma fun _ : κ => Element α)} (hkeys : (entries.map (·.1)).Nodup)
    (hentries : ∀ entry ∈ entries, q.index.lookup entry.1 = some entry.2) :
    (unlinkEntries p entries q).Sound := by
  induction entries generalizing q with
  | nil => exact h
  | cons entry entries ih =>
    rw [List.map_cons, List.nodup_cons] at hkeys
    rw [IndexedQueue.unlinkEntries]
    have hfound := hentries entry List.mem_cons_self
    split
    · apply ih (h.unlink hfound) hkeys.2
      intro other hother
      have hne : other.1 ≠ entry.1 := by
        intro heq
        exact hkeys.1 (heq ▸ List.mem_map_of_mem hother)
      rw [IndexedQueue.unlink, Table.lookup_erase_eq, if_neg hne]
      exact hentries other (List.mem_cons_of_mem _ hother)
    · exact ih h hkeys.2 fun other hother => hentries other (List.mem_cons_of_mem _ hother)

end Sound

theorem lookup_unlinkKeys {ks : List κ} {k : κ} (hk : k ∉ ks) (q : IndexedQueue κ α) :
    (unlinkKeys ks q).index.lookup k = q.index.lookup k := by
  induction ks generalizing q with
  | nil => rfl
  | cons j ks ih =>
    obtain ⟨hne, hk⟩ := not_or.mp (mt List.mem_cons.mpr hk)
    rw [unlinkKeys]
    split
    · rw [ih hk, unlink, Table.lookup_erase_eq, if_neg hne]
    · exact ih hk q

theorem lookup_unlinkEntries {p : α → Bool} {entries : List (Sigma fun _ : κ => Element α)} {k : κ}
    (hk : ∀ entry ∈ entries, entry.1 = k → p entry.2.value = false) (q : IndexedQueue κ α) :
    (unlinkEntries p entries q).index.lookup k = q.index.lookup k := by
  induction entries generalizing q with
  | nil => rfl
  | cons entry entries ih =>
    rw [unlinkEntries, ih fun other hother => hk other (List.mem_cons_of_mem _ hother)]
    split
    · rename_i hp
      have hne : k ≠ entry.1 := by
        rintro rfl
        exact Bool.false_ne_true ((hk entry List.mem_cons_self rfl).symm.trans hp)
      rw [unlink, Table.lookup_erase_eq, if_neg hne]
    · rfl

theorem length_unlinkKeys_le (q : IndexedQueue κ α) (ks : List κ) :
    (unlinkKeys ks q).deque.length ≤ q.deque.length := by
  induction ks generalizing q with
  | nil => exact le_rfl
  | cons k ks ih =>
    rw [unlinkKeys]
    split
    · exact (ih _).trans List.eraseP_sublist.length_le
    · exact ih q

theorem length_unlinkEntries_le (p : α → Bool) (q : IndexedQueue κ α)
    (entries : List (Sigma fun _ : κ => Element α)) :
    (unlinkEntries p entries q).deque.length ≤ q.deque.length := by
  induction entries generalizing q with
  | nil => exact le_rfl
  | cons entry entries ih =>
    rw [unlinkEntries]
    split
    · exact (ih _).trans List.eraseP_sublist.length_le
    · exact ih q

end IndexedQueue

end OpenAudio
