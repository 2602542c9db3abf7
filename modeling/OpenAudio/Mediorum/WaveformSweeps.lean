import OpenAudio.Lib.Keyset
import OpenAudio.Mediorum.Waveforms
import Mathlib.Data.String.Basic

/-!
# The walks of the waveform backfill

Two walks look for blobs without a waveform: one through the uploads, newest first, and one through
the keys of the older table. Each offers jobs to a bounded queue and moves its cursor over the rows
it has dealt with. The cursors are columns of one row and start over when the version changes, or a
while after the uploads were walked to the end.
-/

namespace OpenAudio.Mediorum

def waveformDiscoveryLimit : Nat := 100

def waveformMaxBatchesPerSweep : Nat := 20

/-- Six hours, in nanoseconds -/
def waveformRewalkInterval : Int := 6 * 60 * 60 * 10 ^ 9

/-- The row of `waveform_cursor`, without its counters. -/
structure CursorRow where
  /-- `created_at` and `upload_id` -/
  upload : Option (Int × String) := none
  exhausted : Bool := false
  version : Nat
  qmKey : Option String := none
  updatedAt : Int := 0

/-- What became of a job: it is in the queue, or its blob is in the archive and was recorded so. -/
inductive WaveformOffer where
  | queued (job : WaveformJob)
  | skipped (job : WaveformJob)

/-- One of the two walks. -/
structure WalkKind (κ α : Type) where
  le : κ → κ → Prop
  decLe : DecidableRel le
  linear : IsLinearOrder κ le
  key : α → κ
  outstanding : WaveformTable → α → Bool
  targets : α → List WaveformJob
  /-- the context is asked at each row, and a blob of the archive is passed over -/
  watchful : Bool
  /-- the cursor of a walk that begins -/
  initial : Option κ := none
  /-- a cursor that is not usable counts as none -/
  usable : κ → Bool := fun _ => true
  load : CursorRow → Option κ
  save : Int → κ → CursorRow → CursorRow
  load_save : ∀ now k row, load (save now k row) = some k

attribute [instance] WalkKind.decLe WalkKind.linear

/-- What a batch of a sweep meets. -/
structure WalkTurn (α : Type) where
  canceled : Bool := false
  /-- the rows and the waveforms at the time of the query -/
  tables : Except String (List α × WaveformTable)
  /-- how many rows are looked at before the context ends -/
  looked : Nat := waveformDiscoveryLimit
  /-- how many jobs the queue takes -/
  room : Nat
  /-- `isArchiveCID`, for a node that leaves the archive alone -/
  archived : WaveformJob → Bool := fun _ => false
  now : Int := 0
  saved : Bool := true

inductive WalkEnd where
  | exhausted
  | full
  | paused
  | stopped
deriving DecidableEq

/-- A walk: its cursor, the row it is saved in, and, kept by the model only, the offers and the rows
that were found complete since the cursors were reset. -/
structure Walk (κ α : Type) where
  cursor : Option κ
  row : Option CursorRow
  offers : List WaveformOffer := []
  complete : List α := []

/-- The jobs of a row are offered until the queue is full; then no room is left. -/
def offerJobs (archived : WaveformJob → Bool) : Nat → List WaveformJob →
    List WaveformOffer × Option Nat
  | room, [] => ([], some room)
  | room, job :: jobs =>
    if archived job then
      let rest := offerJobs archived room jobs
      (.skipped job :: rest.1, rest.2)
    else match room with
      | 0 => ([], none)
      | room + 1 =>
        let rest := offerJobs archived room jobs
        (.queued job :: rest.1, rest.2)

namespace WalkKind

variable {κ α : Type} (W : WalkKind κ α)

/-- The rows of a page until the queue is full: those dealt with, the offers, and if it was full. -/
def offerRows (archived : WaveformJob → Bool) : Nat → List α → List α × List WaveformOffer × Bool
  | _, [] => ([], [], false)
  | room, r :: rs =>
    match offerJobs archived room (W.targets r) with
    | (offers, none) => ([], offers, true)
    | (offers, some room') =>
      let rest := offerRows archived room' rs
      (r :: rest.1, offers ++ rest.2.1, rest.2.2)

def past (cursor : Option κ) (r : α) : Bool :=
  ((cursor.filter W.usable).or W.initial).all fun c => !decide (W.le (W.key r) c)

def byKey (a b : α) : Prop := W.le (W.key a) (W.key b)

instance : DecidableRel W.byKey := fun a b => W.decLe (W.key a) (W.key b)

def batch (cursor : Option κ) (rows : List α) (t : WaveformTable) : List α :=
  Keyset.page W.byKey (W.past cursor) waveformDiscoveryLimit (rows.filter (W.outstanding t))

/-- A batch of a sweep, after the query. -/
def deal (version : Nat) (t : WalkTurn α) (rows : List α) (table : WaveformTable)
    (w : Walk κ α) : Option WalkEnd × Walk κ α :=
  let page := W.batch w.cursor rows table
  let dealt := W.offerRows (fun job => W.watchful && t.archived job) t.room
    (if W.watchful then page.take t.looked else page)
  let w' := { w with
    offers := w.offers ++ dealt.2.1
    complete := w.complete ++ rows.filter fun r => !W.outstanding table r }
  if page = [] then (some .exhausted, w')
  else
    let next := if dealt.2.2 then some .full else none
    match dealt.1.getLast? with
    | none => (next, w')
    | some last =>
      let moved := { w' with cursor := some (W.key last) }
      if t.saved then (next, { moved with
        row := some (W.save t.now (W.key last) (w.row.getD { version := version })) })
      else (some .stopped, moved)

def walkTurn (version : Nat) (t : WalkTurn α) (w : Walk κ α) : Option WalkEnd × Walk κ α :=
  if t.canceled then (some .stopped, w)
  else match t.tables with
    | .error _ => (some .stopped, w)
    | .ok (rows, table) => W.deal version t rows table w

def walkTurns (version : Nat) : List (WalkTurn α) → Walk κ α → WalkEnd × Walk κ α
  | [], w => (.paused, w)
  | t :: ts, w =>
    match W.walkTurn version t w with
    | (some e, w') => (e, w')
    | (none, w') => walkTurns version ts w'

end WalkKind

/-! ### The two walks -/

section Walks

/- how the database orders texts -/

variable (le : String → String → Prop) [DecidableRel le] [IsLinearOrder String le]

/-- Later uploads first -/
def newestFirst (a b : Int × String) : Prop := b.1 < a.1 ∨ b.1 = a.1 ∧ le b.2 a.2

instance : DecidableRel (newestFirst le) := fun a b =>
  inferInstanceAs (Decidable (b.1 < a.1 ∨ b.1 = a.1 ∧ le b.2 a.2))

instance : IsLinearOrder (Int × String) (newestFirst le) where
  refl a := .inr ⟨rfl, refl_of le a.2⟩
  trans a b c := by
    rintro (hab | ⟨hab, hab'⟩) (hbc | ⟨hbc, hbc'⟩)
    · exact .inl (hbc.trans hab)
    · exact .inl (hbc ▸ hab)
    · exact .inl (hab ▸ hbc)
    · exact .inr ⟨hbc.trans hab, trans_of le hbc' hab'⟩
  antisymm a b := by
    rintro (hab | ⟨hab, hab'⟩) (hba | ⟨hba, hba'⟩)
    · exact absurd hab hba.asymm
    · exact absurd hab hba.not_gt
    · exact absurd hba hab.not_gt
    · exact Prod.ext hba (antisymm_of le hba' hab')
  total a b := by
    rcases lt_trichotomy b.1 a.1 with h | h | h
    · exact .inl (.inl h)
    · exact (total_of le b.2 a.2).imp (fun hle => .inr ⟨h, hle⟩) fun hle => .inr ⟨h.symm, hle⟩
    · exact .inr (.inl h)

/-- The zero time as the database keeps it -/
def zeroCreatedAt : Int := -62135596800 * 10 ^ 9

def discoveryWalk (version : Nat) : WalkKind (Int × String) WaveformUpload where
  le := newestFirst le
  decLe := inferInstance
  linear := inferInstance
  key u := (u.createdAt, u.id)
  outstanding := Mediorum.outstanding version
  targets := WaveformUpload.waveformTargets
  watchful := true
  usable k := k.1 != zeroCreatedAt
  load row := row.upload
  save now k row := { row with upload := some k, updatedAt := now }
  load_save _ _ _ := rfl

/-- Keys without a path, and without a row at this version -/
def legacyOutstanding (version : Nat) (t : WaveformTable) (key : String) : Bool :=
  decide ('/' ∉ key.toList) && (t.lookup key).all fun row => decide (row.version ≠ version)

def legacyWalk (version : Nat) : WalkKind String String where
  le := le
  decLe := inferInstance
  linear := inferInstance
  key := id
  outstanding := legacyOutstanding version
  targets key := [⟨key, "", []⟩]
  watchful := false
  initial := some ""
  load row := row.qmKey
  save now k row := { row with qmKey := some k, version := version, updatedAt := now }
  load_save _ _ _ := rfl

/-- The saved cursors, and what was done since they were reset. -/
structure Backfill where
  row : Option CursorRow := none
  uploads : List WaveformOffer × List WaveformUpload := ([], [])
  legacy : List WaveformOffer × List String := ([], [])

structure DiscoverySweep where
  readable : Bool := true
  now : Int
  resets : Bool := true
  turns : List (WalkTurn WaveformUpload)
  marked : Bool := true

structure LegacySweep where
  readable : Bool := true
  turns : List (WalkTurn String)

namespace Backfill

variable (version : Nat)

/-- `resetWaveformCursor` -/
def reset (now : Int) : Backfill where
  row := some { version := version, updatedAt := now }

def walkUploads (d : DiscoverySweep) (b : Backfill) : WalkEnd × Backfill :=
  let (e, w) := (discoveryWalk le version).walkTurns version (d.turns.take waveformMaxBatchesPerSweep)
    ⟨b.row.bind CursorRow.upload, b.row, b.uploads.1, b.uploads.2⟩
  let row := if e = .exhausted ∧ d.marked then
      some { w.row.getD { version := version } with
        exhausted := true, version := version, updatedAt := d.now }
    else w.row
  (e, { b with row := row, uploads := (w.offers, w.complete) })

def sweepWaveformDiscovery (d : DiscoverySweep) (b : Backfill) : WalkEnd × Backfill :=
  if d.readable = false then (.stopped, b)
  else
    let cur := b.row.getD { version := version }
    if cur.version ≠ version ∨ cur.exhausted ∧ waveformRewalkInterval ≤ d.now - cur.updatedAt then
      if d.resets then walkUploads le version d (reset version d.now) else (.stopped, b)
    else if cur.exhausted then (.stopped, b)
    else walkUploads le version d b

def sweepWaveformLegacy (l : LegacySweep) (b : Backfill) : WalkEnd × Backfill :=
  if l.readable = false then (.stopped, b)
  else
    let (e, w) := (legacyWalk le version).walkTurns version (l.turns.take waveformMaxBatchesPerSweep)
      ⟨b.row.bind CursorRow.qmKey, b.row, b.legacy.1, b.legacy.2⟩
    (e, { b with row := w.row, legacy := (w.offers, w.complete) })

/-- One of the sweeps of `runWaveformSweeps` -/
abbrev Sweep := DiscoverySweep ⊕ LegacySweep

def sweep (b : Backfill) : Sweep → Backfill
  | .inl d => (sweepWaveformDiscovery le version d b).2
  | .inr l => (sweepWaveformLegacy le version l b).2

def sweeps (ss : List Sweep) (b : Backfill) : Backfill := ss.foldl (sweep le version) b

end Backfill

/-! ### A row that stays -/

theorem mem_offerJobs {archived : WaveformJob → Bool} {room room' : Nat} {jobs : List WaveformJob}
    {offers : List WaveformOffer} (h : offerJobs archived room jobs = (offers, some room'))
    {job : WaveformJob} (hjob : job ∈ jobs) :
    .queued job ∈ offers ∨ archived job = true ∧ .skipped job ∈ offers := by
  induction jobs generalizing room offers with
  | nil => cases hjob
  | cons first jobs ih =>
    unfold offerJobs at h
    split at h
    · rename_i harchived
      obtain ⟨rfl, hroom⟩ := Prod.mk.inj h
      rcases List.mem_cons.mp hjob with rfl | hjob
      · exact .inr ⟨harchived, List.mem_cons_self⟩
      · exact (ih (Prod.ext rfl hroom) hjob).imp (List.mem_cons_of_mem _)
          (And.imp_right (List.mem_cons_of_mem _))
    · split at h
      · cases h
      · obtain ⟨rfl, hroom⟩ := Prod.mk.inj h
        rcases List.mem_cons.mp hjob with rfl | hjob
        · exact .inl List.mem_cons_self
        · exact (ih (Prod.ext rfl hroom) hjob).imp (List.mem_cons_of_mem _)
            (And.imp_right (List.mem_cons_of_mem _))

namespace WalkKind

variable {κ α : Type} (W : WalkKind κ α) (r : α)

instance : Std.Total W.byKey := ⟨fun a b => total_of W.le (W.key a) (W.key b)⟩

instance : IsTrans α W.byKey := ⟨fun _ _ _ hab hbc => trans_of W.le hab hbc⟩

/-- The jobs of the row were offered, or it was found complete. -/
def Dealt (offers : List WaveformOffer) (complete : List α) : Prop :=
  (∀ job ∈ W.targets r, .queued job ∈ offers ∨ W.watchful = true ∧ .skipped job ∈ offers) ∨
    r ∈ complete

/-- If a cursor is past the row, the row was dealt with. -/
def Covers (cursor : Option κ) (offers : List WaveformOffer) (complete : List α) : Prop :=
  Keyset.Covered (W.past none) (W.past cursor) r (W.Dealt r offers complete)

structure CoversWalk (w : Walk κ α) : Prop where
  cursor : W.Covers r w.cursor w.offers w.complete
  stored : W.Covers r (w.row.bind W.load) w.offers w.complete

/-- Whenever the rows are read, this one is among them, and their keys are unique. -/
def Has (t : WalkTurn α) : Prop :=
  ∀ rows table, t.tables = .ok (rows, table) → r ∈ rows ∧ (rows.map W.key).Nodup

variable {W r} {offers offers' : List WaveformOffer} {complete complete' : List α}

theorem Dealt.mono (h : W.Dealt r offers complete) (ho : offers ⊆ offers')
    (hc : complete ⊆ complete') : W.Dealt r offers' complete' :=
  h.imp (fun hjobs job hjob => (hjobs job hjob).imp (@ho _) (And.imp_right (@ho _))) (@hc _)

theorem offerRows_spec (archived : WaveformJob → Bool) (room : Nat) (rows : List α) :
    (W.offerRows archived room rows).1 <+: rows ∧
      ∀ r ∈ (W.offerRows archived room rows).1, ∀ job ∈ W.targets r,
        .queued job ∈ (W.offerRows archived room rows).2.1 ∨
          archived job = true ∧ .skipped job ∈ (W.offerRows archived room rows).2.1 := by
  induction rows generalizing room with
  | nil => exact ⟨List.prefix_refl _, fun _ h => by cases h⟩
  | cons first rows ih =>
    unfold offerRows
    split
    · exact ⟨ List.nil_prefix, fun _ h => by cases h⟩
    · rename_i offers room' heq
      obtain ⟨hpart, hoffers⟩ := ih room'
      refine ⟨(List.prefix_cons_inj first).mpr hpart, fun r hr job hjob => ?_⟩
      rcases List.mem_cons.mp hr with rfl | hr
      · exact (mem_offerJobs heq hjob).imp (List.mem_append_left _)
          (And.imp_right (List.mem_append_left _))
      · exact (hoffers r hr job hjob).imp (List.mem_append_right _)
          (And.imp_right (List.mem_append_right _))

/-- A cursor that is not usable covers everything, as none does. -/
theorem Covers.of_after {last : α}
    (h : Keyset.Covered (W.past none) (Keyset.after W.byKey last) r (W.Dealt r offers complete)) :
    W.Covers r (some (W.key last)) offers complete := by
  unfold Covers
  cases husable : W.usable (W.key last) with
  | true =>
    have hpast : W.past (some (W.key last)) = Keyset.after W.byKey last := by
      funext x
      simp [past, Keyset.after, byKey, Option.filter, husable]
    rw [hpast]
    exact h
  | false =>
    have hpast : W.past (some (W.key last)) = W.past none := by
      funext x
      simp [past, Option.filter, husable]
    rw [hpast]
    exact Keyset.Covered.refl

theorem CoversWalk.walkTurn (version : Nat) {t : WalkTurn α} (hhas : W.Has r t) {w : Walk κ α}
    (h : W.CoversWalk r w) : W.CoversWalk r (W.walkTurn version t w).2 := by
  unfold WalkKind.walkTurn
  split
  · exact h
  split
  · exact h
  rename_i rows table htables
  obtain ⟨hr, hkeys⟩ := hhas rows table htables
  have hkeyed : Keyset.Keyed W.byKey (rows.filter (W.outstanding table)) :=
    fun a ha b hb hab hba => List.inj_on_of_nodup_map hkeys (List.mem_filter.mp ha).1
      (List.mem_filter.mp hb).1 (antisymm_of W.le hab hba)
  obtain ⟨hpart, hoffered⟩ := offerRows_spec (W := W) (fun job => W.watchful && t.archived job)
    t.room (if W.watchful then (W.batch w.cursor rows table).take t.looked
      else W.batch w.cursor rows table)
  unfold deal
  dsimp only
  have hpage : (if W.watchful then (W.batch w.cursor rows table).take t.looked
      else W.batch w.cursor rows table) <+: W.batch w.cursor rows table := by
    split
    · exact List.take_prefix _ _
    · exact List.prefix_refl _
  generalize W.offerRows _ t.room _ = dealt at hpart hoffered ⊢
  have hgrows : ∀ cursor, W.Covers r cursor w.offers w.complete → W.Covers r cursor
      (w.offers ++ dealt.2.1) (w.complete ++ rows.filter fun r => !W.outstanding table r) :=
    fun _ hc => Keyset.Covered.mono hc fun hd =>
      hd.mono (List.subset_append_left _ _) (List.subset_append_left _ _)
  split
  · exact ⟨hgrows _ h.cursor, hgrows _ h.stored⟩
  split
  · exact ⟨hgrows _ h.cursor, hgrows _ h.stored⟩
  rename_i last hlast
  -- the row is outstanding and so in the table that is walked, or it is complete
  have hmoved : W.Covers r (some (W.key last)) (w.offers ++ dealt.2.1)
      (w.complete ++ rows.filter fun r => !W.outstanding table r) := by
    refine .of_after (Keyset.Covered.advance (h.cursor : Keyset.Covered _ _ _ _)
      (fun hd => hd.mono (List.subset_append_left _ _) (List.subset_append_left _ _)) hkeyed
      (hpart.trans hpage) hlast ?_ fun hmem => ?_)
    · cases hout : W.outstanding table r with
      | true => exact .inl (List.mem_filter.mpr ⟨hr, hout⟩)
      | false =>
        exact .inr (.inr (List.mem_append_right _ (List.mem_filter.mpr ⟨hr, by simp [hout]⟩)))
    · exact .inl fun job hjob => (hoffered r hmem job hjob).imp
        (List.mem_append_right _) fun hskipped =>
          ⟨(Bool.and_eq_true_iff.mp hskipped.1).1, List.mem_append_right _ hskipped.2⟩
  split
  · refine ⟨hmoved, ?_⟩
    rw [Option.bind_some, W.load_save]
    exact hmoved
  · exact ⟨hmoved, hgrows _ h.stored⟩

/-- A page is empty only when the row is behind the cursor, or complete. -/
theorem CoversWalk.exhausted {version : Nat} {t : WalkTurn α} (hhas : W.Has r t) {w w' : Walk κ α}
    (h : W.CoversWalk r w) (hkey : W.past none r = true)
    (hend : W.walkTurn version t w = (some .exhausted, w')) :
    W.Dealt r w'.offers w'.complete := by
  unfold WalkKind.walkTurn at hend
  split at hend
  · cases hend
  split at hend
  · cases hend
  rename_i rows table htables
  obtain ⟨hr, -⟩ := hhas rows table htables
  unfold deal at hend
  dsimp only at hend
  generalize W.offerRows _ t.room _ = dealt at hend
  split at hend
  · rename_i hnil
    cases hend
    cases hout : W.outstanding table r with
    | true =>
      have hdealt : W.Dealt r w.offers w.complete := Keyset.Covered.finish
        (h.cursor : Keyset.Covered _ _ _ _) (by decide) hnil
        (.inl (List.mem_filter.mpr ⟨hr, hout⟩)) hkey
      exact hdealt.mono (List.subset_append_left _ _) (List.subset_append_left _ _)
    | false =>
      exact .inr (List.mem_append_right _ (List.mem_filter.mpr ⟨hr, by simp [hout]⟩))
  · split at hend
    · split at hend <;> cases hend
    · split at hend
      · split at hend <;> cases hend
      · cases hend

theorem CoversWalk.walkTurns {version : Nat} {ts : List (WalkTurn α)} (hhas : ∀ t ∈ ts, W.Has r t)
    (hkey : W.past none r = true) {w w' : Walk κ α} {e : WalkEnd} (h : W.CoversWalk r w)
    (hrun : W.walkTurns version ts w = (e, w')) :
    W.CoversWalk r w' ∧ (e = .exhausted → W.Dealt r w'.offers w'.complete) := by
  induction ts generalizing w with
  | nil =>
    cases hrun
    exact ⟨h, fun he => by cases he⟩
  | cons t ts ih =>
    have ht := hhas t List.mem_cons_self
    have hturn := h.walkTurn version ht
    unfold WalkKind.walkTurns at hrun
    split at hrun
    · rename_i heq
      cases hrun
      rw [heq] at hturn
      refine ⟨hturn, fun he => ?_⟩
      subst he
      exact h.exhausted ht hkey heq
    · rename_i heq
      rw [heq] at hturn
      exact ih (fun t' ht' => hhas t' (List.mem_cons_of_mem _ ht')) hturn hrun

/-- A column that the walk does not save stays as it is. -/
theorem row_walkTurns {β : Type} (version : Nat) {f : CursorRow → Option β}
    (hsave : ∀ now k row, f (W.save now k row) = f row) (hnew : f { version := version } = none)
    (ts : List (WalkTurn α)) (w : Walk κ α) :
    (W.walkTurns version ts w).2.row.bind f = w.row.bind f := by
  have hrow (now : Int) (k : κ) (row : Option CursorRow) :
      (some (W.save now k (row.getD { version := version }))).bind f = row.bind f := by
    cases row with
    | none => exact (hsave _ _ _).trans hnew
    | some row => exact hsave _ _ _
  have hturn (t : WalkTurn α) (w : Walk κ α) :
      (W.walkTurn version t w).2.row.bind f = w.row.bind f := by
    unfold walkTurn
    split
    · rfl
    split
    · rfl
    unfold deal
    dsimp only
    split
    · rfl
    split
    · rfl
    split
    · exact hrow _ _ _
    · rfl
  induction ts generalizing w with
  | nil => rfl
  | cons t ts ih =>
    have ht := hturn t w
    unfold walkTurns
    split <;> rename_i heq <;> rw [heq] at ht
    · exact ht
    · exact (ih _).trans ht

end WalkKind

namespace Backfill

open WalkKind

variable {version : Nat} {u : WaveformUpload} {key : String} {b : Backfill}

/-- Whenever the sweep reads the uploads, this one is among them. -/
def HasUpload (version : Nat) (u : WaveformUpload) : Sweep → Prop
  | .inl d => ∀ t ∈ d.turns, (discoveryWalk le version).Has u t
  | .inr _ => True

def HasKey (version : Nat) (key : String) : Sweep → Prop
  | .inl _ => True
  | .inr l => ∀ t ∈ l.turns, (legacyWalk le version).Has key t

def CoversUpload (version : Nat) (u : WaveformUpload) (b : Backfill) : Prop :=
  (discoveryWalk le version).Covers u (b.row.bind CursorRow.upload) b.uploads.1 b.uploads.2

def CoversKey (version : Nat) (key : String) (b : Backfill) : Prop :=
  (legacyWalk le version).Covers key (b.row.bind CursorRow.qmKey) b.legacy.1 b.legacy.2

variable {le}

theorem coversUpload_of_start (h : b.row.bind CursorRow.upload = none) :
    CoversUpload le version u b := by
  unfold CoversUpload
  rw [h]
  exact Keyset.Covered.refl

theorem coversKey_of_start (h : b.row.bind CursorRow.qmKey = none) : CoversKey le version key b := by
  unfold CoversKey
  rw [h]
  exact Keyset.Covered.refl

variable (le version) in
/-- What a sweep through the uploads does: nothing, or a walk from where it was or from a reset. -/
theorem sweepWaveformDiscovery_cases (d : DiscoverySweep) (b : Backfill) :
    sweepWaveformDiscovery le version d b = (.stopped, b) ∨
      ∃ b', (b' = b ∨ b' = reset version d.now) ∧
        sweepWaveformDiscovery le version d b = walkUploads le version d b' := by
  unfold sweepWaveformDiscovery
  split
  · exact .inl rfl
  dsimp only
  split
  · split
    · exact .inr ⟨_, .inr rfl, rfl⟩
    · exact .inl rfl
  · split
    · exact .inl rfl
    · exact .inr ⟨_, .inl rfl, rfl⟩

theorem walkUploads_covers {d : DiscoverySweep} (h : CoversUpload le version u b)
    (hhas : ∀ t ∈ d.turns, (discoveryWalk le version).Has u t) :
    CoversUpload le version u (walkUploads le version d b).2 ∧
      ((walkUploads le version d b).1 = .exhausted → (discoveryWalk le version).Dealt u
        (walkUploads le version d b).2.uploads.1 (walkUploads le version d b).2.uploads.2) := by
  unfold walkUploads
  generalize hrun : (discoveryWalk le version).walkTurns version
    (d.turns.take waveformMaxBatchesPerSweep) _ = run
  obtain ⟨e, w⟩ := run
  have hbegin : (discoveryWalk le version).CoversWalk u
      ⟨b.row.bind CursorRow.upload, b.row, b.uploads.1, b.uploads.2⟩ := ⟨h, h⟩
  obtain ⟨hcovers, hdealt⟩ := hbegin.walkTurns
    (fun t ht => hhas t (List.mem_of_mem_take ht)) rfl hrun
  refine ⟨?_, hdealt⟩
  unfold CoversUpload
  dsimp only
  split
  · cases hrow : w.row with
    | none => exact Keyset.Covered.refl
    | some row =>
      have hstored := hcovers.stored
      rw [hrow] at hstored
      exact hstored
  · exact hcovers.stored

theorem walkUploads_qmKey (d : DiscoverySweep) (b : Backfill) :
    (walkUploads le version d b).2.row.bind CursorRow.qmKey = b.row.bind CursorRow.qmKey := by
  have hrow := row_walkTurns (W := discoveryWalk le version) version
    (f := CursorRow.qmKey) (fun _ _ _ => rfl) rfl (d.turns.take waveformMaxBatchesPerSweep)
    ⟨b.row.bind CursorRow.upload, b.row, b.uploads.1, b.uploads.2⟩
  rw [← hrow]
  unfold walkUploads
  dsimp only
  split
  · cases ((discoveryWalk le version).walkTurns version _ _).2.row <;> rfl
  · rfl

theorem sweepWaveformLegacy_covers {l : LegacySweep} (h : CoversKey le version key b)
    (hhas : ∀ t ∈ l.turns, (legacyWalk le version).Has key t) (hkey : ¬ le key "") :
    CoversKey le version key (sweepWaveformLegacy le version l b).2 ∧
      ((sweepWaveformLegacy le version l b).1 = .exhausted → (legacyWalk le version).Dealt key
        (sweepWaveformLegacy le version l b).2.legacy.1
        (sweepWaveformLegacy le version l b).2.legacy.2) := by
  unfold sweepWaveformLegacy
  split
  · exact ⟨h, fun he => by cases he⟩
  generalize hrun : (legacyWalk le version).walkTurns version
    (l.turns.take waveformMaxBatchesPerSweep) _ = run
  obtain ⟨e, w⟩ := run
  have hpast : (legacyWalk le version).past none key = true := by
    change (!decide (le key "")) = true
    rw [decide_eq_false hkey]
    rfl
  have hbegin : (legacyWalk le version).CoversWalk key
      ⟨b.row.bind CursorRow.qmKey, b.row, b.legacy.1, b.legacy.2⟩ := ⟨h, h⟩
  obtain ⟨hcovers, hdealt⟩ := hbegin.walkTurns
    (fun t ht => hhas t (List.mem_of_mem_take ht)) hpast hrun
  exact ⟨hcovers.stored, hdealt⟩

variable (le version) in
theorem sweepWaveformLegacy_upload (l : LegacySweep) (b : Backfill) :
    (sweepWaveformLegacy le version l b).2.row.bind CursorRow.upload = b.row.bind CursorRow.upload ∧
      (sweepWaveformLegacy le version l b).2.uploads = b.uploads := by
  unfold sweepWaveformLegacy
  split
  · exact ⟨rfl, rfl⟩
  · exact ⟨row_walkTurns (W := legacyWalk le version) version (fun _ _ _ => rfl) rfl _ _, rfl⟩

theorem CoversUpload.sweep (h : CoversUpload le version u b) {s : Sweep}
    (hhas : HasUpload le version u s) : CoversUpload le version u (b.sweep le version s) := by
  cases s with
  | inl d =>
    obtain heq | ⟨b', hb', heq⟩ := sweepWaveformDiscovery_cases le version d b <;>
      unfold Backfill.sweep <;> dsimp only <;> rw [heq]
    · exact h
    · refine (walkUploads_covers ?_ hhas).1
      rcases hb' with rfl | rfl
      · exact h
      · exact coversUpload_of_start rfl
  | inr l =>
    obtain ⟨hcursor, huploads⟩ := sweepWaveformLegacy_upload le version l b
    unfold CoversUpload Backfill.sweep
    dsimp only
    rw [hcursor, huploads]
    exact h

theorem CoversKey.sweep (h : CoversKey le version key b) (hkey : ¬ le key "") {s : Sweep}
    (hhas : HasKey le version key s) : CoversKey le version key (b.sweep le version s) := by
  cases s with
  | inl d =>
    obtain heq | ⟨b', hb', heq⟩ := sweepWaveformDiscovery_cases le version d b <;>
      unfold Backfill.sweep <;> dsimp only <;> rw [heq]
    · exact h
    · have hkept : CoversKey le version key b' := by
        rcases hb' with rfl | rfl
        · exact h
        · exact coversKey_of_start rfl
      unfold CoversKey
      rw [walkUploads_qmKey]
      exact hkept
  | inr l => exact (sweepWaveformLegacy_covers h hhas hkey).1

theorem CoversUpload.sweeps {ss : List Sweep} (h : CoversUpload le version u b)
    (hhas : ∀ s ∈ ss, HasUpload le version u s) : CoversUpload le version u (b.sweeps le version ss) := by
  induction ss generalizing b with
  | nil => exact h
  | cons s ss ih =>
    exact ih (h.sweep (hhas s List.mem_cons_self)) fun s' hs' =>
      hhas s' (List.mem_cons_of_mem _ hs')

theorem CoversKey.sweeps {ss : List Sweep} (h : CoversKey le version key b) (hkey : ¬ le key "")
    (hhas : ∀ s ∈ ss, HasKey le version key s) : CoversKey le version key (b.sweeps le version ss) := by
  induction ss generalizing b with
  | nil => exact h
  | cons s ss ih =>
    exact ih (h.sweep hkey (hhas s List.mem_cons_self)) fun s' hs' =>
      hhas s' (List.mem_cons_of_mem _ hs')

/-- A sweep through one upload, with some room in the queue -/
def oneUploadSweep (turns room : Nat) : DiscoverySweep where
  now := 0
  turns := List.replicate turns { tables := .ok ([sharedUpload "u"], ∅), room := room }

theorem hasUpload_oneUploadSweep (turns room : Nat) :
    HasUpload (· ≤ ·) 1 (sharedUpload "u") (.inl (oneUploadSweep turns room)) := by
  intro t ht rows table htables
  obtain rfl := List.eq_of_mem_replicate ht
  cases htables
  exact ⟨List.mem_singleton_self _, List.nodup_singleton _⟩

/-- The same of the older keys. -/
theorem legacy_offers_keys {ss : List Sweep} {l : LegacySweep}
    (hstart : b.row.bind CursorRow.qmKey = none) (hkey : ¬ le key "")
    (hhas : ∀ s ∈ ss ++ [.inr l], HasKey le version key s)
    (hend : (sweepWaveformLegacy le version l (b.sweeps le version ss)).1 = .exhausted) :
    let log := (sweepWaveformLegacy le version l (b.sweeps le version ss)).2.legacy
    .queued ⟨key, "", []⟩ ∈ log.1 ∨ key ∈ log.2 := by
  have hcovers : CoversKey le version key (b.sweeps le version ss) :=
    (coversKey_of_start hstart).sweeps hkey fun s hs => hhas s (List.mem_append_left _ hs)
  have hdealt := (sweepWaveformLegacy_covers hcovers (hhas (.inr l) (by simp)) hkey).2 hend
  -- this walk passes over nothing
  exact hdealt.imp_left fun hjobs => (hjobs _ (List.mem_singleton_self _)).resolve_right
    fun hskipped => absurd hskipped.1 Bool.false_ne_true

/-- A sweep through two keys and the path of an artwork, with some room in the queue -/
def twoKeysSweep (turns room : Nat) : LegacySweep where
  turns := List.replicate turns
    { tables := .ok (["QmB", "QmA", "QmA/150x150.jpg"], ∅), room := room }

/-- The uploads are walked, then the queue is full after one key, and the last sweep goes on from
there. -/
theorem legacy_offers_key_before_artwork :
    let b : Backfill := sweeps (· ≤ ·) 1
      [.inl (oneUploadSweep 2 1), .inr (twoKeysSweep 1 1)] (reset 1 7)
    let after := sweepWaveformLegacy (· ≤ ·) 1 (twoKeysSweep 2 1) b
    b.row.bind CursorRow.qmKey = some "QmA" ∧ after.1 = .exhausted ∧
      (.queued ⟨"QmB", "", []⟩ ∈ after.2.legacy.1 ∨ "QmB" ∈ after.2.legacy.2) := by
  intro b
  have hend : (sweepWaveformLegacy (· ≤ ·) 1 (twoKeysSweep 2 1) b).1 = .exhausted := by decide +kernel
  refine ⟨by decide +kernel, hend, legacy_offers_keys rfl (by decide +kernel) (fun s hs => ?_) hend⟩
  have hturns (turns room : Nat) :
      HasKey (· ≤ ·) 1 "QmB" (.inr (twoKeysSweep turns room)) := by
    intro t ht rows table htables
    obtain rfl := List.eq_of_mem_replicate ht
    cases htables
    exact ⟨List.mem_cons_self, by decide⟩
  simp only [List.cons_append, List.nil_append, List.mem_cons, List.not_mem_nil, or_false] at hs
  rcases hs with rfl | rfl | rfl
  · trivial
  · exact hturns 1 1
  · exact hturns 2 1

end Backfill

end Walks

end OpenAudio.Mediorum
