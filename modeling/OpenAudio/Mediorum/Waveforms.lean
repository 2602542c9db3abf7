import OpenAudio.Lib.Table
import OpenAudio.Core.Types
import Mathlib.Data.List.Sort
import Mathlib.Data.List.Perm.Subperm

/-!
# Finding the uploads without waveforms

A node computes a waveform for each blob an upload has produced and keeps it under the blob's CID,
next to one upload it belongs to. The walk that looks for missing ones counts the rows of an upload.
-/

namespace OpenAudio.Mediorum

open OpenAudio.Core

/-- `transcodeResults` is a JSON object of texts. -/
structure WaveformUpload where
  id : String
  isAudio : Bool
  createdAt : Int
  transcodeResults : Table String String
  selectedPreview : Option String := none
  placementHosts : List String := []

structure WaveformJob where
  cid : String
  uploadID : String
  placementHosts : List String := []

structure WaveformResult where
  peaks : Bytes
  sampleRate : Nat
  sampleCount : Nat
  durationMs : Nat

def waveformBuckets : Nat := 750

structure WaveformRow where
  result : Option WaveformResult := none
  buckets : Nat := waveformBuckets
  version : Nat
  status : String
  error : String := ""
  errorCount : Nat := 0
  uploadID : Option String

abbrev WaveformTable := Table String WaveformRow

namespace WaveformUpload

variable (u : WaveformUpload)

/-- `TranscodeResults` under a key -/
def resultAt (key : String) : String := (u.transcodeResults.lookup key).getD ""

def waveformTargets : List WaveformJob :=
  (if u.resultAt "320" ≠ "" then [⟨u.resultAt "320", u.id, u.placementHosts⟩] else []) ++
    match u.selectedPreview with
    | some key =>
      if u.resultAt key ≠ "" ∧ u.resultAt key ≠ u.resultAt "320" then [⟨u.resultAt key, u.id, []⟩]
      else []
    | none => []

/-- The blobs that the walk's query counts. Here an empty text selects no preview. -/
def counted : List String :=
  (if u.resultAt "320" ≠ "" then [u.resultAt "320"] else []) ++
    match u.selectedPreview with
    | some key =>
      if key ≠ "" ∧ u.resultAt key ≠ "" ∧ u.resultAt key ≠ u.resultAt "320" then [u.resultAt key]
      else []
    | none => []

theorem nodup_counted : u.counted.Nodup := by
  rw [counted]
  cases u.selectedPreview with
  | none => split_ifs <;> simp
  | some key =>
    by_cases hpreview : key ≠ "" ∧ u.resultAt key ≠ "" ∧ u.resultAt key ≠ u.resultAt "320"
    · simp only [if_pos hpreview]
      split_ifs <;> simp [hpreview.2.2.symm]
    · simp only [if_neg hpreview]
      split_ifs <;> simp

theorem counted_subset : u.counted ⊆ u.waveformTargets.map WaveformJob.cid := by
  intro cid hcid
  rw [counted] at hcid
  rw [waveformTargets, List.map_append]
  rcases List.mem_append.mp hcid with hcid | hcid
  · refine List.mem_append_left _ ?_
    split_ifs at hcid ⊢
    · exact hcid
    · exact hcid
  · refine List.mem_append_right _ ?_
    cases hkey : u.selectedPreview with
    | none => simp [hkey] at hcid
    | some key =>
      simp only [hkey] at hcid ⊢
      split_ifs at hcid with hpreview
      · rw [if_pos hpreview.2]
        exact hcid
      · cases hcid

end WaveformUpload

/-! ### The table -/

section Writes

/- `waveformVersion`, a digest of how waveforms are computed -/

variable (waveformVersion : Nat)

def nullableUploadID (uploadID : String) : Option String := if uploadID = "" then none else some uploadID

def upsertWaveform (t : WaveformTable) (cid uploadID : String) (result : WaveformResult) :
    WaveformTable :=
  t.insert cid {
    result := some result
    version := waveformVersion
    status := "done"
    uploadID := (nullableUploadID uploadID).or ((t.lookup cid).bind WaveformRow.uploadID) }

/-! ### The walk -/

/-- The CIDs whose row is at this version and linked to the upload. -/
def linkedCIDs (t : WaveformTable) (u : WaveformUpload) : List String :=
  (t.filter fun _ row => decide (row.version = waveformVersion ∧ row.uploadID = some u.id)).keys

/-- An upload is outstanding while it has fewer rows than blobs. -/
def outstanding (t : WaveformTable) (u : WaveformUpload) : Bool :=
  u.isAudio && u.resultAt "320" ≠ "" &&
    decide ((linkedCIDs waveformVersion t u).length < u.counted.length)

def nextWaveformUploadBatch (uploads : List WaveformUpload) (t : WaveformTable)
    (cursor : Option (Int × String)) (limit : Nat) : List WaveformUpload :=
  let rows := uploads.filter fun u => outstanding waveformVersion t u &&
    cursor.all fun c => decide (u.createdAt < c.1 ∨ u.createdAt = c.1 ∧ u.id < c.2)
  (rows.insertionSort fun a b =>
    b.createdAt < a.createdAt ∨ b.createdAt = a.createdAt ∧ b.id ≤ a.id).take limit

/-- The blobs of an upload whose row is linked to another one, or to none. -/
def strayCIDs (t : WaveformTable) (u : WaveformUpload) : List String :=
  u.counted.filter fun cid => (t.lookup cid).bind WaveformRow.uploadID ≠ some u.id

/-- The rows of an upload that are for other blobs. -/
def otherCIDs (t : WaveformTable) (u : WaveformUpload) : List String :=
  (linkedCIDs waveformVersion t u).filter fun cid => cid ∉ u.counted

variable {waveformVersion} {t : WaveformTable} {u : WaveformUpload}

theorem mem_linkedCIDs {cid : String} : cid ∈ linkedCIDs waveformVersion t u ↔
    ∃ row, t.lookup cid = some row ∧ row.version = waveformVersion ∧ row.uploadID = some u.id := by
  rw [linkedCIDs, ← AList.mem_keys, ← AList.lookup_isSome, Option.isSome_iff_exists]
  simp only [Table.lookup_filter_eq_some, decide_eq_true_eq]

/-- Rows and blobs are compared by those of each that have no counterpart. -/
theorem length_linkedCIDs_lt_iff (h : ∀ cid ∈ u.counted, ∃ row, t.lookup cid = some row ∧
    row.version = waveformVersion) :
    (linkedCIDs waveformVersion t u).length < u.counted.length ↔
      (otherCIDs waveformVersion t u).length < (strayCIDs t u).length := by
  have hrows := (linkedCIDs waveformVersion t u).length_eq_length_filter_add fun cid => cid ∈ u.counted
  have hblobs := u.counted.length_eq_length_filter_add
    fun cid => (t.lookup cid).bind WaveformRow.uploadID = some u.id
  have hboth : ((linkedCIDs waveformVersion t u).filter fun cid => cid ∈ u.counted).Perm
      (u.counted.filter fun cid => (t.lookup cid).bind WaveformRow.uploadID = some u.id) := by
    have hlinked : (linkedCIDs waveformVersion t u).Nodup := AList.keys_nodup _
    refine (List.perm_ext_iff_of_nodup (hlinked.filter _) (u.nodup_counted.filter _)).mpr
      fun cid => ?_
    rw [List.mem_filter, List.mem_filter, mem_linkedCIDs, decide_eq_true_eq, decide_eq_true_eq]
    constructor
    · rintro ⟨⟨row, hrow, -, hupload⟩, hcid⟩
      exact ⟨hcid, by rw [hrow]; exact hupload⟩
    · rintro ⟨hcid, hupload⟩
      obtain ⟨row, hrow, hversion⟩ := h cid hcid
      rw [hrow] at hupload
      exact ⟨⟨row, hrow, hversion, hupload⟩, hcid⟩
  have hlength := hboth.length_eq
  simp only [otherCIDs, strayCIDs, ne_eq, decide_not] at hrows hblobs ⊢
  omega

/-- Every blob of an audio upload has a row at this version, which is linked to an upload that has
the blob. -/
def Analyzed (waveformVersion : Nat) (uploads : List WaveformUpload) (t : WaveformTable) : Prop :=
  ∀ u ∈ uploads, u.isAudio → ∀ job ∈ u.waveformTargets,
    ∃ row, t.lookup job.cid = some row ∧ row.version = waveformVersion ∧
      ∃ v ∈ uploads, row.uploadID = some v.id ∧ job.cid ∈ v.waveformTargets.map WaveformJob.cid

/-- When everything has been analyzed the walk finds nothing just if no upload has fewer rows for
other blobs than it has blobs whose row is linked elsewhere. -/
theorem walk_finds_nothing_iff {uploads : List WaveformUpload}
    (hanalyzed : Analyzed waveformVersion uploads t) {limit : Nat} (hlimit : 0 < limit) :
    nextWaveformUploadBatch waveformVersion uploads t none limit = [] ↔
      ∀ u ∈ uploads, u.isAudio → u.resultAt "320" ≠ "" →
        (strayCIDs t u).length ≤ (otherCIDs waveformVersion t u).length := by
  have hempty : nextWaveformUploadBatch waveformVersion uploads t none limit = [] ↔
      ∀ u ∈ uploads, outstanding waveformVersion t u = false := by
    rw [nextWaveformUploadBatch, List.take_eq_nil_iff, or_iff_right hlimit.ne',
      ← List.length_eq_zero_iff, List.length_insertionSort, List.length_eq_zero_iff]
    simp [List.filter_eq_nil_iff]
  rw [hempty]
  refine forall₂_congr fun u hu => ?_
  by_cases haudio : u.isAudio
  · have hrows : ∀ cid ∈ u.counted, ∃ row, t.lookup cid = some row ∧
        row.version = waveformVersion := by
      intro cid hcid
      obtain ⟨job, hjob, rfl⟩ := List.mem_map.mp (u.counted_subset hcid)
      obtain ⟨row, hrow, hversion, -⟩ := hanalyzed u hu haudio job hjob
      exact ⟨row, hrow, hversion⟩
    simp [outstanding, haudio, length_linkedCIDs_lt_iff hrows]
  · simp [outstanding, haudio]

end Writes

/-! ### One blob of two uploads -/

def oneBlobUpload (id cid : String) : WaveformUpload where
  id := id
  isAudio := true
  createdAt := 0
  transcodeResults := Table.insertNew ∅ "320" cid

def sharedUpload (id : String) : WaveformUpload := oneBlobUpload id "c"

def flat : WaveformResult := ⟨[], 44100, 0, 0⟩

def sharedRow : WaveformTable := upsertWaveform 1 ∅ "c" "u" flat

theorem own_row_not_found :
    let uploads := [oneBlobUpload "u" "c", oneBlobUpload "v" "d"]
    let rows := upsertWaveform 1 sharedRow "d" "v" flat
    Analyzed 1 uploads rows ∧ nextWaveformUploadBatch 1 uploads rows none 1 = [] := by
  intro uploads rows
  have hanalyzed : Analyzed 1 uploads rows := by
    intro u hu _ job hjob
    rcases List.mem_pair.mp hu with rfl | rfl
    · obtain rfl := List.mem_singleton.mp hjob
      exact ⟨_, rfl, rfl, _, hu, rfl, List.mem_singleton_self _⟩
    · obtain rfl := List.mem_singleton.mp hjob
      exact ⟨_, rfl, rfl, _, hu, rfl, List.mem_singleton_self _⟩
  refine ⟨hanalyzed, (walk_finds_nothing_iff hanalyzed (by decide)).mpr fun u hu _ _ => ?_⟩
  rcases List.mem_pair.mp hu with rfl | rfl <;> decide +kernel

/-- The row of the blob is linked to the first upload, and the second one is found by every walk. -/
theorem shared_blob_found_again : Analyzed 1 (["u", "v"].map sharedUpload) sharedRow ∧
    (nextWaveformUploadBatch 1 (["u", "v"].map sharedUpload) sharedRow none 1).map
      WaveformUpload.id = ["v"] := by
  refine ⟨fun u hu _ job hjob => ?_, by decide +kernel⟩
  rcases List.mem_pair.mp hu with rfl | rfl
  · obtain rfl := List.mem_singleton.mp hjob
    exact ⟨_, rfl, rfl, sharedUpload "u", List.mem_cons_self, rfl, List.mem_singleton_self _⟩
  · obtain rfl := List.mem_singleton.mp hjob
    exact ⟨_, rfl, rfl, sharedUpload "u", List.mem_cons_self, rfl, List.mem_singleton_self _⟩

end OpenAudio.Mediorum
