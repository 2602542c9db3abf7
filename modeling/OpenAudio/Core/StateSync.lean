import Mathlib.Data.List.Dedup
import OpenAudio.Core.Server

/-!
# State sync

A node that joins restores a snapshot that its peers serve. CometBFT offers it one snapshot after
another and hands it chunks in any order, from any peer. The node keeps the chunks as files until it
has them all, then joins them to a dump and restores the database from it. The files are found by
height and index alone, and they outlive the offer they came with.
-/

namespace OpenAudio.Core

/-- `abci.Snapshot` -/
structure Snapshot where
  height : Nat
  format : Nat
  chunks : Nat
  hash : Bytes
  metadata : Bytes
deriving DecidableEq

/-- The `Metadata` a snapshot carries as JSON. -/
structure SnapshotMetadata where
  sender : String
  chainID : String
deriving DecidableEq

/-- The libraries state sync calls. -/
structure SnapshotCodec where
  /-- `json.Unmarshal` of a `Metadata` -/
  unmarshal : Bytes → Option SnapshotMetadata
  /-- `json.Marshal` of a `Metadata` -/
  marshal : SnapshotMetadata → Option Bytes
  /-- what `gzip` reads from a chunk -/
  gunzip : Bytes → Option Bytes

/-! ### The reconstruction directory -/

/-- `metadata.json`: there is none, it is no snapshot, or it holds one. -/
inductive OfferedFile where
  | absent
  | broken
  | stored (snapshot : Snapshot)
deriving DecidableEq

/-- What state sync keeps: two fields of the node, `metadata.json`, and the chunk files, each under
the directory of its height and the name of its index. -/
structure StateSync where
  acceptedSnapshotHeight : Nat := 0
  acceptedSnapshotHash : Option Bytes := none
  offered : OfferedFile := .absent
  chunkFiles : Table (Nat × Nat) Bytes := ∅

/-- What is left of `metadata.json` if it cannot be written. -/
inductive WriteFault where
  | kept
  | broken

/-- What is left of the directory if it cannot be removed. -/
structure Leftover where
  offered : Bool
  chunkFile : Nat × Nat → Bool

/-- What goes wrong with the files and the database while a chunk is applied. -/
structure ChunkFaults where
  readOffered : Bool := false
  storeOffered : Option WriteFault := none
  stat : Bool := false
  /-- a chunk file that cannot be written is left as it was, or with a part of the chunk -/
  storeChunk : Option (Option Bytes) := none
  readDir : Bool := false
  reassemble : Bool := false
  restore : Bool := false
  cleanup : Option Leftover := none

/-- `chunk_%06d.gz` -/
def chunkFileName (index : Nat) : String := "chunk_" ++ paddedDecimal 6 index ++ ".gz"

namespace StateSync

variable (st : StateSync)

/-- `StoreOfferedSnapshot`, and whether it succeeds. -/
def storeOfferedSnapshot (snapshot : Snapshot) : Option WriteFault → Bool × StateSync
  | none => (true, { st with offered := .stored snapshot })
  | some .kept => (false, st)
  | some .broken => (false, { st with offered := .broken })

def getOfferedSnapshot (fault : Bool) : Option Snapshot :=
  match st.offered with
  | .stored snapshot => if fault then none else some snapshot
  | _ => none

def chunkExists (height index : Nat) (fault : Bool) : Bool :=
  !fault && (st.chunkFiles.lookup (height, index)).isSome

/-- `StoreChunkForReconstruction`, and whether it succeeds. -/
def storeChunkForReconstruction (height index : Nat) (chunk : Bytes) :
    Option (Option Bytes) → Bool × StateSync
  | none => (true, { st with chunkFiles := st.chunkFiles.insert (height, index) chunk })
  | some none => (false, st)
  | some (some part) => (false, { st with chunkFiles := st.chunkFiles.insert (height, index) part })

/-- The chunk files of a height, in the order of their names. -/
def chunksAt (height : Nat) : List (Nat × Bytes) :=
  ((st.chunkFiles.entries.filter fun e => e.1.1 == height).map fun e => (e.1.2, e.2)).insertionSort
    fun f f' => chunkFileName f.1 ≤ chunkFileName f'.1

def haveAllChunks (height total : Nat) (fault : Bool) : Bool :=
  !fault && (((st.chunksAt height).map (·.1)).filter fun i => decide (i < total)).dedup.length == total

/-- `ReassemblePgDump`: the dump it writes. -/
def reassemblePgDump (codec : SnapshotCodec) (height : Nat) (fault : Bool) : Option Bytes :=
  if fault then none
  else (((st.chunksAt height).map (·.2)).mapM codec.gunzip).map List.flatten

def cleanupStateSync : Option Leftover → StateSync
  | none => { st with offered := .absent, chunkFiles := ∅ }
  | some left =>
    { st with
      offered := if left.offered then st.offered else .absent
      chunkFiles := st.chunkFiles.filter fun k _ => left.chunkFile k }

def clearAccepted : StateSync :=
  { st with acceptedSnapshotHeight := 0, acceptedSnapshotHash := none }

end StateSync

/-! ### The calls of CometBFT -/

inductive OfferSnapshotResult where
  | accept
  | reject
deriving DecidableEq

inductive ApplySnapshotChunkResult where
  | accept
  | retry
  | rejectSnapshot
deriving DecidableEq

structure ApplySnapshotChunkResponse where
  result : ApplySnapshotChunkResult
  rejectSenders : List String := []
deriving DecidableEq

structure ApplySnapshotChunkRequest where
  index : Nat
  chunk : Bytes
  sender : String

/-- What a chunk leads to: the response, the dump the database is restored from if it is, and the
state after. -/
structure ChunkOutcome where
  response : ApplySnapshotChunkResponse
  restored : Option Bytes
  state : StateSync

namespace StateSync

def offerSnapshot (st : StateSync) (snapshot : Snapshot) (fault : Option WriteFault) :
    OfferSnapshotResult × StateSync :=
  if st.acceptedSnapshotHeight ≠ 0 then
    let st := if snapshot.height ≠ st.acceptedSnapshotHeight then st.clearAccepted else st
    if snapshot.hash ≠ st.acceptedSnapshotHash.getD [] then (.reject, st)
    -- the same snapshot again; that its metadata cannot be stored is only logged
    else (.accept, (st.storeOfferedSnapshot snapshot fault).2)
  else
    match st.storeOfferedSnapshot snapshot fault with
    | (false, st) => (.reject, st)
    | (true, st) =>
      (.accept, { st with
        acceptedSnapshotHeight := snapshot.height
        acceptedSnapshotHash := some snapshot.hash })

end StateSync

namespace Server

variable (s : Server) (codec : SnapshotCodec)

/-- The checks of `ApplySnapshotChunk`: the snapshot the chunk is for, or the refusal. Another
sender than the metadata names is taken for a snapshot that was accepted, and named from then on. -/
def checkChunk (st : StateSync) (req : ApplySnapshotChunkRequest) (faults : ChunkFaults) :
    Except ApplySnapshotChunkResponse (Snapshot × StateSync) :=
  match st.getOfferedSnapshot faults.readOffered with
  | none => .error { result := .retry }
  | some snapshot =>
    match codec.unmarshal snapshot.metadata with
    | none => .error { result := .rejectSnapshot }
    | some metadata =>
      if metadata.chainID ≠ s.config.chainID then .error { result := .rejectSnapshot }
      else if s.rt.equalFold metadata.sender req.sender then .ok (snapshot, st)
      else if st.acceptedSnapshotHash = some snapshot.hash ∧
          st.acceptedSnapshotHeight = snapshot.height then
        match codec.marshal { metadata with sender := req.sender } with
        | none => .ok (snapshot, st)
        | some bytes =>
          let snapshot := { snapshot with metadata := bytes }
          .ok (snapshot, (st.storeOfferedSnapshot snapshot faults.storeOffered).2)
      else .error { result := .retry, rejectSenders := [req.sender] }

/-- The chunk is stored unless there is a file for it. -/
def takeChunk (st : StateSync) (height : Nat) (req : ApplySnapshotChunkRequest)
    (faults : ChunkFaults) : Bool × StateSync :=
  if st.chunkExists height req.index faults.stat then (true, st)
  else st.storeChunkForReconstruction height req.index req.chunk faults.storeChunk

def restoreSnapshot (st : StateSync) (snapshot : Snapshot) (faults : ChunkFaults) : ChunkOutcome :=
  if st.haveAllChunks snapshot.height snapshot.chunks faults.readDir then
    match st.reassemblePgDump codec snapshot.height faults.reassemble with
    | none => ⟨{ result := .retry }, none, st⟩
    | some dump =>
      if faults.restore then ⟨{ result := .retry }, some dump, st⟩
      else ⟨{ result := .accept }, some dump, (st.cleanupStateSync faults.cleanup).clearAccepted⟩
  else ⟨{ result := .accept }, none, st⟩

def applySnapshotChunk (st : StateSync) (req : ApplySnapshotChunkRequest) (faults : ChunkFaults) :
    ChunkOutcome :=
  match s.checkChunk codec st req faults with
  | .error response => ⟨response, none, st⟩
  | .ok (snapshot, st) =>
    match takeChunk st snapshot.height req faults with
    | (false, st) => ⟨{ result := .retry }, none, st⟩
    | (true, st) => restoreSnapshot codec st snapshot faults

end Server

/-! ### Runs -/

/-- A call, with what goes wrong during it. -/
inductive SnapshotCall where
  | offer (snapshot : Snapshot) (fault : Option WriteFault)
  | apply (req : ApplySnapshotChunkRequest) (faults : ChunkFaults)

/-- A run so far: the state, the offer accepted last, and the chunks that came since and were not
refused. -/
structure SyncRun where
  state : StateSync
  offer : Option Snapshot := none
  received : List (Nat × Bytes) := []

namespace SyncRun

def offered (r : SyncRun) (snapshot : Snapshot) (fault : Option WriteFault) : SyncRun :=
  match r.state.offerSnapshot snapshot fault with
  | (.accept, st) => ⟨st, some snapshot, []⟩
  | (.reject, st) => ⟨st, r.offer, r.received⟩

variable (s : Server) (codec : SnapshotCodec)

def applied (r : SyncRun) (req : ApplySnapshotChunkRequest) (faults : ChunkFaults) : SyncRun where
  state := (s.applySnapshotChunk codec r.state req faults).state
  offer := r.offer
  received :=
    match s.checkChunk codec r.state req faults with
    | .error _ => r.received
    | .ok _ => r.received ++ [(req.index, req.chunk)]

def step (r : SyncRun) : SnapshotCall → SyncRun
  | .offer snapshot fault => r.offered snapshot fault
  | .apply req faults => r.applied s codec req faults

/-- Every call of a run satisfies `P` in the state it is made in. -/
def EachCall (P : SyncRun → SnapshotCall → Prop) : SyncRun → List SnapshotCall → Prop
  | _, [] => True
  | r, call :: calls => P r call ∧ EachCall P (r.step s codec call) calls

/-- If the call restores the database, it does so from the chunks of the offer accepted last, in
their order, each one that came since. -/
def RestoresOffer (r : SyncRun) : SnapshotCall → Prop
  | .offer _ _ => True
  | .apply req faults => ∀ dump,
    (s.applySnapshotChunk codec r.state req faults).restored = some dump →
      ∃ (snapshot : Snapshot) (chunk : Nat → Bytes), r.offer = some snapshot ∧
        (∀ i < snapshot.chunks, (i, chunk i) ∈ (r.applied s codec req faults).received) ∧
        (((List.range snapshot.chunks).map chunk).mapM codec.gunzip).map List.flatten = some dump

/-- The offer is accepted if it can be stored. -/
def Admits (st : StateSync) (snapshot : Snapshot) : Prop :=
  st.acceptedSnapshotHeight = 0 ∨ snapshot.hash =
    if snapshot.height = st.acceptedSnapshotHeight then st.acceptedSnapshotHash.getD [] else []

/-- An offer that is accepted can be stored, finds no chunk file of its height, and has at most the
chunks the names have digits for. A chunk has an index of the snapshot, and is written whole or not
at all. -/
def Undisturbed (r : SyncRun) : SnapshotCall → Prop
  | .offer snapshot fault => Admits r.state snapshot →
    fault = none ∧ snapshot.chunks ≤ 10 ^ 6 ∧
      ∀ i, r.state.chunkFiles.lookup (snapshot.height, i) = none
  | .apply req faults =>
    (∀ snapshot, r.state.offered = .stored snapshot → req.index < snapshot.chunks) ∧
      ∀ part, faults.storeChunk ≠ some (some part)

end SyncRun

/-! ### The chunk files of a height -/

namespace StateSync

variable {st : StateSync} {height : Nat}

theorem mem_chunksAt {i : Nat} {data : Bytes} :
    (i, data) ∈ st.chunksAt height ↔ st.chunkFiles.lookup (height, i) = some data := by
  rw [chunksAt, List.mem_insertionSort, List.mem_map, ← Table.mem_entries_iff]
  constructor
  · rintro ⟨⟨⟨h, j⟩, d⟩, he, heq⟩
    rw [List.mem_filter, beq_iff_eq] at he
    obtain ⟨he, rfl⟩ := he
    cases heq
    exact he
  · intro he
    exact ⟨⟨(height, i), data⟩, List.mem_filter.mpr ⟨he, beq_self_eq_true _⟩, rfl⟩

theorem data_unique {i : Nat} {data data' : Bytes} (h : (i, data) ∈ st.chunksAt height)
    (h' : (i, data') ∈ st.chunksAt height) : data = data' :=
  Option.some.inj ((mem_chunksAt.mp h).symm.trans (mem_chunksAt.mp h'))

theorem nodup_chunksAt : (st.chunksAt height).Nodup := by
  rw [chunksAt, (List.perm_insertionSort _ _).nodup_iff]
  refine List.Nodup.map_on ?_ ((List.NodupKeys.nodup st.chunkFiles.nodupKeys).filter _)
  rintro ⟨⟨h, i⟩, d⟩ he ⟨⟨h', i'⟩, d'⟩ he' heq
  rw [List.mem_filter, beq_iff_eq] at he he'
  obtain ⟨-, rfl⟩ := he
  obtain ⟨-, rfl⟩ := he'
  cases heq
  rfl

theorem nodup_indexes : ((st.chunksAt height).map (·.1)).Nodup := by
  refine nodup_chunksAt.map_on ?_
  rintro ⟨i, data⟩ h ⟨i', data'⟩ h' (rfl : i = i')
  rw [data_unique h h']

theorem pairwise_indexes (hbound : ∀ f ∈ st.chunksAt height, f.1 < 10 ^ 6) :
    ((st.chunksAt height).map (·.1)).Pairwise (· ≤ ·) := by
  have hnames : (st.chunksAt height).Pairwise fun f f' =>
      chunkFileName f.1 ≤ chunkFileName f'.1 := List.pairwise_insertionSort _ _
  rw [List.pairwise_map]
  refine hnames.imp_of_mem fun {f f'} hf _ hle => ?_
  by_contra hlt
  exact (paddedDecimal_lt (hbound f hf) (not_le.mp hlt) "chunk_" ".gz").not_ge hle

theorem indexes_eq_range {total : Nat} {fault : Bool}
    (hall : st.haveAllChunks height total fault = true) (htotal : total ≤ 10 ^ 6)
    (hbound : ∀ f ∈ st.chunksAt height, f.1 < total) :
    (st.chunksAt height).map (·.1) = List.range total := by
  have hlt : ∀ i ∈ (st.chunksAt height).map (·.1), i < total := by
    intro i hi
    obtain ⟨f, hf, rfl⟩ := List.mem_map.mp hi
    exact hbound f hf
  have hlength : ((st.chunksAt height).map (·.1)).length = total := by
    rw [haveAllChunks, Bool.and_eq_true, beq_iff_eq,
      List.filter_eq_self.mpr fun i hi => decide_eq_true (hlt i hi),
      List.Nodup.dedup nodup_indexes] at hall
    exact hall.2
  have hperm : ((st.chunksAt height).map (·.1)).Perm (List.range total) := by
    apply (List.subperm_of_subset nodup_indexes fun i hi => ?_).perm_of_length_le
    · rw [List.length_range, hlength]
    · exact List.mem_range.mpr (hlt i hi)
  refine List.Perm.eq_of_pairwise (fun i j _ _ hij hji => le_antisymm hij hji)
    (pairwise_indexes fun f hf => (hbound f hf).trans_le htotal) ?_ hperm
  exact List.pairwise_lt_range.imp fun h => h.le

theorem reassemblePgDump_eq {codec : SnapshotCodec} {total : Nat} {fault fault' : Bool} {dump : Bytes}
    (hall : st.haveAllChunks height total fault = true) (htotal : total ≤ 10 ^ 6)
    (hbound : ∀ f ∈ st.chunksAt height, f.1 < total)
    (h : st.reassemblePgDump codec height fault' = some dump) :
    ∃ chunk : Nat → Bytes,
      (∀ i < total, st.chunkFiles.lookup (height, i) = some (chunk i)) ∧
      (((List.range total).map chunk).mapM codec.gunzip).map List.flatten = some dump := by
  have hrange := indexes_eq_range hall htotal hbound
  refine ⟨fun i => (st.chunkFiles.lookup (height, i)).getD [], fun i hi => ?_, ?_⟩
  · rw [← List.mem_range, ← hrange] at hi
    obtain ⟨⟨j, data⟩, hf, rfl⟩ := List.mem_map.mp hi
    dsimp only
    rw [mem_chunksAt.mp hf, Option.getD_some]
  · have hdata : (st.chunksAt height).map (·.2) =
        (List.range total).map fun i => (st.chunkFiles.lookup (height, i)).getD [] := by
      rw [← hrange, List.map_map]
      refine List.map_congr_left fun f hf => ?_
      rw [Function.comp_apply, mem_chunksAt.mp hf, Option.getD_some]
    rw [reassemblePgDump] at h
    split at h
    · cases h
    · rw [← hdata]
      exact h

/-! ### What a call does -/

theorem storeOfferedSnapshot_chunkFiles (snapshot : Snapshot) (fault : Option WriteFault) :
    (st.storeOfferedSnapshot snapshot fault).2.chunkFiles = st.chunkFiles := by
  rcases fault with _ | _ | _ <;> rfl

theorem stored_of_storeOfferedSnapshot {snapshot stored : Snapshot} {fault : Option WriteFault}
    (h : (st.storeOfferedSnapshot snapshot fault).2.offered = .stored stored) :
    stored = snapshot ∨ st.offered = .stored stored := by
  rcases fault with _ | _ | _
  · cases h
    exact .inl rfl
  · exact .inr h
  · cases h

/-- An offer that is admitted and can be stored is accepted; another is rejected and leaves the files
as they are. -/
theorem offerSnapshot_cases (st : StateSync) (snapshot : Snapshot) :
    (SyncRun.Admits st snapshot ∧ ∃ st', st.offerSnapshot snapshot none = (.accept, st') ∧
      st'.offered = .stored snapshot ∧ st'.chunkFiles = st.chunkFiles) ∨
    (¬ SyncRun.Admits st snapshot ∧ ∀ fault, ∃ st', st.offerSnapshot snapshot fault = (.reject, st') ∧
      st'.offered = st.offered ∧ st'.chunkFiles = st.chunkFiles) := by
  by_cases hzero : st.acceptedSnapshotHeight = 0
  · refine .inl ⟨.inl hzero, { st with
      acceptedSnapshotHeight := snapshot.height
      acceptedSnapshotHash := some snapshot.hash
      offered := .stored snapshot }, ?_, rfl, rfl⟩
    rw [offerSnapshot, if_neg (not_not.mpr hzero)]
    rfl
  · obtain ⟨st', hst', hhash, hoffered, hfiles⟩ : ∃ st',
        (if snapshot.height ≠ st.acceptedSnapshotHeight then st.clearAccepted else st) = st' ∧
        st'.acceptedSnapshotHash.getD [] = (if snapshot.height = st.acceptedSnapshotHeight then
          st.acceptedSnapshotHash.getD [] else []) ∧
        st'.offered = st.offered ∧ st'.chunkFiles = st.chunkFiles := by
      refine ⟨_, rfl, ?_⟩
      by_cases hheight : snapshot.height = st.acceptedSnapshotHeight
      · simp [hheight]
      · simp [hheight, clearAccepted]
    have hadmits : SyncRun.Admits st snapshot ↔
        snapshot.hash = st'.acceptedSnapshotHash.getD [] := by
      rw [SyncRun.Admits, hhash, or_iff_right hzero]
    by_cases heq : snapshot.hash = st'.acceptedSnapshotHash.getD []
    · refine .inl ⟨hadmits.mpr heq, { st' with offered := .stored snapshot }, ?_, rfl, hfiles⟩
      rw [offerSnapshot, if_pos hzero, hst', if_neg (not_not.mpr heq)]
      rfl
    · refine .inr ⟨fun h => heq (hadmits.mp h), fun fault => ⟨st', ?_, hoffered, hfiles⟩⟩
      rw [offerSnapshot, if_pos hzero, hst', if_pos heq]

end StateSync

namespace Server

variable {s : Server} {codec : SnapshotCodec} {st st' : StateSync} {snapshot : Snapshot}
  {req : ApplySnapshotChunkRequest} {faults : ChunkFaults}

/-- A chunk that is not refused is for the snapshot that is stored, whatever sender that names. -/
theorem checkChunk_eq_ok (h : s.checkChunk codec st req faults = .ok (snapshot, st')) :
    ∃ stored, st.offered = .stored stored ∧
      (snapshot.height = stored.height ∧ snapshot.chunks = stored.chunks) ∧
      st'.chunkFiles = st.chunkFiles ∧ ∀ stored', st'.offered = .stored stored' →
        stored'.height = stored.height ∧ stored'.chunks = stored.chunks := by
  unfold checkChunk at h
  split at h
  · cases h
  rename_i stored hstored
  have hoffered : st.offered = .stored stored := by
    unfold StateSync.getOfferedSnapshot at hstored
    split at hstored
    · rename_i hfile
      split at hstored <;> cases hstored
      exact hfile
    · cases hstored
  refine ⟨stored, hoffered, ?_⟩
  have hsame : ∀ stored', st.offered = .stored stored' →
      stored'.height = stored.height ∧ stored'.chunks = stored.chunks := by
    intro stored' h'
    cases hoffered.symm.trans h'
    exact ⟨rfl, rfl⟩
  split at h
  · cases h
  split at h
  · cases h
  split at h
  · cases h
    exact ⟨⟨rfl, rfl⟩, rfl, hsame⟩
  split at h
  · split at h
    · cases h
      exact ⟨⟨rfl, rfl⟩, rfl, hsame⟩
    · cases h
      refine ⟨⟨rfl, rfl⟩, StateSync.storeOfferedSnapshot_chunkFiles _ _, fun stored' h' => ?_⟩
      rcases StateSync.stored_of_storeOfferedSnapshot h' with rfl | h'
      · exact ⟨rfl, rfl⟩
      · exact hsame stored' h'
  · cases h

theorem takeChunk_spec (st : StateSync) (height : Nat) (req : ApplySnapshotChunkRequest)
    (hwhole : ∀ part, faults.storeChunk ≠ some (some part)) :
    (takeChunk st height req faults).2.offered = st.offered ∧ ∀ k data,
      (takeChunk st height req faults).2.chunkFiles.lookup k = some data →
        st.chunkFiles.lookup k = some data ∨ k = (height, req.index) ∧ data = req.chunk := by
  unfold takeChunk
  split
  · exact ⟨rfl, fun k data h => .inl h⟩
  · match hfault : faults.storeChunk with
    | none =>
      refine ⟨rfl, fun k data h => ?_⟩
      change (st.chunkFiles.insert (height, req.index) req.chunk).lookup k = some data at h
      rw [Table.lookup_insert_eq] at h
      split at h
      · rename_i hk
        exact .inr ⟨hk, (Option.some.inj h).symm⟩
      · exact .inl h
    | some none => exact ⟨rfl, fun k data h => .inl h⟩
    | some (some part) => exact absurd hfault (hwhole part)

theorem restoreSnapshot_state (codec : SnapshotCodec) (st : StateSync) (snapshot : Snapshot)
    (faults : ChunkFaults) :
    (∀ stored, (restoreSnapshot codec st snapshot faults).state.offered = .stored stored →
      st.offered = .stored stored) ∧ ∀ k data,
      (restoreSnapshot codec st snapshot faults).state.chunkFiles.lookup k = some data →
        st.chunkFiles.lookup k = some data := by
  unfold restoreSnapshot
  split
  · split
    · exact ⟨fun _ h => h, fun _ _ h => h⟩
    · split
      · exact ⟨fun _ h => h, fun _ _ h => h⟩
      · match faults.cleanup with
        | none => exact ⟨fun stored h => (by cases h), fun k data h => (by cases h)⟩
        | some left =>
          constructor
          · intro stored h
            change (if left.offered then st.offered else .absent) = OfferedFile.stored stored at h
            split at h
            · exact h
            · cases h
          · intro k data h
            exact ((Table.lookup_filter_eq_some _ _ k data).mp h).1
  · exact ⟨fun _ h => h, fun _ _ h => h⟩

theorem restoreSnapshot_restored {dump : Bytes}
    (h : (restoreSnapshot codec st snapshot faults).restored = some dump) :
    st.haveAllChunks snapshot.height snapshot.chunks faults.readDir = true ∧
      st.reassemblePgDump codec snapshot.height faults.reassemble = some dump := by
  unfold restoreSnapshot at h
  split at h
  · rename_i hall
    refine ⟨hall, ?_⟩
    split at h
    · cases h
    · rename_i dump' hdump
      split at h <;> cases h <;> exact hdump
  · cases h

theorem applySnapshotChunk_cases (s : Server) (codec : SnapshotCodec) (st : StateSync)
    (req : ApplySnapshotChunkRequest) (faults : ChunkFaults) :
    (∃ response, s.checkChunk codec st req faults = .error response ∧
      s.applySnapshotChunk codec st req faults = ⟨response, none, st⟩) ∨
    ∃ snapshot st', s.checkChunk codec st req faults = .ok (snapshot, st') ∧
      (s.applySnapshotChunk codec st req faults =
          ⟨{ result := .retry }, none, (takeChunk st' snapshot.height req faults).2⟩ ∨
        s.applySnapshotChunk codec st req faults =
          restoreSnapshot codec (takeChunk st' snapshot.height req faults).2 snapshot faults) := by
  unfold applySnapshotChunk
  match s.checkChunk codec st req faults with
  | .error response => exact .inl ⟨response, rfl, rfl⟩
  | .ok (snapshot, st') =>
    refine .inr ⟨snapshot, st', rfl, ?_⟩
    dsimp only
    match takeChunk st' snapshot.height req faults with
    | (false, _) => exact .inl rfl
    | (true, _) => exact .inr rfl

end Server

/-! ### Runs from fresh offers -/

namespace SyncRun

theorem eachCall_append {s : Server} {codec : SnapshotCodec} {P : SyncRun → SnapshotCall → Prop}
    {r : SyncRun} {calls calls' : List SnapshotCall} :
    EachCall s codec P r (calls ++ calls') ↔ EachCall s codec P r calls ∧
      EachCall s codec P (calls.foldl (step s codec) r) calls' := by
  induction calls generalizing r with
  | nil => simp [EachCall]
  | cons call calls ih => exact (and_congr_right fun _ => ih).trans and_assoc.symm

/-- The stored snapshot is the offer accepted last, and the chunk files of its height are chunks of
it that came since. -/
structure Traced (r : SyncRun) : Prop where
  offer : ∀ stored, r.state.offered = .stored stored → ∃ snapshot, r.offer = some snapshot ∧
    stored.height = snapshot.height ∧ stored.chunks = snapshot.chunks
  bounded : ∀ snapshot, r.offer = some snapshot → snapshot.chunks ≤ 10 ^ 6
  files : ∀ snapshot, r.offer = some snapshot → ∀ i data,
    r.state.chunkFiles.lookup (snapshot.height, i) = some data →
      (i, data) ∈ r.received ∧ i < snapshot.chunks

variable {s : Server} {codec : SnapshotCodec} {r : SyncRun}

theorem Traced.offered (h : r.Traced) {snapshot : Snapshot} {fault : Option WriteFault}
    (hcall : r.Undisturbed (.offer snapshot fault)) : (r.offered snapshot fault).Traced := by
  unfold SyncRun.offered
  rcases r.state.offerSnapshot_cases snapshot with
    ⟨hadmits, st, hoffer, hstored, hfiles⟩ | ⟨-, hoffer⟩
  · obtain ⟨rfl, hchunks, hfresh⟩ := hcall hadmits
    rw [hoffer]
    refine ⟨fun stored h' => ?_, fun snapshot' h' => ?_, fun snapshot' h' i data hdata => ?_⟩
    · cases hstored.symm.trans h'
      exact ⟨snapshot, rfl, rfl, rfl⟩
    · cases h'
      exact hchunks
    · cases h'
      change st.chunkFiles.lookup _ = _ at hdata
      rw [hfiles, hfresh i] at hdata
      cases hdata
  · obtain ⟨st, hoffer, hstored, hfiles⟩ := hoffer fault
    rw [hoffer]
    refine ⟨fun stored h' => h.offer stored (hstored.symm.trans h'), h.bounded,
      fun snapshot' h' i data hdata => h.files snapshot' h' i data ?_⟩
    rw [← hfiles]
    exact hdata

theorem Traced.taken (h : r.Traced) {req : ApplySnapshotChunkRequest} {faults : ChunkFaults}
    (hcall : r.Undisturbed (.apply req faults)) {snapshot : Snapshot} {st : StateSync}
    (hcheck : s.checkChunk codec r.state req faults = .ok (snapshot, st)) :
    (∃ offer, r.offer = some offer ∧ snapshot.height = offer.height ∧
      snapshot.chunks = offer.chunks) ∧
    Traced ⟨(Server.takeChunk st snapshot.height req faults).2, r.offer,
      r.received ++ [(req.index, req.chunk)]⟩ := by
  obtain ⟨stored, hstored, ⟨hheight, hchunks⟩, hfiles, hsame⟩ := Server.checkChunk_eq_ok hcheck
  obtain ⟨offer, hoffer, hheight', hchunks'⟩ := h.offer stored hstored
  obtain ⟨htaken, hnew⟩ := Server.takeChunk_spec st snapshot.height req hcall.2
  refine ⟨⟨offer, hoffer, hheight.trans hheight', hchunks.trans hchunks'⟩, fun stored' h' => ?_,
    h.bounded, fun offer' h' i data hdata => ?_⟩
  · obtain ⟨h₁, h₂⟩ := hsame stored' (htaken.symm.trans h')
    exact ⟨offer, hoffer, h₁.trans hheight', h₂.trans hchunks'⟩
  · cases hoffer.symm.trans h'
    rcases hnew _ _ hdata with hold | ⟨hkey, rfl⟩
    · rw [hfiles] at hold
      obtain ⟨hmem, hlt⟩ := h.files offer hoffer i data hold
      exact ⟨List.mem_append_left _ hmem, hlt⟩
    · obtain rfl : i = req.index := congrArg Prod.snd hkey
      exact ⟨List.mem_append_right _ List.mem_cons_self, hchunks' ▸ hcall.1 stored hstored⟩

theorem Traced.applied (h : r.Traced) {req : ApplySnapshotChunkRequest} {faults : ChunkFaults}
    (hcall : r.Undisturbed (.apply req faults)) :
    (r.applied s codec req faults).Traced ∧ r.RestoresOffer s codec (.apply req faults) := by
  rcases s.applySnapshotChunk_cases codec r.state req faults with
    ⟨response, hcheck, happly⟩ | ⟨snapshot, st, hcheck, happly⟩
  · simp only [SyncRun.applied, RestoresOffer, hcheck, happly]
    exact ⟨h, fun dump hdump => (by cases hdump)⟩
  obtain ⟨⟨offer, hoffer, hheight, hchunks⟩, htraced⟩ := h.taken hcall hcheck
  rcases happly with happly | happly <;>
    simp only [SyncRun.applied, RestoresOffer, hcheck, happly]
  · exact ⟨htraced, fun dump hdump => (by cases hdump)⟩
  generalize (Server.takeChunk st snapshot.height req faults).2 = st' at htraced
  obtain ⟨hstored, hfiles⟩ := Server.restoreSnapshot_state codec st' snapshot faults
  refine ⟨⟨fun stored h' => htraced.offer stored (hstored stored h'), htraced.bounded,
    fun offer' h' i data hdata => htraced.files offer' h' i data (hfiles _ _ hdata)⟩,
    fun dump hdump => ?_⟩
  obtain ⟨hall, hdump⟩ := Server.restoreSnapshot_restored hdump
  rw [hheight] at hall hdump
  rw [hchunks] at hall
  have hbound : ∀ f ∈ st'.chunksAt offer.height, f.1 < offer.chunks := fun f hf =>
    (htraced.files offer hoffer f.1 f.2 (StateSync.mem_chunksAt.mp hf)).2
  obtain ⟨chunk, hchunk, hdump⟩ :=
    StateSync.reassemblePgDump_eq hall (htraced.bounded offer hoffer) hbound hdump
  exact ⟨offer, chunk, hoffer, fun i hi => (htraced.files offer hoffer i _ (hchunk i hi)).1, hdump⟩

/-- A run from an empty directory in which every offer finds no chunk of its height restores what
was offered and nothing else. -/
theorem restoresOffer_of_undisturbed {st : StateSync} (hst : st.offered = .absent)
    {calls : List SnapshotCall} (h : EachCall s codec Undisturbed ⟨st, none, []⟩ calls) :
    EachCall s codec (RestoresOffer s codec) ⟨st, none, []⟩ calls := by
  have hstart : Traced ⟨st, none, []⟩ :=
    ⟨fun stored h' => (by cases hst.symm.trans h'), fun _ h' => (by cases h'),
      fun _ h' => (by cases h')⟩
  generalize (⟨st, none, []⟩ : SyncRun) = r at h hstart
  induction calls generalizing r with
  | nil => trivial
  | cons call calls ih =>
    obtain ⟨hcall, hrest⟩ := h
    cases call with
    | offer snapshot fault => exact ⟨trivial, ih _ hrest (hstart.offered hcall)⟩
    | apply req faults =>
      obtain ⟨htraced, hrestores⟩ := hstart.applied hcall
      exact ⟨hrestores, ih _ hrest htraced⟩

/-! ### A snapshot of two chunks -/

def metadataText (sender : String) : Bytes :=
  textBytes ("\x7b\"sender\":\"" ++ sender ++ "\",\"chain_id\":\"openaudio-devnet\"\x7d")

def gzipX : Bytes := bigEndian 21 0x1f8b0800000000000203ab00008316dc8c01000000

def gzipY : Bytes := bigEndian 21 0x1f8b0800000000000203ab04001526dbfb01000000

def gzipZ : Bytes := bigEndian 21 0x1f8b0800000000000203ab0200af77d26201000000

def recordedCodec : SnapshotCodec where
  unmarshal b := [(metadataText "a", ⟨"a", "openaudio-devnet"⟩)].lookup b
  marshal m := some (metadataText m.sender)
  gunzip b := [(gzipX, textBytes "x"), (gzipY, textBytes "y"), (gzipZ, textBytes "z")].lookup b

def offeredBy (sender : String) : Snapshot := ⟨10, 1, 2, [7], metadataText sender⟩

def syncingNode : Server := .devnet {} Db.empty

def outOfOrder : List SnapshotCall :=
  [.offer (offeredBy "a") none, .apply ⟨1, gzipZ, "a"⟩ {}, .apply ⟨0, gzipY, "a"⟩ {}]

theorem restoresOffer_out_of_order :
    EachCall syncingNode recordedCodec Undisturbed ⟨{}, none, []⟩ outOfOrder ∧
      EachCall syncingNode recordedCodec (RestoresOffer syncingNode recordedCodec) ⟨{}, none, []⟩
        outOfOrder := by
  have hcalls : EachCall syncingNode recordedCodec Undisturbed ⟨{}, none, []⟩ outOfOrder := by
    refine ⟨fun _ => ⟨rfl, by decide, fun i => rfl⟩, ⟨fun snapshot h => ?_, fun part h => by cases h⟩,
      ⟨fun snapshot h => ?_, fun part h => by cases h⟩, trivial⟩
    · cases h
      decide
    · cases h
      decide
  exact ⟨hcalls, restoresOffer_of_undisturbed rfl hcalls⟩

/-- The snapshot has two chunks, and a third one is sent. -/
def oneTooMany : List SnapshotCall :=
  [.offer (offeredBy "a") none, .apply ⟨0, gzipY, "a"⟩ {}, .apply ⟨2, gzipX, "a"⟩ {}]

/-- A chunk whose index the snapshot does not have is stored, and the database is restored from it
too. -/
theorem restores_chunk_past_snapshot :
    (syncingNode.applySnapshotChunk recordedCodec
        (oneTooMany.foldl (step syncingNode recordedCodec) ⟨{}, none, []⟩).state
        ⟨1, gzipZ, "a"⟩ {}).restored = some (textBytes "yzx") ∧
      ¬ EachCall syncingNode recordedCodec (RestoresOffer syncingNode recordedCodec) ⟨{}, none, []⟩
        (oneTooMany ++ [.apply ⟨1, gzipZ, "a"⟩ {}]) := by
  have hrun : ∃ r, oneTooMany.foldl (step syncingNode recordedCodec) ⟨{}, none, []⟩ = r := ⟨_, rfl⟩
  obtain ⟨r, hr⟩ := hrun
  have hfacts : r.offer = some (offeredBy "a") ∧
      (syncingNode.applySnapshotChunk recordedCodec r.state ⟨1, gzipZ, "a"⟩ {}).restored =
        some (textBytes "yzx") ∧
      (r.applied syncingNode recordedCodec ⟨1, gzipZ, "a"⟩ {}).received =
        [(0, gzipY), (2, gzipX), (1, gzipZ)] := by
    rw [← hr]
    decide +kernel
  obtain ⟨hoffer, hrestored, hreceived⟩ := hfacts
  rw [eachCall_append, hr]
  refine ⟨hrestored, fun h => ?_⟩
  obtain ⟨snapshot, chunk, hsnapshot, hchunk, hdump⟩ := h.2.1 _ hrestored
  cases hoffer.symm.trans hsnapshot
  rw [hreceived] at hchunk
  have hfirst : chunk 0 = gzipY := by simpa using hchunk 0 (by decide)
  have hsecond : chunk 1 = gzipZ := by simpa using hchunk 1 (by decide)
  have hrange : (List.range (offeredBy "a").chunks).map chunk = [gzipY, gzipZ] := by
    rw [← hfirst, ← hsecond]
    rfl
  rw [hrange] at hdump
  exact absurd hdump (by decide +kernel)

/-! ### One offer after another -/

/-- The offer is accepted, and the fields of the node and `metadata.json` are those of this offer. -/
def Replaces (r : SyncRun) (snapshot : Snapshot) : Prop :=
  ∃ st, r.state.offerSnapshot snapshot none = (.accept, st) ∧
    st.acceptedSnapshotHeight = snapshot.height ∧ st.acceptedSnapshotHash = some snapshot.hash ∧
    st.offered = .stored snapshot

/-- A node that is offered one snapshot after another, each of which it can store. -/
def offers (snapshots : List Snapshot) : SyncRun :=
  snapshots.foldl (fun r snapshot => r.offered snapshot none) ⟨{}, none, []⟩

/-- The height the node has accepted is that of the offer accepted last. -/
theorem acceptedHeight_offers (snapshots : List Snapshot) :
    (offers snapshots).state.acceptedSnapshotHeight ≠ 0 →
      ∃ prev, (offers snapshots).offer = some prev ∧
        (offers snapshots).state.acceptedSnapshotHeight = prev.height := by
  unfold offers
  refine List.foldlRecOn (motive := fun r : SyncRun => r.state.acceptedSnapshotHeight ≠ 0 →
    ∃ prev, r.offer = some prev ∧ r.state.acceptedSnapshotHeight = prev.height)
    snapshots _ (fun h => absurd rfl h) fun r ih snapshot _ => ?_
  unfold offered StateSync.offerSnapshot
  by_cases hzero : r.state.acceptedSnapshotHeight = 0
  · rw [if_neg (not_not.mpr hzero)]
    exact fun _ => ⟨snapshot, rfl, rfl⟩
  · rw [if_pos hzero]
    by_cases hheight : snapshot.height = r.state.acceptedSnapshotHeight
    · simp only [hheight, ne_eq, not_true_eq_false, if_false]
      split_ifs
      · exact fun _ => ⟨snapshot, rfl, hheight.symm⟩
      · exact ih
    · simp only [hheight, ne_eq, not_false_eq_true, if_true]
      split_ifs <;> exact fun h => absurd rfl h

/-- An offer at another height than the one accepted last is accepted and takes its place exactly if
the node has forgotten that one. -/
theorem replaces_iff_forgotten (snapshots : List Snapshot) {prev snapshot : Snapshot}
    (hprev : (offers snapshots).offer = some prev) (hheight : snapshot.height ≠ prev.height) :
    (offers snapshots).Replaces snapshot ↔
      (offers snapshots).state.acceptedSnapshotHeight = 0 := by
  have htracks := acceptedHeight_offers snapshots
  constructor
  · rintro ⟨st, hoffer, -, hhash, -⟩
    by_contra hzero
    obtain ⟨prev', hprev', haccepted⟩ := htracks hzero
    cases hprev.symm.trans hprev'
    -- the fields are cleared, and not set again
    rw [StateSync.offerSnapshot, if_pos hzero] at hoffer
    simp only [haccepted, ne_eq, hheight, not_false_eq_true, if_true] at hoffer
    split_ifs at hoffer <;> cases hoffer
    cases hhash
  · intro hzero
    rw [Replaces, StateSync.offerSnapshot, if_neg (not_not.mpr hzero)]
    exact ⟨_, rfl, rfl, rfl, rfl⟩

def atHeight (height : Nat) : Snapshot := ⟨height, 1, 1, [7], []⟩

/-- The offer at height 20 is rejected, and the next one accepted. -/
theorem third_offer_replaces : (offers [atHeight 10, atHeight 20]).Replaces (atHeight 30) :=
  (replaces_iff_forgotten [atHeight 10, atHeight 20] rfl (by decide)).mpr rfl

theorem second_height_rejected :
    (offers [atHeight 10]).offer = some (atHeight 10) ∧
      ((offers [atHeight 10]).state.offerSnapshot (atHeight 20) none).1 = .reject ∧
      ¬ (offers [atHeight 10]).Replaces (atHeight 20) := by
  refine ⟨rfl, rfl, ?_⟩
  rintro ⟨st, h, -⟩
  cases h

end SyncRun

end OpenAudio.Core
