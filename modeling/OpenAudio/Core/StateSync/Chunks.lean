import OpenAudio.Core.StateSync

/-!
# A dump in chunks

The node that takes a snapshot splits its dump into compressed chunks; the node that restores it
stores the chunks under names that carry their index, counts them by reading the names back, and
joins them in the order of the names. The names have six digits, so that their order is that of the
indexes for up to a million chunks.
-/

namespace OpenAudio.Core

/-! ### Splitting -/

/-- The loop of `chunkPgDump`: the buffer is filled until the file ends. -/
def readChunks (chunkSize : Nat) : Nat → Bytes → List Bytes
  | 0, _ => []
  | fuel + 1, file =>
    let buffer := file.take chunkSize
    if buffer.length = 0 then []
    else if buffer.length < chunkSize then [buffer]
    else buffer :: readChunks chunkSize fuel (file.drop chunkSize)

/-- A `gzip` writer whose output the reader of the codec restores. -/
structure Gzip (codec : SnapshotCodec) where
  compress : Bytes → Bytes
  gunzip_compress : ∀ bytes, codec.gunzip (compress bytes) = some bytes

/-- `chunkPgDump`: what the chunk files hold, by index. -/
def Gzip.chunkPgDump {codec : SnapshotCodec} (gz : Gzip codec) (chunkSize : Nat) (dump : Bytes) :
    List Bytes :=
  (readChunks chunkSize dump.length dump).map gz.compress

theorem flatten_readChunks {chunkSize fuel : Nat} {file : Bytes} (hsize : 0 < chunkSize)
    (hfuel : file.length ≤ fuel) : (readChunks chunkSize fuel file).flatten = file := by
  induction fuel generalizing file with
  | zero => rw [List.eq_nil_of_length_eq_zero (Nat.le_zero.mp hfuel)]; rfl
  | succ fuel ih =>
    simp only [readChunks, List.length_take]
    split
    · rename_i hempty
      rw [List.eq_nil_of_length_eq_zero (by omega : file.length = 0)]
      rfl
    split
    · rename_i hshort
      simp [List.take_of_length_le (by omega : file.length ≤ chunkSize)]
    · rw [List.flatten_cons, ih (by rw [List.length_drop]; omega), List.take_append_drop]

theorem readChunks_flatten {chunkSize fuel : Nat} {chunks : List Bytes} (hsize : 0 < chunkSize)
    (hfull : ∀ chunk ∈ chunks, chunk.length = chunkSize) (hfuel : chunks.flatten.length ≤ fuel) :
    readChunks chunkSize fuel chunks.flatten = chunks := by
  induction chunks generalizing fuel with
  | nil => cases fuel <;> simp [readChunks]
  | cons chunk chunks ih =>
    obtain ⟨hchunk, hrest⟩ := List.forall_mem_cons.mp hfull
    rw [List.flatten_cons, List.length_append] at hfuel
    obtain ⟨fuel, rfl⟩ : ∃ k, fuel = k + 1 := ⟨fuel - 1, by omega⟩
    have htake : (chunk ++ chunks.flatten).take chunkSize = chunk := by
      rw [← hchunk, List.take_left]
    have hdrop : (chunk ++ chunks.flatten).drop chunkSize = chunks.flatten := by
      rw [← hchunk, List.drop_left]
    simp only [List.flatten_cons, readChunks, htake, hdrop]
    rw [if_neg (by omega), if_neg (by omega), ih hrest (by omega)]

/-! ### Names -/

/-- The sign `%d` accepts in front. -/
def scanSign : List Char → Bool × List Char
  | '-' :: rest => (true, rest)
  | '+' :: rest => (false, rest)
  | cs => (false, cs)

/-- `%d` of `fmt.Sscanf`: a sign, digits, and an `int` of them. The blanks it skips in front are in
no name the node writes. -/
def scanInt (cs : List Char) : Option (Int × List Char) :=
  let (negative, cs) := scanSign cs
  let digits := cs.takeWhile Char.isDigit
  let magnitude : Int := Nat.ofDigitChars 10 digits 0
  let value := if negative then -magnitude else magnitude
  if digits = [] ∨ value < -2 ^ 63 ∨ 2 ^ 63 ≤ value then none
  else some (value, cs.dropWhile Char.isDigit)

/-- `fmt.Sscanf(name, "chunk_%d.gz", &chunkNum)` -/
def scanChunkName (name : String) : Option Int := do
  let cs ← name.toList.dropPrefix? "chunk_".toList
  let (chunkNum, cs) ← scanInt cs
  let _ ← cs.dropPrefix? ".gz".toList
  return chunkNum

/-- `strings.HasSuffix(name, ".gz")` -/
def isGz (name : String) : Bool := ".gz".toList.isSuffixOf name.toList

theorem chunkFileName_toList (index : Nat) : (chunkFileName index).toList =
    "chunk_".toList ++ ((Nat.toDigits 10 index).leftpad 6 '0' ++ ".gz".toList) := by
  simp only [chunkFileName, paddedDecimal, String.toList_append, String.toList_ofList,
    List.append_assoc]

theorem isGz_chunkFileName (index : Nat) : isGz (chunkFileName index) = true := by
  rw [isGz, List.isSuffixOf_iff_suffix, chunkFileName_toList]
  exact ⟨"chunk_".toList ++ (Nat.toDigits 10 index).leftpad 6 '0', List.append_assoc _ _ _⟩

theorem dropPrefix?_append (front back : List Char) :
    (front ++ back).dropPrefix? front = some back :=
  List.dropPrefix?_eq_some_iff.mpr ⟨front, rfl, beq_self_eq_true front⟩

theorem scanSign_of_isDigit {c : Char} (hc : c.isDigit = true) (cs : List Char) :
    scanSign (c :: cs) = (false, c :: cs) := by
  unfold scanSign
  split
  · rename_i h
    rw [(List.cons.inj h).1] at hc
    exact absurd hc (by decide)
  · rename_i h
    rw [(List.cons.inj h).1] at hc
    exact absurd hc (by decide)
  · rfl

theorem scanInt_digits {index : Nat} (hindex : index < 2 ^ 63) :
    scanInt ((Nat.toDigits 10 index).leftpad 6 '0' ++ ".gz".toList) =
      some ((index : Int), ".gz".toList) := by
  have hdigit : ∀ c ∈ (Nat.toDigits 10 index).leftpad 6 '0', c.isDigit = true :=
    fun c hc => isDigit_of_mem_leftpad hc
  have hvalue := ofDigitChars_leftpad 6 index
  have hne : (Nat.toDigits 10 index).leftpad 6 '0' ≠ [] := by
    intro h
    have := congrArg List.length h
    rw [List.length_leftpad] at this
    simp at this
  generalize (Nat.toDigits 10 index).leftpad 6 '0' = digits at hdigit hvalue hne
  have htake : (digits ++ ".gz".toList).takeWhile Char.isDigit = digits := by
    rw [List.takeWhile_append_of_pos hdigit]
    simp
  have hdrop : (digits ++ ".gz".toList).dropWhile Char.isDigit = ".gz".toList := by
    rw [List.dropWhile_append_of_pos hdigit]
    simp
  have hsign : scanSign (digits ++ ".gz".toList) = (false, digits ++ ".gz".toList) := by
    obtain ⟨c, rest, rfl⟩ := List.exists_cons_of_ne_nil hne
    exact scanSign_of_isDigit (hdigit c List.mem_cons_self) _
  unfold scanInt
  rw [hsign]
  simp only [htake, hdrop, hvalue]
  rw [if_neg]
  · simp
  · simp only [hne, false_or, Bool.false_eq_true, if_false]
    omega

theorem scanChunkName_chunkFileName {index : Nat} (hindex : index < 2 ^ 63) :
    scanChunkName (chunkFileName index) = some (index : Int) := by
  unfold scanChunkName
  rw [chunkFileName_toList, dropPrefix?_append]
  simp only [Option.bind_eq_bind, Option.bind_some]
  rw [scanInt_digits hindex]
  have hend : (".gz".toList).dropPrefix? ".gz".toList = some [] := by
    have := dropPrefix?_append ".gz".toList []
    rwa [List.append_nil] at this
  simp only [Option.bind_some]
  rw [hend]
  rfl

theorem chunkFileName_injective {i j : Nat} (h : chunkFileName i = chunkFileName j) : i = j := by
  have hchars := congrArg String.toList h
  rw [chunkFileName_toList, chunkFileName_toList] at hchars
  have hdigits := List.append_cancel_right (List.append_cancel_left hchars)
  rw [← ofDigitChars_leftpad 6 i, hdigits, ofDigitChars_leftpad]

/-! ### The directory of a height -/

namespace StateSync

variable (st : StateSync) (height : Nat)

/-- The directory of a height, by name; it is made with the first chunk. -/
def heightDir : Option (List (String × Bytes)) :=
  match st.chunksAt height with
  | [] => none
  | files => some (files.map fun f => (chunkFileName f.1, f.2))

/-- The index `haveAllChunks` reads from a name. -/
def chunkNumber (name : String) : Option Int := if isGz name then scanChunkName name else none

/-- `haveAllChunks`, which counts the indexes in the names. -/
def haveAllChunksByName (total : Nat) : Bool :=
  match st.heightDir height with
  | none => false
  | some files =>
    let chunks := (files.filterMap fun f => chunkNumber f.1).filter fun n : Int =>
      decide (0 ≤ n ∧ n < total)
    chunks.dedup.length == total

/-- `ReassemblePgDump`, with `data.dump` in the directory it lists. -/
def reassembleByName (codec : SnapshotCodec) : Option Bytes :=
  match st.heightDir height with
  | none => none
  | some files =>
    let sorted := (("data.dump", []) :: files).insertionSort fun f f' => f.1 ≤ f'.1
    (((sorted.filter fun f => isGz f.1).map (·.2)).mapM codec.gunzip).map List.flatten

variable {st height}

theorem heightDir_eq_none_iff : st.heightDir height = none ↔ st.chunksAt height = [] := by
  unfold heightDir
  split <;> simp_all

theorem heightDir_of_ne_nil (h : st.chunksAt height ≠ []) : st.heightDir height =
    some ((st.chunksAt height).map fun f => (chunkFileName f.1, f.2)) := by
  unfold heightDir
  split
  · contradiction
  · rfl

theorem pairwise_chunksAt : (st.chunksAt height).Pairwise fun f f' =>
    chunkFileName f.1 ≤ chunkFileName f'.1 :=
  List.pairwise_insertionSort _ _

theorem haveAllChunksByName_eq {total : Nat} (hint : ∀ f ∈ st.chunksAt height, f.1 < 2 ^ 63) :
    st.haveAllChunksByName height total =
      st.haveAllChunks height total (st.heightDir height).isNone := by
  unfold haveAllChunksByName haveAllChunks
  by_cases hempty : st.chunksAt height = []
  · rw [heightDir_eq_none_iff.mpr hempty]
    rfl
  rw [heightDir_of_ne_nil hempty]
  have hnumbers : ((st.chunksAt height).map fun f => (chunkFileName f.1, f.2)).filterMap
      (fun f => chunkNumber f.1) = ((st.chunksAt height).map (·.1)).map Nat.cast := by
    rw [List.filterMap_map, List.map_map, ← List.filterMap_eq_map]
    refine List.filterMap_congr fun f hf => ?_
    rw [Function.comp_apply, chunkNumber, if_pos (isGz_chunkFileName _),
      scanChunkName_chunkFileName (hint f hf)]
    rfl
  dsimp only
  rw [hnumbers, List.filter_map, List.dedup_map_of_injective Nat.cast_injective, List.length_map]
  have hbounds : ((fun n : Int => decide (0 ≤ n ∧ n < total)) ∘ Nat.cast) =
      fun i : Nat => decide (i < total) := by
    funext i
    simp
  rw [hbounds]
  rfl

theorem filter_orderedInsert {α : Type} {r : α → α → Prop} [DecidableRel r] {p : α → Bool} {a : α}
    (ha : p a = false) (l : List α) : (l.orderedInsert r a).filter p = l.filter p := by
  induction l with
  | nil => simp [ha]
  | cons b l ih =>
    rw [List.orderedInsert_cons]
    split
    · rw [List.filter_cons_of_neg (by simp [ha])]
    · rw [List.filter_cons, List.filter_cons, ih]

theorem reassembleByName_eq {codec : SnapshotCodec} :
    st.reassembleByName height codec =
      st.reassemblePgDump codec height (st.heightDir height).isNone := by
  unfold reassembleByName reassemblePgDump
  by_cases hempty : st.chunksAt height = []
  · rw [heightDir_eq_none_iff.mpr hempty]
    rfl
  rw [heightDir_of_ne_nil hempty]
  have hsorted : ((st.chunksAt height).map fun f => (chunkFileName f.1, f.2)).Pairwise
      fun f f' => f.1 ≤ f'.1 := by
    rw [List.pairwise_map]
    exact pairwise_chunksAt
  dsimp only
  rw [List.insertionSort_cons, hsorted.insertionSort_eq, filter_orderedInsert (by decide),
    List.filter_eq_self.mpr, List.map_map]
  · rfl
  · intro f hf
    obtain ⟨g, _, rfl⟩ := List.mem_map.mp hf
    exact isGz_chunkFileName g.1

/-! ### Chunks as they arrive -/

/-- Store the chunks of the given indexes, one after another. -/
def receive (height : Nat) (chunks : List Bytes) (order : List Nat) : StateSync :=
  order.foldl (fun st i => (st.storeChunkForReconstruction height i (chunks.getD i []) none).2) {}

/-- Indexes in the order of the names of their files. -/
def byName (indexes : List Nat) : List Nat :=
  indexes.insertionSort fun i j => chunkFileName i ≤ chunkFileName j

variable {chunks : List Bytes} {order : List Nat}

theorem receive_concat (i : Nat) : receive height chunks (order ++ [i]) =
    ((receive height chunks order).storeChunkForReconstruction height i (chunks.getD i []) none).2 := by
  simp [receive, List.foldl_append]

theorem lookup_receive (i : Nat) : (receive height chunks order).chunkFiles.lookup (height, i) =
    if i ∈ order then some (chunks.getD i []) else none := by
  induction order using List.reverseRecOn with
  | nil => rfl
  | append_singleton order j ih =>
    rw [receive_concat]
    change ((receive height chunks order).chunkFiles.insert (height, j) _).lookup (height, i) = _
    rw [Table.lookup_insert_eq, ih]
    by_cases hij : i = j <;> simp [hij]

theorem chunksAt_receive (hnodup : order.Nodup) : (receive height chunks order).chunksAt height =
    (byName order).map fun i => (i, chunks.getD i []) := by
  have hmem : ∀ f, f ∈ (receive height chunks order).chunksAt height ↔
      f ∈ (byName order).map fun i => (i, chunks.getD i []) := by
    rintro ⟨i, data⟩
    rw [mem_chunksAt, lookup_receive, List.mem_map]
    simp only [byName, List.mem_insertionSort]
    constructor
    · intro h
      split at h
      · exact ⟨i, by assumption, by rw [Option.some.inj h]⟩
      · cases h
    · rintro ⟨j, hj, heq⟩
      cases heq
      rw [if_pos hj]
  have hnodup' : ((byName order).map fun i => (i, chunks.getD i [])).Nodup := by
    apply List.Nodup.map
    · intro i j h
      exact (Prod.mk.inj h).1
    · exact (List.perm_insertionSort _ _).nodup_iff.mpr hnodup
  have hsorted' : ((byName order).map fun i => (i, chunks.getD i [])).Pairwise fun f f' =>
      chunkFileName f.1 ≤ chunkFileName f'.1 := by
    rw [List.pairwise_map]
    exact List.pairwise_insertionSort _ _
  refine List.Perm.eq_of_pairwise ?_ pairwise_chunksAt hsorted'
    ((List.perm_ext_iff_of_nodup nodup_chunksAt hnodup').mpr hmem)
  rintro ⟨i, data⟩ ⟨j, data'⟩ hi hj hle hle'
  cases chunkFileName_injective (le_antisymm hle hle')
  rw [data_unique hi ((hmem _).mpr hj)]

theorem heightDir_receive_isNone (hnodup : order.Nodup) :
    ((receive height chunks order).heightDir height).isNone = true ↔ order = [] := by
  rw [Option.isNone_iff_eq_none, heightDir_eq_none_iff, chunksAt_receive hnodup,
    List.map_eq_nil_iff, byName, ← List.length_eq_zero_iff, List.length_insertionSort,
    List.length_eq_zero_iff]

theorem haveAllChunksByName_receive {total : Nat} (hnodup : order.Nodup)
    (hlt : ∀ i ∈ order, i < total) (htotal : total ≤ 2 ^ 63) :
    (receive height chunks order).haveAllChunksByName height total = true ↔
      order ≠ [] ∧ order.length = total := by
  have hindexes : ((receive height chunks order).chunksAt height).map (·.1) = byName order := by
    rw [chunksAt_receive hnodup, List.map_map]
    exact List.map_id _
  have hmem : ∀ i ∈ byName order, i < total := by
    intro i hi
    exact hlt i ((List.mem_insertionSort _).mp hi)
  rw [haveAllChunksByName_eq]
  · have hnodup' : (byName order).Nodup := (List.perm_insertionSort _ _).nodup_iff.mpr hnodup
    rw [haveAllChunks, Bool.and_eq_true, Bool.not_eq_true', ← Bool.not_eq_true,
      heightDir_receive_isNone hnodup, hindexes,
      List.filter_eq_self.mpr fun i hi => decide_eq_true (hmem i hi), hnodup'.dedup, beq_iff_eq,
      byName, List.length_insertionSort]
  · intro f hf
    have hi := hmem f.1 (hindexes ▸ List.mem_map_of_mem hf)
    omega

theorem mapM_eq_some_map {α β : Type} {f : α → Option β} {g : α → β} {l : List α}
    (h : ∀ a ∈ l, f a = some (g a)) : l.mapM f = some (l.map g) := by
  induction l with
  | nil => rfl
  | cons a l ih =>
    rw [List.forall_mem_cons] at h
    rw [List.mapM_cons, h.1, ih h.2]
    rfl

theorem reassembleByName_receive {codec : SnapshotCodec} (gz : Gzip codec) {raw : List Bytes}
    (hnodup : order.Nodup) (hlt : ∀ i ∈ order, i < raw.length) (hne : order ≠ []) :
    (receive height (raw.map gz.compress) order).reassembleByName height codec =
      some ((byName order).map fun i => raw.getD i []).flatten := by
  have hdir : ¬ ((receive height (raw.map gz.compress) order).heightDir height).isNone = true :=
    mt (heightDir_receive_isNone hnodup).mp hne
  have hchunk : ∀ i ∈ byName order,
      codec.gunzip ((raw.map gz.compress).getD i []) = some (raw.getD i []) := by
    intro i hi
    have hi : i < raw.length := hlt i ((List.mem_insertionSort _).mp hi)
    rw [List.getD_eq_getElem?_getD, List.getD_eq_getElem?_getD, List.getElem?_map,
      List.getElem?_eq_getElem hi]
    exact gz.gunzip_compress _
  rw [reassembleByName_eq, reassemblePgDump, if_neg hdir, chunksAt_receive hnodup, List.map_map,
    List.mapM_map]
  exact congrArg (Option.map List.flatten) (mapM_eq_some_map hchunk)

/-! ### The order of the names -/

theorem perm_byName : (byName order).Perm order := List.perm_insertionSort _ _

theorem eq_of_pairwise_names {l l' : List Nat}
    (hl : l.Pairwise fun i j => chunkFileName i ≤ chunkFileName j)
    (hl' : l'.Pairwise fun i j => chunkFileName i ≤ chunkFileName j) (hperm : l.Perm l') : l = l' :=
  hperm.eq_of_pairwise (fun _ _ _ _ hle hle' => chunkFileName_injective (le_antisymm hle hle')) hl hl'

theorem pairwise_names_range {total : Nat} (htotal : total ≤ 10 ^ 6) :
    (List.range total).Pairwise fun i j => chunkFileName i ≤ chunkFileName j := by
  refine List.pairwise_lt_range.imp_of_mem fun {i j} _ hj hlt => ?_
  have hj := List.mem_range.mp hj
  exact (paddedDecimal_lt (hj.trans_le htotal) hlt "chunk_" ".gz").le

theorem byName_eq_range {total : Nat} (htotal : total ≤ 10 ^ 6)
    (hperm : order.Perm (List.range total)) : byName order = List.range total :=
  eq_of_pairwise_names (List.pairwise_insertionSort _ _) (pairwise_names_range htotal)
    (perm_byName.trans hperm)

theorem byName_range_ne {total : Nat} (htotal : 10 ^ 6 < total) :
    byName (List.range total) ≠ List.range total := by
  intro h
  have hsorted : (byName (List.range total)).Pairwise fun i j =>
    chunkFileName i ≤ chunkFileName j := List.pairwise_insertionSort _ _
  rw [h, List.pairwise_iff_getElem] at hsorted
  have hle := hsorted 999999 1000000 (by simp; omega) (by simpa using htotal) (by decide)
  rw [List.getElem_range, List.getElem_range] at hle
  exact absurd hle (by decide)

end StateSync

/-! ### The round trip -/

namespace Gzip

open StateSync

variable {codec : SnapshotCodec} (gz : Gzip codec)

/-- Every dump of so many chunks is restored, in whatever order its chunks arrive, and not taken for
complete before the last of them. -/
def RoundTrips (chunkSize total : Nat) : Prop :=
  ∀ (height : Nat) (dump : Bytes), (gz.chunkPgDump chunkSize dump).length = total →
    ∀ order : List Nat, order.Perm (List.range total) →
      (∀ k < total, (receive height (gz.chunkPgDump chunkSize dump)
        (order.take k)).haveAllChunksByName height total = false) ∧
      (receive height (gz.chunkPgDump chunkSize dump) order).haveAllChunksByName height total = true ∧
      (receive height (gz.chunkPgDump chunkSize dump) order).reassembleByName height codec = some dump

theorem getD_range_map {α : Type} (l : List α) (d : α) :
    ((List.range l.length).map fun i => l.getD i d) = l := by
  apply List.ext_getElem
  · simp
  · intro i h h'
    simp [List.getElem?_eq_getElem h']

theorem roundTrips_of_le {chunkSize total : Nat} (hsize : 0 < chunkSize) (hpos : 0 < total)
    (htotal : total ≤ 10 ^ 6) : gz.RoundTrips chunkSize total := by
  intro height dump hlength order hperm
  have hnodup : order.Nodup := hperm.nodup_iff.mpr List.nodup_range
  have hlt : ∀ i ∈ order, i < total := fun i hi => List.mem_range.mp (hperm.mem_iff.mp hi)
  have hcount : order.length = total := by rw [hperm.length_eq, List.length_range]
  have hne : order ≠ [] := List.ne_nil_of_length_pos (by omega)
  refine ⟨?_, ?_, ?_⟩
  · intro k hk
    rw [← Bool.not_eq_true, haveAllChunksByName_receive (hnodup.sublist (List.take_sublist k order))
      (fun i hi => hlt i (List.mem_of_mem_take hi)) (by omega), List.length_take]
    omega
  · rw [haveAllChunksByName_receive hnodup hlt (by omega)]
    exact ⟨hne, hcount⟩
  · rw [chunkPgDump, List.length_map] at hlength
    rw [chunkPgDump, reassembleByName_receive gz hnodup (hlength ▸ hlt) hne,
      byName_eq_range htotal hperm, ← hlength, getD_range_map, flatten_readChunks hsize le_rfl]

/-- A chunk of a dump that is zero everywhere but in the marked chunk. -/
def markedChunk (chunkSize marked i : Nat) : Bytes :=
  List.replicate chunkSize (if i = marked then 1 else 0)

theorem markedChunk_eq_iff {chunkSize marked i : Nat} (hsize : 0 < chunkSize) :
    markedChunk chunkSize marked i = markedChunk chunkSize marked marked ↔ i = marked := by
  unfold markedChunk
  rw [if_pos rfl, List.replicate_inj]
  by_cases h : i = marked <;> simp [h, hsize.ne']

theorem byName_eq_range_of_restored {chunkSize total height : Nat} (hsize : 0 < chunkSize)
    (hpos : 0 < total)
    (h : ∀ dump, (gz.chunkPgDump chunkSize dump).length = total →
      (receive height (gz.chunkPgDump chunkSize dump) (List.range total)).reassembleByName height
        codec = some dump) :
    byName (List.range total) = List.range total := by
  have hmarked : ∀ marked, (byName (List.range total)).map (markedChunk chunkSize marked) =
      (List.range total).map (markedChunk chunkSize marked) := by
    intro marked
    have hfull : ∀ chunk ∈ (List.range total).map (markedChunk chunkSize marked),
        chunk.length = chunkSize := by
      intro chunk hchunk
      obtain ⟨i, _, rfl⟩ := List.mem_map.mp hchunk
      exact List.length_replicate
    have hread := readChunks_flatten hsize hfull le_rfl
    have hdump := h ((List.range total).map (markedChunk chunkSize marked)).flatten
      (by rw [chunkPgDump, hread]; simp)
    rw [chunkPgDump, hread, reassembleByName_receive gz List.nodup_range (by simp)
      (List.ne_nil_of_length_pos (by simpa using hpos)), Option.some.injEq] at hdump
    have hchunks : (byName (List.range total)).map
        (fun i => ((List.range total).map (markedChunk chunkSize marked)).getD i []) =
        (byName (List.range total)).map (markedChunk chunkSize marked) := by
      apply List.map_congr_left
      intro i hi
      have hi : i < total := List.mem_range.mp (perm_byName.mem_iff.mp hi)
      simp [hi]
    rw [hchunks] at hdump
    refine List.eq_iff_flatten_eq.mpr ⟨hdump, ?_⟩
    simp [markedChunk, Function.comp_def, perm_byName.length_eq]
  apply List.ext_getElem
  · rw [perm_byName.length_eq]
  · intro p hp hp'
    have hat := List.getElem_of_eq (hmarked p) (by simpa using hp)
    rw [List.getElem_map, List.getElem_map, List.getElem_range] at hat
    rw [List.getElem_range]
    exact (markedChunk_eq_iff hsize).mp hat

theorem exists_not_restored {chunkSize total : Nat} (height : Nat) (hsize : 0 < chunkSize)
    (htotal : 10 ^ 6 < total) : ∃ dump, (gz.chunkPgDump chunkSize dump).length = total ∧
      (receive height (gz.chunkPgDump chunkSize dump) (List.range total)).reassembleByName height
        codec ≠ some dump := by
  by_contra hall
  push Not at hall
  exact byName_range_ne htotal (gz.byName_eq_range_of_restored hsize (by omega) hall)

/-- The dumps of so many chunks are restored exactly for one to a million chunks: without a chunk
there is no directory, and beyond a million the names are not in the order of the indexes. -/
theorem roundTrips_iff {chunkSize : Nat} (hsize : 0 < chunkSize) (total : Nat) :
    gz.RoundTrips chunkSize total ↔ 0 < total ∧ total ≤ 10 ^ 6 := by
  constructor
  · intro h
    have hpos : 0 < total := by
      by_contra hzero
      obtain rfl : total = 0 := by omega
      obtain ⟨_, hall, _⟩ := h 0 [] rfl [] (List.Perm.refl _)
      cases hall
    refine ⟨hpos, not_lt.mp fun hlt => ?_⟩
    obtain ⟨dump, hlength, hdump⟩ := gz.exists_not_restored 0 hsize hlt
    exact hdump (h 0 dump hlength (List.range total) (List.Perm.refl _)).2.2
  · rintro ⟨hpos, htotal⟩
    exact gz.roundTrips_of_le hsize hpos htotal

def pgDumpChunkSize : Nat := 12 * 1024 * 1024

theorem exists_gzip : ∃ codec, Nonempty (Gzip codec) :=
  ⟨⟨fun _ => none, fun _ => none, some⟩, ⟨id, fun _ => rfl⟩⟩

/-- A dump of some twelve gigabytes, whatever the writer. -/
theorem thousand_chunks_restored : (∃ codec, Nonempty (Gzip codec)) ∧
    ∀ (codec : SnapshotCodec) (gz : Gzip codec), gz.RoundTrips pgDumpChunkSize 1000 := by
  have hsize : 0 < pgDumpChunkSize := by decide
  exact ⟨exists_gzip, fun codec gz => (gz.roundTrips_iff hsize 1000).mpr (by decide)⟩

/-- A dump of one chunk more than the names have digits for, whatever the writer: all its chunks are
found, and another dump is joined from them. -/
theorem million_chunks_not_restored : (∃ codec, Nonempty (Gzip codec)) ∧
    ∀ (codec : SnapshotCodec) (gz : Gzip codec), ∃ dump,
      (gz.chunkPgDump pgDumpChunkSize dump).length = 10 ^ 6 + 1 ∧
        (receive 1 (gz.chunkPgDump pgDumpChunkSize dump)
          (List.range (10 ^ 6 + 1))).haveAllChunksByName 1 (10 ^ 6 + 1) = true ∧
        (receive 1 (gz.chunkPgDump pgDumpChunkSize dump)
          (List.range (10 ^ 6 + 1))).reassembleByName 1 codec ≠ some dump := by
  refine ⟨exists_gzip, fun codec gz => ?_⟩
  obtain ⟨dump, hlength, hdump⟩ := gz.exists_not_restored 1 (by decide : 0 < pgDumpChunkSize)
    (Nat.lt_succ_self (10 ^ 6))
  refine ⟨dump, hlength, ?_, hdump⟩
  rw [haveAllChunksByName_receive List.nodup_range (fun i hi => List.mem_range.mp hi) (by decide),
    List.length_range]
  exact ⟨List.ne_nil_of_length_pos (by rw [List.length_range]; exact Nat.succ_pos _), rfl⟩

end Gzip

end OpenAudio.Core
