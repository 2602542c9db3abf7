import Mathlib.Algebra.BigOperators.Intervals
import Mathlib.Algebra.BigOperators.ModEq
import Mathlib.Algebra.Order.BigOperators.Group.Finset
import Mathlib.Tactic.Ring
import OpenAudio.Mediorum.Waveforms

/-!
# Frames of a waveform

The accumulator reduces the samples of a stream to frames, each the energy and the number of its
samples, in a buffer of fixed size: once that is full, adjacent frames are merged where they stand
and frames hold twice as many samples from then on. However the stream is split into reads, no
sample is lost or counted twice.
-/

namespace OpenAudio.Mediorum

open OpenAudio.Core

def waveformInitialFrameSize : Int := 32

def waveformMaxFrames : Nat := 48000

def errWaveformNoAudio : String := "waveform: decoded zero audio samples"

/-- `int16(binary.LittleEndian.Uint16(…))` -/
def littleEndianInt16 (lo hi : UInt8) : Int :=
  let u : Int := lo.toNat + 256 * hi.toNat
  if u < 2 ^ 15 then u else u - 2 ^ 16

structure WaveformAccumulator where
  sums : List Float
  counts : List Int
  n : Nat
  frameSize : Int
  curSum : Float
  curCount : Int

/-- The loop of `halve` over one of the two buffers: the frames are read from places that later
rounds write to. -/
def mergePairs {α : Type} (add : α → α → α) (zero : α) (k : Nat) (xs : List α) : List α :=
  (List.range k).foldl
    (fun xs i => xs.set i (add (xs.getD (2 * i) zero) (xs.getD (2 * i + 1) zero))) xs

namespace WaveformAccumulator

/-- `newWaveformAccumulator` -/
def new : WaveformAccumulator where
  sums := List.replicate waveformMaxFrames 0
  counts := List.replicate waveformMaxFrames 0
  n := 0
  frameSize := waveformInitialFrameSize
  curSum := 0
  curCount := 0

variable (a : WaveformAccumulator)

def halve : WaveformAccumulator :=
  { a with
    sums := mergePairs (· + ·) 0 (a.n / 2) a.sums
    counts := mergePairs (fun c d => wrapInt64 (c + d)) 0 (a.n / 2) a.counts
    n := a.n / 2
    frameSize := wrapInt64 (a.frameSize * 2) }

/-- The current frame takes the next place. -/
def store : WaveformAccumulator :=
  { a with
    sums := a.sums.set a.n a.curSum
    counts := a.counts.set a.n a.curCount
    n := a.n + 1
    curSum := 0
    curCount := 0 }

def flushFrame : WaveformAccumulator :=
  if a.curCount = 0 then a
  else if a.n = waveformMaxFrames then a.halve.store
  else a.store

/-- A sample is added to the current frame. -/
def count (sample : Int) : WaveformAccumulator :=
  let f := Float.ofInt sample / 32768.0
  { a with curSum := a.curSum + f * f, curCount := wrapInt64 (a.curCount + 1) }

def push (sample : Int) : WaveformAccumulator :=
  let a := a.count sample
  if a.frameSize ≤ a.curCount then a.flushFrame else a

/-! ### Reading -/

/-- The loop over a chunk, and the byte it leaves over. -/
def pushPairs : WaveformAccumulator → Bytes → WaveformAccumulator × Option UInt8
  | a, lo :: hi :: rest => pushPairs (a.push (littleEndianInt16 lo hi)) rest
  | a, [b] => (a, some b)
  | a, [] => (a, none)

/-- One round of `consumePCM`: the byte that is pending goes in front of the chunk that was read. -/
def consumeChunk (s : WaveformAccumulator × Option UInt8) (chunk : Bytes) :
    WaveformAccumulator × Option UInt8 :=
  let (a, pending, chunk) : WaveformAccumulator × Option UInt8 × Bytes :=
    match s.2, chunk with
    | some p, b :: rest => (s.1.push (littleEndianInt16 p b), none, rest)
    | pending, chunk => (s.1, pending, chunk)
  match pushPairs a chunk with
  | (a, some b) => (a, some b)
  | (a, none) => (a, pending)

end WaveformAccumulator

/-- What a reader returns up to its first error, `none` for `io.EOF`. A buffered reader hands reads
of the size of its buffer through. -/
structure PcmReads where
  reads : List Bytes
  last : Bytes
  err : Option String

def PcmReads.chunks (s : PcmReads) : List Bytes := s.reads ++ [s.last]

def PcmReads.bytes (s : PcmReads) : Bytes := s.chunks.flatten

namespace WaveformAccumulator

variable (a : WaveformAccumulator)

def consumePCM (s : PcmReads) : WaveformAccumulator × Option String :=
  ((s.chunks.foldl consumeChunk (a, none)).1, s.err)

/-! ### Buckets -/

/-- The frames of a bucket, from the first up to before the second. -/
def bucketRange (n b : Nat) : Nat × Nat :=
  let start := b * n / waveformBuckets
  let stop := (b + 1) * n / waveformBuckets
  let stop := if stop ≤ start then start + 1 else stop
  let stop := if n < stop then n else stop
  (start, stop)

def countFrames (start stop : Nat) : Int :=
  (List.range' start (stop - start)).foldl (fun c i => wrapInt64 (c + a.counts.getD i 0)) 0

def bucketRMS (b : Nat) : Float :=
  let (start, stop) := bucketRange a.n b
  let sum := (List.range' start (stop - start)).foldl (fun s i => s + a.sums.getD i 0) 0.0
  let count := a.countFrames start stop
  if 0 < count then Float.sqrt (sum / Float.ofInt count) else 0

/-- The peaks and the number of samples. -/
def finalize : Except String (Bytes × Int) :=
  let a := a.flushFrame
  if a.n = 0 then .error errWaveformNoAudio
  else
    let sampleCount := a.countFrames 0 a.n
    let rms := (List.range waveformBuckets).map a.bucketRMS
    let maxRMS := rms.foldl (fun m r => if m < r then r else m) 0.0
    let peaks : Bytes :=
      if 0.0 < maxRMS then
        rms.map fun r =>
          let v := r / maxRMS
          let v := if 1 < v then 1 else v
          (Float.round (v * 255)).toUInt8
      else List.replicate waveformBuckets 0
    .ok (peaks, sampleCount)

/-! ### The samples of a stream -/

/-- The values of the consecutive pairs of bytes. -/
def samplesOf : Bytes → List Int
  | lo :: hi :: rest => littleEndianInt16 lo hi :: samplesOf rest
  | _ => []

theorem pushPairs_fst (bytes : Bytes) :
    (pushPairs a bytes).1 = (samplesOf bytes).foldl push a := by
  fun_induction pushPairs a bytes with
  | case1 a lo hi rest ih => exact ih
  | case2 a b => rfl
  | case3 a => rfl

/-- Pushing goes on behind the byte left over. -/
theorem pushPairs_append (xs ys : Bytes) :
    pushPairs (pushPairs a xs).1 ((pushPairs a xs).2.toList ++ ys) = pushPairs a (xs ++ ys) := by
  fun_induction pushPairs a xs with
  | case1 a lo hi rest ih => exact ih
  | case2 a b => rfl
  | case3 a => rfl

theorem consumeChunk_eq (pending : Option UInt8) (chunk : Bytes) :
    consumeChunk (a, pending) chunk = pushPairs a (pending.toList ++ chunk) := by
  cases pending with
  | none =>
    change (match pushPairs a chunk with
      | (a, some b) => (a, some b)
      | (a, none) => (a, none)) = pushPairs a chunk
    obtain ⟨a', _ | b⟩ := pushPairs a chunk <;> rfl
  | some p =>
    cases chunk with
    | nil => rfl
    | cons b rest =>
      change (match pushPairs (a.push (littleEndianInt16 p b)) rest with
        | (a, some b) => (a, some b)
        | (a, none) => (a, none)) = pushPairs (a.push (littleEndianInt16 p b)) rest
      obtain ⟨a', _ | b⟩ := pushPairs (a.push (littleEndianInt16 p b)) rest <;> rfl

theorem foldl_consumeChunk (chunks : List Bytes) (bytes : Bytes) :
    chunks.foldl consumeChunk (pushPairs a bytes) = pushPairs a (bytes ++ chunks.flatten) := by
  induction chunks generalizing bytes with
  | nil => rw [List.flatten_nil, List.append_nil]; rfl
  | cons chunk chunks ih =>
    rw [List.foldl_cons, consumeChunk_eq, pushPairs_append, ih, List.flatten_cons,
      List.append_assoc]

/-- However the bytes are split, their samples are pushed in order. -/
theorem consumePCM_fst (s : PcmReads) :
    (a.consumePCM s).1 = (samplesOf s.bytes).foldl push a := by
  have h := foldl_consumeChunk a s.chunks []
  rw [List.nil_append] at h
  rw [← pushPairs_fst]
  exact congrArg Prod.fst h

/-! ### Merging in place -/

private theorem getD_set {α : Type} {xs : List α} {i : Nat} (hi : i < xs.length) (v zero : α)
    (j : Nat) : (xs.set i v).getD j zero = if i = j then v else xs.getD j zero := by
  rw [List.getD_eq_getElem?_getD, List.getElem?_set, List.getD_eq_getElem?_getD, if_pos hi]
  split
  · rfl
  · rfl

/-- Round `i` reads behind all places written so far, so the loop merges what was there first. -/
theorem getD_mergePairs {α : Type} (add : α → α → α) (zero : α) (xs : List α) {k : Nat}
    (hk : 2 * k ≤ xs.length) :
    (mergePairs add zero k xs).length = xs.length ∧ ∀ j, (mergePairs add zero k xs).getD j zero =
      if j < k then add (xs.getD (2 * j) zero) (xs.getD (2 * j + 1) zero) else xs.getD j zero := by
  induction k with
  | zero => exact ⟨rfl, fun j => by rw [if_neg (Nat.not_lt_zero j)]; rfl⟩
  | succ k ih =>
    obtain ⟨hlength, hgetD⟩ := ih (by omega)
    have hlo : (mergePairs add zero k xs).getD (2 * k) zero = xs.getD (2 * k) zero :=
      (hgetD _).trans (if_neg (by omega))
    have hhi : (mergePairs add zero k xs).getD (2 * k + 1) zero = xs.getD (2 * k + 1) zero :=
      (hgetD _).trans (if_neg (by omega))
    have hstep : mergePairs add zero (k + 1) xs = (mergePairs add zero k xs).set k
        (add (xs.getD (2 * k) zero) (xs.getD (2 * k + 1) zero)) := by
      rw [← hlo, ← hhi]
      unfold mergePairs
      rw [List.range_succ, List.foldl_append]
      rfl
    rw [hstep]
    refine ⟨by rw [List.length_set, hlength], fun j => ?_⟩
    rw [getD_set (by omega), hgetD]
    by_cases hj : k = j
    · rw [if_pos hj, if_pos (by omega), hj]
    · rw [if_neg hj]
      by_cases hlt : j < k
      · rw [if_pos hlt, if_pos (by omega)]
      · rw [if_neg hlt, if_neg (by omega)]

theorem sum_pairs (f : Nat → Int) (k : Nat) :
    ∑ i ∈ Finset.range k, (f (2 * i) + f (2 * i + 1)) = ∑ i ∈ Finset.range (2 * k), f i := by
  induction k with
  | zero => rfl
  | succ k ih =>
    rw [Finset.sum_range_succ, ih, Nat.mul_succ, Finset.sum_range_succ, Finset.sum_range_succ,
      add_assoc]

/-! ### Counting -/

/-- The samples of the stored frames and of the current one. -/
def total : Int := ∑ i ∈ Finset.range a.n, a.counts.getD i 0 + a.curCount

/-- The accumulator holds so many samples: in the arithmetic of `int64` always, and as a number
while that fits an `int64`. -/
structure Counted (samples : Nat) : Prop where
  stored : a.n ≤ waveformMaxFrames
  buffers : a.sums.length = waveformMaxFrames ∧ a.counts.length = waveformMaxFrames
  int64 : a.total ≡ samples [ZMOD 2 ^ 64]
  exact : samples < 2 ^ 63 →
    a.total = samples ∧ 0 ≤ a.curCount ∧ ∀ i < a.n, 0 ≤ a.counts.getD i 0

theorem wrapInt64_modEq (n : Int) : wrapInt64 n ≡ n [ZMOD 2 ^ 64] := by
  unfold wrapInt64 Int.ModEq
  omega

theorem counted_new : new.Counted 0 where
  stored := Nat.zero_le _
  buffers := ⟨List.length_replicate, List.length_replicate⟩
  int64 := rfl
  exact _ := ⟨rfl, le_rfl, fun _ h => absurd h (Nat.not_lt_zero _)⟩

variable {a} {samples : Nat}

theorem Counted.curCount_le (h : a.Counted samples) (hlt : samples < 2 ^ 63) :
    a.curCount ≤ samples := by
  obtain ⟨htotal, -, hnonneg⟩ := h.exact hlt
  have hsum : 0 ≤ ∑ i ∈ Finset.range a.n, a.counts.getD i 0 :=
    Finset.sum_nonneg fun i hi => hnonneg i (Finset.mem_range.mp hi)
  unfold total at htotal
  omega

theorem Counted.count (h : a.Counted samples) (sample : Int) :
    (a.count sample).Counted (samples + 1) where
  stored := h.stored
  buffers := h.buffers
  int64 := by
    have hcur : wrapInt64 (a.curCount + 1) ≡ a.curCount + 1 [ZMOD 2 ^ 64] := wrapInt64_modEq _
    have htotal : (a.count sample).total = ∑ i ∈ Finset.range a.n, a.counts.getD i 0 +
        wrapInt64 (a.curCount + 1) := rfl
    rw [htotal, Nat.cast_succ]
    refine (hcur.add_left _).trans ?_
    rw [← add_assoc]
    exact h.int64.add_right 1
  exact hlt := by
    have hle := h.curCount_le (by omega)
    obtain ⟨htotal, hcur, hnonneg⟩ := h.exact (by omega)
    have hwrap : (a.count sample).curCount = a.curCount + 1 :=
      wrapInt64_of_isInt64 ⟨by omega, by omega⟩
    refine ⟨?_, by omega, hnonneg⟩
    have hsum : (a.count sample).total = a.total + 1 := by
      unfold total
      rw [hwrap, add_assoc]
      rfl
    rw [hsum, htotal, Nat.cast_succ]

theorem Counted.store (h : a.Counted samples) (hn : a.n < waveformMaxFrames) :
    a.store.Counted samples := by
  have hin : a.n < a.counts.length := hn.trans_eq h.buffers.2.symm
  have hget : ∀ i < a.n, a.store.counts.getD i 0 = a.counts.getD i 0 := by
    intro i hi
    exact (getD_set hin _ _ i).trans (if_neg (by omega))
  have hlast : a.store.counts.getD a.n 0 = a.curCount := (getD_set hin _ _ _).trans (if_pos rfl)
  have htotal : a.store.total = a.total := by
    change ∑ i ∈ Finset.range (a.n + 1), a.store.counts.getD i 0 + 0 = _
    rw [Finset.sum_range_succ, hlast, add_zero,
      Finset.sum_congr rfl fun i hi => hget i (Finset.mem_range.mp hi)]
    rfl
  refine ⟨hn, ⟨(List.length_set ..).trans h.buffers.1, (List.length_set ..).trans h.buffers.2⟩,
    by rw [htotal]; exact h.int64, fun hlt => ?_⟩
  obtain ⟨hsum, hcur, hnonneg⟩ := h.exact hlt
  refine ⟨by rw [htotal, hsum], le_rfl, fun i hi => ?_⟩
  rcases Nat.lt_succ_iff_lt_or_eq.mp hi with hi | rfl
  · exact (hget i hi).symm ▸ hnonneg i hi
  · exact hlast.symm ▸ hcur

/-- Merging keeps every sample: the buffer is full, so the number of frames is even. -/
theorem Counted.halve (h : a.Counted samples) (hn : a.n = waveformMaxFrames) :
    a.halve.Counted samples := by
  have heven : 2 * (a.n / 2) = a.n := by
    rw [hn]
    rfl
  obtain ⟨hsums, -⟩ := getD_mergePairs (· + ·) 0 a.sums (k := a.n / 2)
    (by rw [heven, h.buffers.1, hn])
  obtain ⟨hcounts, hget⟩ := getD_mergePairs (fun c d => wrapInt64 (c + d)) 0 a.counts
    (k := a.n / 2) (by rw [heven, h.buffers.2, hn])
  have hpair : ∀ i < a.n / 2, a.halve.counts.getD i 0 =
      wrapInt64 (a.counts.getD (2 * i) 0 + a.counts.getD (2 * i + 1) 0) := by
    intro i hi
    exact (hget i).trans (if_pos hi)
  have hsum : ∑ i ∈ Finset.range (a.n / 2),
      (a.counts.getD (2 * i) 0 + a.counts.getD (2 * i + 1) 0) =
        ∑ i ∈ Finset.range a.n, a.counts.getD i 0 := by
    rw [sum_pairs fun i => a.counts.getD i 0, heven]
  refine ⟨(Nat.div_le_self _ _).trans h.stored,
    ⟨hsums.trans h.buffers.1, hcounts.trans h.buffers.2⟩, ?_, fun hlt => ?_⟩
  · have hmerged : ∑ i ∈ Finset.range (a.n / 2), a.halve.counts.getD i 0 ≡
        ∑ i ∈ Finset.range a.n, a.counts.getD i 0 [ZMOD 2 ^ 64] := by
      rw [← hsum]
      apply Int.ModEq.sum
      intro i hi
      rw [hpair i (Finset.mem_range.mp hi)]
      exact wrapInt64_modEq _
    exact (hmerged.add_right _).trans h.int64
  · obtain ⟨htotal, hcur, hnonneg⟩ := h.exact hlt
    have hpair_nonneg : ∀ i < a.n / 2,
        0 ≤ a.counts.getD (2 * i) 0 + a.counts.getD (2 * i + 1) 0 := fun i hi =>
      add_nonneg (hnonneg _ (by omega)) (hnonneg _ (by omega))
    -- two frames together hold no more samples than all
    have hexact : ∀ i < a.n / 2, a.halve.counts.getD i 0 =
        a.counts.getD (2 * i) 0 + a.counts.getD (2 * i + 1) 0 := by
      intro i hi
      have hle := Finset.single_le_sum (f := fun i =>
        a.counts.getD (2 * i) 0 + a.counts.getD (2 * i + 1) 0)
        (fun i hi => hpair_nonneg i (Finset.mem_range.mp hi)) (Finset.mem_range.mpr hi)
      rw [hsum] at hle
      unfold total at htotal
      have := hpair_nonneg i hi
      rw [hpair i hi, wrapInt64_of_isInt64 ⟨by omega, by omega⟩]
    refine ⟨?_, hcur, fun i hi => (hexact i hi).symm ▸ hpair_nonneg i hi⟩
    rw [← htotal]
    unfold total
    rw [← hsum, ← Finset.sum_congr rfl fun i hi => hexact i (Finset.mem_range.mp hi)]
    rfl

theorem Counted.flushFrame (h : a.Counted samples) : a.flushFrame.Counted samples := by
  unfold WaveformAccumulator.flushFrame
  split
  · exact h
  split
  · rename_i hfull
    exact (h.halve hfull).store (by change a.n / 2 < _; rw [hfull]; decide)
  · rename_i hfull
    exact h.store (lt_of_le_of_ne h.stored hfull)

theorem Counted.push (h : a.Counted samples) (sample : Int) :
    (a.push sample).Counted (samples + 1) := by
  unfold WaveformAccumulator.push
  simp only
  split
  · exact (h.count sample).flushFrame
  · exact h.count sample

theorem counted_foldl_push (pushed : List Int) : (pushed.foldl push new).Counted pushed.length := by
  induction pushed using List.reverseRecOn with
  | nil => exact counted_new
  | append_singleton pushed sample ih =>
    rw [List.foldl_append, List.length_append]
    exact ih.push sample

/-! ### Ranges -/

theorem bucketRange_spec {n b : Nat} (hn : n ≠ 0) (hb : b < waveformBuckets) :
    (bucketRange n b).1 < (bucketRange n b).2 ∧ (bucketRange n b).2 ≤ n := by
  have hstart : b * n / waveformBuckets < n := by
    rw [Nat.div_lt_iff_lt_mul (by decide), Nat.mul_comm n]
    exact Nat.mul_lt_mul_of_pos_right hb (Nat.pos_of_ne_zero hn)
  unfold bucketRange
  dsimp only
  split <;> split <;> omega

/-! ### The result -/

theorem flushFrame_curCount (a : WaveformAccumulator) : a.flushFrame.curCount = 0 := by
  unfold flushFrame
  split
  · assumption
  split
  · rfl
  · rfl

theorem Counted.flushFrame_n_ne_zero (h : a.Counted samples) (hpos : samples ≠ 0)
    (hlt : samples < 2 ^ 63) : a.flushFrame.n ≠ 0 := by
  intro hn
  have htotal := (h.flushFrame.exact hlt).1
  unfold total at htotal
  rw [hn, Finset.sum_range_zero, flushFrame_curCount] at htotal
  exact hpos (Int.natCast_eq_zero.mp htotal.symm)

theorem Counted.countFrames (h : a.Counted samples) (hlt : samples < 2 ^ 63) {k : Nat}
    (hk : k ≤ a.n) : a.countFrames 0 k = ∑ i ∈ Finset.range k, a.counts.getD i 0 := by
  obtain ⟨htotal, hcur, hnonneg⟩ := h.exact hlt
  induction k with
  | zero => rfl
  | succ k ih =>
    have hstep : a.countFrames 0 (k + 1) =
        wrapInt64 (a.countFrames 0 k + a.counts.getD k 0) := by
      unfold WaveformAccumulator.countFrames
      rw [Nat.sub_zero, Nat.sub_zero, List.range'_1_concat, List.foldl_append, Nat.zero_add]
      rfl
    rw [hstep, ih (by omega), ← Finset.sum_range_succ]
    -- a part of the samples is no more than all of them
    have hpart : 0 ≤ ∑ i ∈ Finset.range (k + 1), a.counts.getD i 0 :=
      Finset.sum_nonneg fun i hi => hnonneg i (by have := Finset.mem_range.mp hi; omega)
    have hall : ∑ i ∈ Finset.range (k + 1), a.counts.getD i 0 ≤
        ∑ i ∈ Finset.range a.n, a.counts.getD i 0 :=
      Finset.sum_le_sum_of_subset_of_nonneg (Finset.range_subset_range.mpr hk)
        fun i hi _ => hnonneg i (Finset.mem_range.mp hi)
    unfold total at htotal
    exact wrapInt64_of_isInt64 ⟨by omega, by omega⟩

theorem Counted.finalize (h : a.Counted samples) (hpos : samples ≠ 0) (hlt : samples < 2 ^ 63) :
    ∃ peaks, a.finalize = .ok (peaks, samples) := by
  have hflush := h.flushFrame
  have hcount : a.flushFrame.countFrames 0 a.flushFrame.n = samples := by
    rw [hflush.countFrames hlt le_rfl, ← (hflush.exact hlt).1, total, flushFrame_curCount, add_zero]
  unfold WaveformAccumulator.finalize
  rw [if_neg (h.flushFrame_n_ne_zero hpos hlt)]
  dsimp only
  rw [hcount]
  exact ⟨_, rfl⟩

/-- However a stream is split into reads, the values of its pairs of bytes are pushed; at every
point no more frames are stored than there is room for, and they hold, with the current one, the
samples pushed so far, which merging keeps; the range of each bucket holds a frame and only stored
ones. The number of samples that comes out is that of the stream. -/
theorem consumePCM_keeps_samples (s : PcmReads) :
    (new.consumePCM s).1 = (samplesOf s.bytes).foldl push new ∧
    (∀ pushed, pushed <+: samplesOf s.bytes →
      (pushed.foldl push new).Counted pushed.length ∧
        (pushed.foldl push new).flushFrame.Counted pushed.length) ∧
    (∀ (a : WaveformAccumulator) samples, a.Counted samples → a.n = waveformMaxFrames →
      a.halve.Counted samples) ∧
    ((new.consumePCM s).1.flushFrame.n ≠ 0 → ∀ b < waveformBuckets,
      let range := bucketRange (new.consumePCM s).1.flushFrame.n b
      range.1 < range.2 ∧ range.2 ≤ (new.consumePCM s).1.flushFrame.n) ∧
    (samplesOf s.bytes ≠ [] → (samplesOf s.bytes).length < 2 ^ 63 →
      ∃ peaks, (new.consumePCM s).1.finalize = .ok (peaks, (samplesOf s.bytes).length)) := by
  have hconsumed := consumePCM_fst new s
  refine ⟨hconsumed, ?_, fun a samples h hfull => h.halve hfull,
    fun hn b hb => bucketRange_spec hn hb, ?_⟩
  · intro pushed _
    exact ⟨counted_foldl_push pushed, (counted_foldl_push pushed).flushFrame⟩
  · intro hne hlt
    rw [hconsumed]
    exact (counted_foldl_push _).finalize (fun h => hne (List.length_eq_zero_iff.mp h)) hlt

/-- Two samples, each split between two reads. -/
theorem consumePCM_keeps_samples_split :
    (new.consumePCM ⟨[[1], [], [0, 255]], [255], none⟩).1 = (new.push 1).push (-1) ∧
      ∃ peaks, (new.consumePCM ⟨[[1], [], [0, 255]], [255], none⟩).1.finalize = .ok (peaks, 2) := by
  have h := consumePCM_keeps_samples ⟨[[1], [], [0, 255]], [255], none⟩
  have hsamples : samplesOf (PcmReads.bytes ⟨[[1], [], [0, 255]], [255], none⟩) = [1, -1] := by
    decide
  rw [hsamples] at h
  exact ⟨h.1, h.2.2.2.2 (by decide) (by decide)⟩

end WaveformAccumulator

end OpenAudio.Mediorum
