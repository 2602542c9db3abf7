import OpenAudio.Lib.ReadSeeker
import OpenAudio.Core.Types

/-!
# A blob behind a tag

`serveBlob` puts an ID3 tag in front of a blob and hands both to `http.ServeContent` as one stream.
The stream keeps a position of its own and moves the reader of the blob along on every seek. While
the position is in the tag, that reader stands at the start of the blob; after the tag it stands as
far into the blob as the position is past the tag.
-/

namespace OpenAudio.Mediorum

open OpenAudio.Core ReadSeeker

structure TaggedStream (σ : Type) where
  tag : Bytes
  blob : σ
  pos : Int

variable {σ : Type} (r : ReadSeeker UInt8 σ)

namespace TaggedStream

/-- `Read`. A slice from a negative position on panics. -/
def read (len : Nat) (t : TaggedStream σ) : (Bytes × Option ReadError) × TaggedStream σ :=
  if t.pos < t.tag.length then
    if t.pos < 0 then (([], some .panic), t)
    else
      let out := (t.tag.drop t.pos.toNat).take len
      ((out, none), { t with pos := wrapInt64 (t.pos + out.length) })
  else
    let ((out, err), blob) := r.read len t.blob
    ((out, err), { t with blob, pos := wrapInt64 (t.pos + out.length) })

/-- The end of `Seek`: the position is set before the reader of the blob is, and in the tag an error
of that reader is dropped. -/
def seekTo (abs : Int) (t : TaggedStream σ) : Except String Int × TaggedStream σ :=
  if abs < t.tag.length then
    (.ok abs, { t with pos := abs, blob := (r.seek 0 .start t.blob).2 })
  else
    match r.seek (wrapInt64 (abs - t.tag.length)) .start t.blob with
    | (.error e, blob) => (.error e, { t with pos := abs, blob })
    | (.ok _, blob) => (.ok abs, { t with pos := abs, blob })

def seek (offset : Int) (whence : Whence) (t : TaggedStream σ) :
    Except String Int × TaggedStream σ :=
  match whence with
  | .start => seekTo r offset t
  | .current => seekTo r (wrapInt64 (t.pos + offset)) t
  | .last =>
    match r.seek 0 .last t.blob with
    | (.error e, blob) => (.error e, { t with blob })
    | (.ok blobSize, blob) =>
      seekTo r (wrapInt64 (wrapInt64 (t.tag.length + blobSize) + offset)) { t with blob }
  | .other => (.error "invalid seek whence", t)

/-- The stream as a reader. -/
def reader : ReadSeeker UInt8 (TaggedStream σ) where
  read := read r
  seek := seek r

/-- What `serveBlob` builds: the blob is rewound. -/
def serve (tag : Bytes) (blob : σ) : TaggedStream σ :=
  { tag, blob := (r.seek 0 .start blob).2, pos := 0 }

/-! ### One call -/

/-- The stream stands at `p`, and the reader of the blob where it is to continue. -/
structure At (tag blob : Bytes) (pos : σ → Nat) (t : TaggedStream σ) (p : Nat) : Prop where
  sameTag : t.tag = tag
  position : t.pos = p
  int64 : (p : Int) < 2 ^ 63
  inBlob : min (pos t.blob) blob.length = min (p - tag.length) blob.length

theorem call_read (len : Nat) (t : TaggedStream σ) :
    (reader r).call t (.read len) =
      (.bytes (TaggedStream.read r len t).1.1 (TaggedStream.read r len t).1.2,
        (TaggedStream.read r len t).2) := rfl

/-- The position is set and the blob's reader follows, wherever they stood. -/
theorem seekTo_spec {r : ReadSeeker UInt8 σ} {blob : Bytes} {pos : σ → Nat}
    (hr : r.Correct blob pos) (t : TaggedStream σ) {n : Int} (hn : 0 ≤ n) (hn' : n < 2 ^ 63) :
    (seekTo r n t).1 = .ok n ∧ At t.tag blob pos (seekTo r n t).2 n.toNat := by
  unfold seekTo
  by_cases hin : n < t.tag.length
  · obtain ⟨-, -, -, hafter⟩ := hr.seek 0 .start t.blob 0 rfl (by omega)
    rw [if_pos hin]
    refine ⟨rfl, rfl, by dsimp only; omega, by omega, ?_⟩
    rw [show n.toNat - t.tag.length = 0 by omega]
    exact hafter
  · have hwrap : wrapInt64 (n - t.tag.length) = n - t.tag.length :=
      wrapInt64_of_isInt64 ⟨by omega, by omega⟩
    obtain ⟨k, hok, -, hafter⟩ :=
      hr.seek (n - t.tag.length) .start t.blob (n - t.tag.length) rfl (by omega)
    rw [if_neg hin, hwrap]
    generalize r.seek (n - t.tag.length) .start t.blob = result at hok hafter
    obtain ⟨res, after⟩ := result
    cases hok
    refine ⟨rfl, rfl, by dsimp only; omega, by omega, ?_⟩
    rw [show n.toNat - t.tag.length = (n - t.tag.length).toNat by omega]
    exact hafter

section Calls

variable {r} {tag blob : Bytes} {pos : σ → Nat} (hr : r.Correct blob pos)
  (hsize : ((tag ++ blob).length : Int) < 2 ^ 63) {t : TaggedStream σ} {p : Nat}
  (h : At tag blob pos t p)

include hsize h

theorem At.readTag (hin : p < tag.length) (len : Nat) :
    MayReply (tag ++ blob) p (.read len) ((reader r).call t (.read len)).1 ∧
      At tag blob pos ((reader r).call t (.read len)).2
        (nextPosition p ((reader r).call t (.read len)).1) := by
  obtain ⟨rfl, hpos, hint, hblob⟩ := h
  rw [List.length_append] at hsize
  have hread : TaggedStream.read r len t =
      (((t.tag.drop p).take len, none),
        { t with pos := wrapInt64 (p + ((t.tag.drop p).take len).length) }) := by
    unfold TaggedStream.read
    rw [hpos, if_pos (by omega), if_neg (by omega), Int.toNat_natCast]
  have hlength : ((t.tag.drop p).take len).length ≤ (t.tag.drop p).length :=
    List.length_take_le' _ _
  have hdrop := List.length_drop (l := t.tag) (i := p)
  rw [call_read, hread]
  simp only [nextPosition]
  refine ⟨⟨List.length_take_le _ _, ?_, by simp, by simp⟩, ⟨rfl, ?_, ?_, ?_⟩⟩
  · rw [List.drop_append_of_le_length (Nat.le_of_lt hin), List.take_append_of_le_length hlength]
    exact take_eq_take_length _ _
  · rw [wrapInt64_of_isInt64 ⟨by omega, by omega⟩, Int.natCast_add]
  · omega
  · -- the blob is still at its start, whether or not the tag ends here
    rw [show p + ((t.tag.drop p).take len).length - t.tag.length = p - t.tag.length by omega]
    exact hblob

include hr in
theorem At.readBlob (hout : tag.length ≤ p) (len : Nat) :
    MayReply (tag ++ blob) p (.read len) ((reader r).call t (.read len)).1 ∧
      At tag blob pos ((reader r).call t (.read len)).2
        (nextPosition p ((reader r).call t (.read len)).1) := by
  obtain ⟨rfl, hpos, hint, hblob⟩ := h
  rw [List.length_append] at hsize
  obtain ⟨hlen, hbytes, hpanic, heof, hafter⟩ := hr.read len t.blob
  generalize hread : r.read len t.blob = result at hlen hbytes hpanic heof hafter
  obtain ⟨⟨out, err⟩, after⟩ := result
  dsimp only at hlen hbytes hpanic heof hafter
  have hread' : TaggedStream.read r len t =
      ((out, err), { t with blob := after, pos := wrapInt64 (p + out.length) }) := by
    unfold TaggedStream.read
    rw [if_neg (by omega), hread, hpos]
  have hcontent : (t.tag ++ blob).drop p = blob.drop (pos t.blob) := by
    rw [List.drop_append, List.drop_eq_nil_of_le hout, List.nil_append, drop_eq_of_min_eq hblob]
  -- nothing comes from beyond the end
  have hwithin : out.length ≤ blob.length - pos t.blob := by
    rw [hbytes, List.length_take, List.length_drop]
    exact Nat.min_le_right _ _
  rw [call_read, hread']
  simp only [nextPosition]
  refine ⟨⟨hlen, by rw [hcontent]; exact hbytes, hpanic, ?_⟩, ⟨rfl, ?_, ?_, ?_⟩⟩
  · intro hend
    have := heof hend
    rw [List.length_append]
    omega
  · rw [wrapInt64_of_isInt64 ⟨by omega, by omega⟩, Int.natCast_add]
  · omega
  · rw [hafter]
    omega

include hr in
theorem At.seek {offset : Int} {whence : Whence} {n : Int}
    (htarget : target (tag ++ blob).length p offset whence = some n) (hn : 0 ≤ n)
    (hn' : n < 2 ^ 63) :
    (TaggedStream.seek r offset whence t).1 = .ok n ∧
      At tag blob pos (TaggedStream.seek r offset whence t).2 n.toNat := by
  obtain ⟨rfl, hpos, hint, -⟩ := h
  cases whence with
  | start =>
    cases htarget
    exact seekTo_spec hr t hn hn'
  | current =>
    obtain rfl : (p : Int) + offset = n := Option.some.inj htarget
    have hwrap : wrapInt64 (t.pos + offset) = p + offset := by
      rw [hpos, wrapInt64_of_isInt64 ⟨by omega, by omega⟩]
    simp only [TaggedStream.seek, hwrap]
    exact seekTo_spec hr t hn hn'
  | last =>
    rw [List.length_append] at hsize htarget
    obtain rfl : ((t.tag.length + blob.length : Nat) : Int) + offset = n := Option.some.inj htarget
    -- the size of the blob is where a seek to its end leads
    obtain ⟨k, hok, hk, -⟩ := hr.seek 0 .last t.blob (blob.length + 0) rfl (by omega)
    obtain rfl : k = blob.length := by simpa using hk
    have hsum : wrapInt64 (wrapInt64 (t.tag.length + blob.length) + offset) =
        ((t.tag.length + blob.length : Nat) : Int) + offset := by
      rw [wrapInt64_of_isInt64 (n := t.tag.length + blob.length) ⟨by omega, by omega⟩,
        wrapInt64_of_isInt64 ⟨by omega, by omega⟩, Int.natCast_add]
    unfold TaggedStream.seek
    generalize r.seek 0 .last t.blob = result at hok
    obtain ⟨res, after⟩ := result
    cases hok
    simp only [hsum]
    exact seekTo_spec hr { t with blob := after } hn hn'
  | other => cases htarget

include hr in
theorem At.call {c : Call} (hc : Seekable (tag ++ blob).length p c) :
    MayReply (tag ++ blob) p c ((reader r).call t c).1 ∧
      At tag blob pos ((reader r).call t c).2 (nextPosition p ((reader r).call t c).1) := by
  cases c with
  | read len =>
    by_cases hin : p < tag.length
    · exact h.readTag hsize hin len
    · exact h.readBlob hr hsize (Nat.le_of_not_lt hin) len
  | seek offset whence =>
    cases htarget : target (tag ++ blob).length p offset whence with
    | none =>
      obtain rfl : whence = .other := by cases whence <;> first | rfl | cases htarget
      exact ⟨htarget, h⟩
    | some n =>
      obtain ⟨hn, hn'⟩ := hc n htarget
      obtain ⟨hok, hat⟩ := h.seek hr hsize htarget hn hn'
      have hcall : (reader r).call t (.seek offset whence) =
          (.offset n, (TaggedStream.seek r offset whence t).2) := call_seek_of_ok hok
      rw [hcall]
      exact ⟨htarget, hat⟩

end Calls

theorem at_serve {r : ReadSeeker UInt8 σ} {blob : Bytes} {pos : σ → Nat} (hr : r.Correct blob pos)
    (tag : Bytes) (s : σ) : At tag blob pos (serve r tag s) 0 := by
  obtain ⟨-, -, -, hafter⟩ := hr.seek 0 .start s 0 rfl (by omega)
  exact ⟨rfl, rfl, by decide, by rw [Nat.zero_sub]; exact hafter⟩

/-! ### Every sequence of calls -/

/-- A read in the tag returns as much of it as fits and is left. -/
theorem At.read_tag {r : ReadSeeker UInt8 σ} {tag blob : Bytes} {pos : σ → Nat}
    {t : TaggedStream σ} {p : Nat} (h : At tag blob pos t p) (hin : p < tag.length) (len : Nat) :
    ((reader r).call t (.read len)).1 = .bytes ((tag.drop p).take len) none := by
  obtain ⟨rfl, hpos, -, -⟩ := h
  rw [call_read, TaggedStream.read, hpos, if_pos (by omega), if_neg (by omega), Int.toNat_natCast]

/-- With a reader of the blob that always brings something, so does the stream. -/
theorem At.brings {r : ReadSeeker UInt8 σ} (hlive : r.Live) {tag blob : Bytes} {pos : σ → Nat}
    {t : TaggedStream σ} {p : Nat} (h : At tag blob pos t p) {len : Nat} (hlen : 0 < len) :
    Brings (.read len, ((reader r).call t (.read len)).1) := by
  by_cases hin : p < tag.length
  · rw [h.read_tag hin]
    exact .inl (List.ne_nil_of_length_pos (by rw [List.length_take, List.length_drop]; omega))
  · obtain ⟨rfl, hpos, -, -⟩ := h
    rw [call_read, TaggedStream.read, hpos, if_neg (by omega)]
    exact hlive len t.blob hlen

/-- Where the reader of the blob keeps its contract, the stream `serveBlob` builds replies to every
sequence of calls, with seeks to offsets only, like a plain reader over the tag and the blob. Reads
from any position on deliver the content from there, all of it once they report its end; a read in
the tag fills the buffer as far as the tag goes; and unless the reader of the blob stalls, reads
come to the end within as many calls as bytes are left, and one. -/
theorem serve_plain {r : ReadSeeker UInt8 σ} {blob : Bytes} {pos : σ → Nat}
    (hr : r.Correct blob pos) (tag : Bytes) (hsize : ((tag ++ blob).length : Int) < 2 ^ 63) (s : σ)
    (calls : List Call)
    (hseeks : Seeks (tag ++ blob).length 0 ((reader r).exchanges calls (serve r tag s))) :
    Plain (tag ++ blob) 0 ((reader r).exchanges calls (serve r tag s)) ∧
    (∀ before reads after, (reader r).exchanges calls (serve r tag s) = before ++ reads ++ after →
      (∀ e ∈ reads, IsRead e.1) →
      delivered reads <+: (tag ++ blob).drop (position 0 before) ∧
        ((∃ e ∈ reads, ∃ out, e.2 = .bytes out (some .eof)) →
          delivered reads = (tag ++ blob).drop (position 0 before))) ∧
    (∀ before len reply after, (reader r).exchanges calls (serve r tag s) =
        before ++ (.read len, reply) :: after → position 0 before < tag.length →
      reply = .bytes ((tag.drop (position 0 before)).take len) none) ∧
    (r.Live → ∀ before reads after,
      (reader r).exchanges calls (serve r tag s) = before ++ reads ++ after →
      (∀ e ∈ reads, ∃ len, 0 < len ∧ e.1 = .read len) →
      (tag ++ blob).length - position 0 before < reads.length →
      ∃ e ∈ reads, ∃ out, e.2 = .bytes out (some .eof)) := by
  have hstep := fun t p c (hat : At tag blob pos t p) (hc : Seekable (tag ++ blob).length p c) =>
    hat.call hr hsize hc
  have hserve := at_serve hr tag s
  have hplain : Plain (tag ++ blob) 0 ((reader r).exchanges calls (serve r tag s)) :=
    plain_of_coupled (reader r) (tag ++ blob) (At tag blob pos) hstep calls hserve hseeks
  refine ⟨hplain, fun before reads after htrace hreads => ?_,
    fun before len reply after htrace hin => ?_,
    fun hlive before reads after htrace hreads hlength => ?_⟩
  · rw [htrace] at hplain
    exact hplain.append.1.append.2.delivered hreads
  · obtain ⟨t, hat, hreply⟩ := coupled_of_split hstep hserve hseeks htrace
    exact hreply.trans (hat.read_tag hin len)
  · refine (htrace ▸ hplain).append.1.append.2.reaches_eof (fun e he => ?_) hlength
    obtain ⟨reads₁, reads₂, rfl⟩ := List.append_of_mem he
    rw [List.append_assoc, List.append_assoc, ← List.append_assoc, List.cons_append] at htrace
    obtain ⟨t, hat, hreply⟩ := coupled_of_split hstep hserve hseeks htrace
    obtain ⟨len, hlen, hcall⟩ := hreads e he
    obtain ⟨c, reply⟩ := e
    cases hcall
    cases hreply
    exact hat.brings hlive hlen

/-- The size is asked for, then the part from the second byte of the tag on is read to its end. -/
theorem serve_plain_range :
    let calls := [.seek 0 .last, .seek 1 .start, .read 2, .read 5, .read 5, .read 5]
    let trace := (reader (ReadSeeker.ofList [3, 4])).exchanges calls
      (serve (ReadSeeker.ofList [3, 4]) [1, 2] 1)
    Plain [1, 2, 3, 4] 0 trace ∧ (trace.drop 2).head? = some (.read 2, .bytes [2] none) ∧
      delivered (trace.drop 2) = [2, 3, 4] := by
  intro calls trace
  have htrace : trace = [(.seek 0 .last, .offset 4), (.seek 1 .start, .offset 1),
      (.read 2, .bytes [2] none), (.read 5, .bytes [3, 4] none),
      (.read 5, .bytes [] (some .eof)), (.read 5, .bytes [] (some .eof))] := by decide +kernel
  obtain ⟨hplain, hdelivered, htag, hend⟩ := serve_plain (ofList_correct [3, 4]) [1, 2] (by decide)
    1 calls (by
      change Seeks 4 0 trace
      rw [htrace]
      simp [Seeks, Seekable, target])
  have hsplit : trace = trace.take 2 ++ trace.drop 2 ++ [] := by simp
  have hposition : position 0 (trace.take 2) = 1 := by rw [htrace]; rfl
  have heof := hend (ofList_live _) _ _ _ hsplit (by rw [htrace]; simp)
    (by rw [hposition, htrace]; decide)
  have hall := (hdelivered _ _ _ hsplit (by rw [htrace]; simp [IsRead])).2 heof
  refine ⟨hplain, ?_, by rw [hall, hposition]; rfl⟩
  have hreply := htag (trace.take 2) 2 (.bytes [2] none) (trace.drop 3) (by
    change trace = _
    rw [htrace]
    rfl) (by rw [hposition]; decide)
  rw [htrace, hreply, hposition]
  rfl

end TaggedStream

end OpenAudio.Mediorum
