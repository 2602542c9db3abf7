import OpenAudio.Mediorum.Repair
import OpenAudio.Lib.GoText

/-!
# A blob in ranged requests

A blob is read from a peer chunk by chunk, each with a request of its own for the bytes from the
offset the reader has come to. A request may fail, and a presigned URL expire.
-/

namespace OpenAudio.Mediorum

open OpenAudio.Core

def blobFetchChunkAttempts : Nat := 3

/-- `parseContentRange`: the total size after the last slash. -/
def parseContentRange (v : String) : Except String Int :=
  match (v.toList.splitOn '/').reverse with
  | sizePart :: _ :: _ =>
    if sizePart = ['*'] then .error ("Content-Range " ++ v ++ " has unknown total size")
    else match parseInt64 (String.ofList sizePart) with
      | some total => .ok total
      | none => .error ("strconv.ParseInt: parsing " ++ String.ofList sizePart)
  | _ => .error ("malformed Content-Range " ++ v)

/-- `cur` is what is left of the body that is being read. -/
structure ChunkedBlobReader where
  total : Int := 0
  offset : Nat := 0
  cur : Option Bytes
  singleStream : Bool := false
  signTarget : Bool := true
deriving DecidableEq

/-- How the peer answers the first request. The last field is whether the URL that served the bytes
is the peer's own endpoint. -/
inductive StartAnswer where
  | failed (e : String)
  | partialContent (contentRange : String) (body : Bytes) (direct : Bool)
  | ok (body : Bytes)
  | badStatus (status : Nat)

def ChunkedBlobReader.start : StartAnswer → Except String ChunkedBlobReader
  | .failed e => .error e
  | .partialContent contentRange body direct => do
    let total ← parseContentRange contentRange
    return { total, cur := some body, signTarget := direct }
  | .ok body => .ok { cur := some body, singleStream := true }
  | .badStatus status => .error ("pull blob: bad status: " ++ toString status)

/-- How the request for a chunk is answered: with the bytes, or not. If the URL is refused, this is
also what the peer says when it is asked for a new one: whether that is its own endpoint. -/
inductive ChunkAnswer where
  | failed (e : String)
  | partialContent
  | refused (refresh : Except String Bool)
  | badStatus (status : Nat)

/-- One `Read` of the body: up to so many bytes, and if the body is at its end, the answers to the
requests for the next chunk; no bytes and no error; or an error. -/
inductive BodyRead where
  | bytes (n : Nat) (answers : Nat → ChunkAnswer)
  | idle
  | broken (e : String)

inductive ReadResult where
  | data (bytes : Bytes)
  | eof
  | error (e : String)
deriving DecidableEq

def ReadResult.bytes : ReadResult → Bytes
  | data bytes => bytes
  | _ => []

namespace ChunkedBlobReader

-- the body of the answer to the request for the range from an offset on
variable (serve : Nat → Bytes)

/-- `nextChunk`, with so many attempts left. A refused URL of the peer's own endpoint is a bad
status. -/
def nextChunk : Nat → (Nat → ChunkAnswer) → ChunkedBlobReader → Except String ChunkedBlobReader
  | 0, _, r => .error ("pull blob chunk at " ++ toString r.offset)
  | attempts + 1, answers, r =>
    match answers 0 with
    | .partialContent => .ok { r with cur := some (serve r.offset) }
    | .failed _ => nextChunk attempts (fun i => answers (i + 1)) r
    | .badStatus _ => nextChunk attempts (fun i => answers (i + 1)) r
    | .refused refresh =>
      if r.signTarget then nextChunk attempts (fun i => answers (i + 1)) r
      else match refresh with
        | .error e => .error e
        | .ok direct => nextChunk attempts (fun i => answers (i + 1)) { r with signTarget := direct }

/-- `Read` into a buffer of this length, while the body is read like this; none if the loop goes on.
After an error of `nextChunk` there is no body, and no request is made any more. -/
def read (length : Nat) : List BodyRead → ChunkedBlobReader → Option (ReadResult × ChunkedBlobReader)
  | [], r => if r.cur = none then some (.eof, r) else none
  | event :: events, r =>
    match r.cur, event with
    | none, _ => some (.eof, r)
    | some _, .idle => read length events r
    | some _, .broken e => some (.error e, r)
    | some body, .bytes n answers =>
      if body.take (min n length) ≠ [] then
        some (.data (body.take (min n length)), { r with
          offset := r.offset + (body.take (min n length)).length
          cur := some (body.drop (min n length)) })
      else if body ≠ [] then read length events r
      else if r.singleStream = true ∨ r.total ≤ r.offset then some (.eof, { r with cur := none })
      else match nextChunk serve blobFetchChunkAttempts answers { r with cur := none } with
        | .error e => some (.error e, { r with cur := none })
        | .ok r' => read length events r'

/-- The calls of a caller, each with the length of its buffer. -/
def reads : List (Nat × List BodyRead) → ChunkedBlobReader →
    Option (List ReadResult × ChunkedBlobReader)
  | [], r => some ([], r)
  | call :: calls, r => do
    let (result, r₁) ← read serve call.1 call.2 r
    let (results, r₂) ← reads calls r₁
    return (result :: results, r₂)

end ChunkedBlobReader

/-! ### What is delivered -/

/-- The range of `rangeRequest`, clipped to the blob. -/
def rangeBody (blob : Bytes) (chunkSize start : Nat) : Bytes := (blob.drop start).take chunkSize

/-- The bytes are those that were asked for. A peer that ignores the range sends the whole blob. -/
def StartAnswer.Faithful (blob : Bytes) (chunkSize : Nat) : StartAnswer → Prop
  | partialContent contentRange body _ =>
    parseContentRange contentRange = .ok (blob.length : Int) ∧ body = rangeBody blob chunkSize 0
  | ok body => body = blob
  | _ => True

/-- A chunk is served by one of so many attempts, and until then none fails for good. -/
def Served (attempts : Nat) (answers : Nat → ChunkAnswer) : Prop :=
  ∃ i < attempts, answers i = .partialContent ∧ ∀ j < i, ∀ e, answers j ≠ .refused (.error e)

/-- A call with a buffer, in which the body gives bytes while it has some and a chunk is served. -/
def Live (call : Nat × List BodyRead) : Prop :=
  0 < call.1 ∧ ∃ n answers m answers' rest,
    call.2 = .bytes (n + 1) answers :: .bytes (m + 1) answers' :: rest ∧
      Served blobFetchChunkAttempts answers

namespace ChunkedBlobReader

/-- The body that is being read goes on with the blob where the reader is. -/
structure Reading (blob : Bytes) (r : ChunkedBlobReader) : Prop where
  offset_le : r.offset ≤ blob.length
  body : ∀ body ∈ r.cur, body <+: blob.drop r.offset
  single : r.singleStream = true → ∀ body ∈ r.cur, body = blob.drop r.offset
  total : r.singleStream = false → r.total = blob.length

variable {serve : Nat → Bytes} {blob : Bytes} {chunkSize : Nat} {r r' : ChunkedBlobReader}

theorem reading_start {answer : StartAnswer} (hanswer : answer.Faithful blob chunkSize)
    (h : start answer = .ok r) : r.Reading blob ∧ r.offset = 0 ∧ r.cur ≠ none := by
  cases answer with
  | failed e => cases h
  | badStatus status => cases h
  | ok body =>
    cases h
    cases hanswer
    exact ⟨⟨Nat.zero_le _, by simp, by simp, nofun⟩, rfl, nofun⟩
  | partialContent contentRange body direct =>
    obtain ⟨htotal, rfl⟩ := hanswer
    simp only [start, htotal] at h
    cases h
    exact ⟨⟨Nat.zero_le _, by simp [rangeBody, List.take_prefix], nofun, fun _ => rfl⟩, rfl, nofun⟩

theorem nextChunk_eq_ok {attempts : Nat} {answers : Nat → ChunkAnswer}
    (h : nextChunk serve attempts answers r = .ok r') :
    r'.cur = some (serve r.offset) ∧ r'.offset = r.offset ∧ r'.total = r.total ∧
      r'.singleStream = r.singleStream := by
  induction attempts generalizing answers r with
  | zero => cases h
  | succ attempts ih =>
    unfold nextChunk at h
    split at h
    · cases h
      exact ⟨rfl, rfl, rfl, rfl⟩
    · exact ih h
    · exact ih h
    · split at h
      · exact ih h
      · split at h
        · cases h
        · have hrest := ih h
          exact hrest

theorem nextChunk_of_served (serve : Nat → Bytes) {attempts : Nat} {answers : Nat → ChunkAnswer}
    (h : Served attempts answers) (r : ChunkedBlobReader) :
    ∃ r', nextChunk serve attempts answers r = .ok r' := by
  induction attempts generalizing answers r with
  | zero =>
    obtain ⟨i, hi, -⟩ := h
    omega
  | succ attempts ih =>
    obtain ⟨i, hi, hserved, hbefore⟩ := h
    cases i with
    | zero => exact ⟨_, by rw [nextChunk, hserved]⟩
    | succ i =>
      have hrest : Served attempts fun j => answers (j + 1) :=
        ⟨i, by omega, hserved, fun j hj => hbefore (j + 1) (by omega)⟩
      unfold nextChunk
      split
      · exact ⟨_, rfl⟩
      · exact ih hrest r
      · exact ih hrest r
      · rename_i refresh hrefused
        split
        · exact ih hrest r
        · cases refresh with
          | error e => exact absurd hrefused (hbefore 0 (by omega) e)
          | ok direct => exact ih hrest _

/-- A new chunk is the next part of the blob. -/
theorem Reading.nextChunk (hserve : ∀ start, serve start = rangeBody blob chunkSize start)
    (h : r.Reading blob) (hsingle : r.singleStream = false) {attempts : Nat}
    {answers : Nat → ChunkAnswer}
    (hnext : ChunkedBlobReader.nextChunk serve attempts answers { r with cur := none } = .ok r') :
    r'.Reading blob ∧ r'.offset = r.offset ∧ r'.cur = some (rangeBody blob chunkSize r.offset) := by
  obtain ⟨hcur, hoffset, htotal, hstream⟩ := nextChunk_eq_ok hnext
  dsimp only at hcur hoffset htotal hstream
  rw [hserve] at hcur
  refine ⟨⟨hoffset ▸ h.offset_le, ?_, ?_, fun _ => htotal.trans (h.total hsingle)⟩, hoffset, hcur⟩
  · rw [hcur, hoffset]
    rintro body ⟨⟩
    exact List.take_prefix _ _
  · rw [hstream, hsingle]
    nofun

/-- The reader after it took so many bytes of the body. -/
theorem Reading.advance (h : r.Reading blob) {body : Bytes} (hcur : r.cur = some body) (k : Nat) :
    Reading blob { r with
      offset := r.offset + (body.take k).length, cur := some (body.drop k) } ∧
    blob.take (r.offset + (body.take k).length) = blob.take r.offset ++ body.take k := by
  obtain ⟨tail, htail⟩ := h.body body hcur
  have hrest : blob.drop r.offset = body.take k ++ (body.drop k ++ tail) := by
    rw [← htail, ← List.append_assoc, List.take_append_drop]
  have hdrop : blob.drop (r.offset + (body.take k).length) = body.drop k ++ tail := by
    rw [← List.drop_drop, hrest, List.drop_left]
  have hlength := congrArg List.length hrest
  rw [List.length_drop, List.length_append] at hlength
  have hle := h.offset_le
  refine ⟨⟨by dsimp only; omega, ?_, fun hsingle => ?_, h.total⟩, ?_⟩
  · rintro body' ⟨⟩
    exact ⟨tail, hdrop.symm⟩
  · rintro body' ⟨⟩
    have hwhole := h.single hsingle body hcur
    rw [← hwhole] at htail
    rw [hdrop, List.append_right_eq_self.mp htail, List.append_nil]
  · rw [List.take_add, hrest, List.take_left]

/-- The end of the last body is the end of the blob. -/
theorem Reading.offset_eq (h : r.Reading blob) {body : Bytes} (hcur : r.cur = some body)
    (hempty : body = []) (hend : r.singleStream = true ∨ r.total ≤ r.offset) :
    r.offset = blob.length := by
  have hle := h.offset_le
  cases hsingle : r.singleStream with
  | true =>
    have hrest := congrArg List.length (h.single hsingle body hcur)
    rw [hempty, List.length_drop, List.length_nil] at hrest
    omega
  | false =>
    have htotal := h.total hsingle
    rw [hsingle] at hend
    simp only [Bool.false_eq_true, false_or, htotal] at hend
    omega

/-- What one call delivers, and where it leaves the reader. Without an error, a reader has no body
only at the end of the blob. -/
theorem read_spec (hserve : ∀ start, serve start = rangeBody blob chunkSize start)
    {length : Nat} {events : List BodyRead} {result : ReadResult} (h : r.Reading blob)
    (hread : read serve length events r = some (result, r')) :
    r'.Reading blob ∧ blob.take r'.offset = blob.take r.offset ++ result.bytes ∧
      (result = .eof → r'.cur = none) ∧
      ((∀ e, result ≠ .error e) → (r.cur = none → r.offset = blob.length) →
        r'.cur = none → r'.offset = blob.length) := by
  induction events generalizing r with
  | nil =>
    unfold read at hread
    split at hread
    · rename_i hnone
      cases hread
      exact ⟨h, by simp [ReadResult.bytes], fun _ => hnone, fun _ hend => hend⟩
    · cases hread
  | cons event events ih =>
    unfold read at hread
    split at hread
    · rename_i hnone
      cases hread
      exact ⟨h, by simp [ReadResult.bytes], fun _ => hnone, fun _ hend => hend⟩
    · exact ih h hread
    · rename_i e hcur
      cases hread
      refine ⟨h, by simp [ReadResult.bytes], nofun, fun hno => absurd rfl (hno e)⟩
    · rename_i body n answers hcur
      have hbody := h.body body hcur
      split at hread
      · rename_i htaken
        cases hread
        obtain ⟨hreading, htake⟩ := h.advance hcur (min n length)
        exact ⟨hreading, htake, nofun, fun _ _ => nofun⟩
      · rename_i hnothing
        split at hread
        · exact ih h hread
        · rename_i hempty
          rw [not_not] at hempty
          split at hread
          · rename_i hend
            cases hread
            refine ⟨⟨h.offset_le, nofun, fun _ => nofun, h.total⟩, by simp [ReadResult.bytes],
              fun _ => rfl, fun _ _ _ => ?_⟩
            exact h.offset_eq hcur hempty hend
          · rename_i hmore
            rw [not_or, Bool.not_eq_true] at hmore
            split at hread
            · rename_i e hnext
              cases hread
              exact ⟨⟨h.offset_le, nofun, fun _ => nofun, h.total⟩, by simp [ReadResult.bytes], nofun,
                fun hno => absurd rfl (hno e)⟩
            · rename_i r₁ hnext
              obtain ⟨hreading, hoffset, hcur'⟩ := h.nextChunk hserve hmore.1 hnext
              obtain ⟨h₁, h₂, h₃, h₄⟩ := ih hreading hread
              rw [hoffset] at h₂
              exact ⟨h₁, h₂, h₃, fun hno _ => h₄ hno (by simp [hcur'])⟩

/-- What the calls deliver is the next part of the blob, and all of it at the first end that no error
comes before. -/
theorem reads_spec (hserve : ∀ start, serve start = rangeBody blob chunkSize start)
    {calls : List (Nat × List BodyRead)} {results : List ReadResult} (h : r.Reading blob)
    (hreads : reads serve calls r = some (results, r')) :
    blob.take r'.offset = blob.take r.offset ++ results.flatMap ReadResult.bytes ∧
      ((r.cur = none → r.offset = blob.length) → ∀ before after, results = before ++ .eof :: after →
        (∀ e, .error e ∉ before) →
          blob.take r.offset ++ before.flatMap ReadResult.bytes = blob) := by
  induction calls generalizing r results with
  | nil =>
    cases hreads
    exact ⟨by simp, fun _ before after heq => by simp at heq⟩
  | cons call calls ih =>
    obtain ⟨⟨result, r₁⟩, hread, hreads⟩ := Option.bind_eq_some_iff.mp hreads
    obtain ⟨⟨results', r₂⟩, hrest, heq⟩ := Option.bind_eq_some_iff.mp hreads
    cases heq
    obtain ⟨hreading, htake, heof, hend⟩ := read_spec hserve h hread
    obtain ⟨hall, hwhole⟩ := ih hreading hrest
    refine ⟨by rw [hall, htake, List.flatMap_cons, List.append_assoc], ?_⟩
    intro hnone before after hsplit hno
    cases before with
    | nil =>
      cases hsplit
      have hoffset := hend nofun hnone (heof rfl)
      rw [hoffset, List.take_length] at htake
      simpa [ReadResult.bytes] using htake.symm
    | cons first before =>
      cases hsplit
      have hno₁ : ∀ e, result ≠ .error e := fun e he => hno e (he ▸ List.mem_cons_self)
      rw [List.flatMap_cons, ← List.append_assoc, ← htake]
      exact hwhole (hend hno₁ hnone) before after rfl fun e he =>
        hno e (List.mem_cons_of_mem _ he)

/-- At the end of a body that is not the last one, the loop goes on with the next chunk. -/
theorem read_next {length n : Nat} {answers : Nat → ChunkAnswer} {events : List BodyRead}
    (hcur : r.cur = some []) (hmore : ¬ (r.singleStream = true ∨ r.total ≤ r.offset))
    (hnext : ChunkedBlobReader.nextChunk serve blobFetchChunkAttempts answers { r with cur := none } =
      .ok r') :
    read serve length (.bytes n answers :: events) r = read serve length events r' := by
  conv_lhs => unfold read
  simp only [hcur, List.take_nil, ne_eq, not_true_eq_false, if_false, if_neg hmore, hnext]

/-- A live call delivers bytes or comes to the end. -/
theorem read_of_live (hserve : ∀ start, serve start = rangeBody blob chunkSize start)
    (hchunk : 0 < chunkSize) {call : Nat × List BodyRead} (hlive : Live call) (h : r.Reading blob)
    (hcur : r.cur ≠ none) :
    ∃ r', read serve call.1 call.2 r = some (.eof, r') ∨
      (∃ bytes, read serve call.1 call.2 r = some (.data bytes, r') ∧ r.offset < r'.offset ∧
        r'.cur ≠ none) := by
  obtain ⟨hlength, n, answers, m, answers', rest, hevents, hserved⟩ := hlive
  obtain ⟨body, hbody⟩ := Option.ne_none_iff_exists'.mp hcur
  -- a body that has bytes gives one at least
  have htakes : ∀ (r₁ : ChunkedBlobReader) (body : Bytes) (n : Nat) answers events,
      r₁.cur = some body → body ≠ [] → ∃ r' bytes,
        read serve call.1 (.bytes (n + 1) answers :: events) r₁ = some (.data bytes, r') ∧
          r₁.offset < r'.offset ∧ r'.cur ≠ none := by
    intro r₁ body n answers events hcur₁ hne
    have htaken : body.take (min (n + 1) call.1) ≠ [] := by
      rw [Ne, List.take_eq_nil_iff]
      exact fun hnil => hnil.elim (by omega) hne
    refine ⟨{ r₁ with
      offset := r₁.offset + (body.take (min (n + 1) call.1)).length
      cur := some (body.drop (min (n + 1) call.1)) }, body.take (min (n + 1) call.1), ?_, ?_, by simp⟩
    · simp only [read, hcur₁, if_pos htaken]
    have hpos := List.length_pos_of_ne_nil htaken
    dsimp only
    omega
  rw [hevents]
  by_cases hempty : body = []
  · by_cases hend : r.singleStream = true ∨ r.total ≤ r.offset
    · exact ⟨{ r with cur := none }, .inl (by simp [read, hbody, hempty, hend])⟩
    · obtain ⟨r₁, hnext⟩ := nextChunk_of_served serve hserved { r with cur := none }
      have hnot := not_or.mp hend
      have hsingle : r.singleStream = false := by simpa using hnot.1
      obtain ⟨-, hoffset, hcur₁⟩ := h.nextChunk hserve hsingle hnext
      have hmore : rangeBody blob chunkSize r.offset ≠ [] := by
        have htotal := h.total hsingle
        rw [rangeBody, Ne, List.take_eq_nil_iff, List.drop_eq_nil_iff]
        omega
      obtain ⟨r', bytes, hread, hlt, hcur'⟩ := htakes r₁ _ m answers' rest hcur₁ hmore
      refine ⟨r', .inr ⟨bytes, ?_, hoffset ▸ hlt, hcur'⟩⟩
      rw [read_next (hempty ▸ hbody) hend hnext, hread]
  · obtain ⟨r', bytes, hread, hlt, hcur'⟩ :=
      htakes r body n answers (.bytes (m + 1) answers' :: rest) hbody hempty
    exact ⟨r', .inr ⟨bytes, hread, hlt, hcur'⟩⟩

theorem reads_of_live (hserve : ∀ start, serve start = rangeBody blob chunkSize start)
    (hchunk : 0 < chunkSize) {calls : List (Nat × List BodyRead)} (hlive : ∀ call ∈ calls, Live call)
    (h : r.Reading blob) (hcur : r.cur ≠ none) (hcalls : blob.length - r.offset < calls.length) :
    ∃ before after r', reads serve (calls.take (before.length + 1)) r =
      some (before ++ .eof :: after, r') ∧ ∀ e, .error e ∉ before := by
  induction calls generalizing r with
  | nil => simp at hcalls
  | cons call calls ih =>
    obtain ⟨r₁, hread | ⟨bytes, hread, hlt, hcur₁⟩⟩ :=
      read_of_live hserve hchunk (hlive call List.mem_cons_self) h hcur
    · exact ⟨[], [], r₁, by simp [reads, hread], by simp⟩
    · have hreading := (read_spec hserve h hread).1
      have hle := hreading.offset_le
      rw [List.length_cons] at hcalls
      obtain ⟨before, after, r', hreads, hno⟩ :=
        ih (fun c hc => hlive c (List.mem_cons_of_mem _ hc)) hreading hcur₁ (by omega)
      refine ⟨.data bytes :: before, after, r', ?_, by simpa using hno⟩
      simp [reads, hread, hreads]

/-- For every blob, every chunk size and every answer of the peer that carries the bytes that were
asked for: whatever calls are made and whatever fails, the reader delivers a beginning of the blob,
and the whole blob up to an end that no error comes before; and it comes to that end within as many
live calls as the blob has bytes, and one. -/
theorem delivers_blob (hserve : ∀ start, serve start = rangeBody blob chunkSize start)
    (hchunk : 1 ≤ chunkSize) {answer : StartAnswer} (hanswer : answer.Faithful blob chunkSize)
    (hstart : start answer = .ok r) :
    (∀ calls results r', reads serve calls r = some (results, r') →
      results.flatMap ReadResult.bytes <+: blob ∧
      ∀ before after, results = before ++ .eof :: after → (∀ e, .error e ∉ before) →
        before.flatMap ReadResult.bytes = blob) ∧
    ∀ calls : List (Nat × List BodyRead), (∀ call ∈ calls, Live call) →
      blob.length < calls.length →
      ∃ before after r', reads serve (calls.take (before.length + 1)) r =
        some (before ++ .eof :: after, r') ∧ (∀ e, .error e ∉ before) ∧
          before.flatMap ReadResult.bytes = blob := by
  obtain ⟨hreading, hoffset, hcur⟩ := reading_start hanswer hstart
  have hspec : ∀ calls results r', reads serve calls r = some (results, r') →
      results.flatMap ReadResult.bytes <+: blob ∧
      ∀ before after, results = before ++ .eof :: after → (∀ e, .error e ∉ before) →
        before.flatMap ReadResult.bytes = blob := by
    intro calls results r' hreads
    obtain ⟨hall, hwhole⟩ := reads_spec hserve hreading hreads
    simp only [hoffset, List.take_zero, List.nil_append] at hall hwhole
    exact ⟨hall ▸ List.take_prefix _ _, hwhole fun hnone => absurd hnone hcur⟩
  refine ⟨hspec, fun calls hlive hcalls => ?_⟩
  obtain ⟨before, after, r', hreads, hno⟩ :=
    reads_of_live hserve hchunk hlive hreading hcur (by omega)
  exact ⟨before, after, r', hreads, hno, (hspec _ _ _ hreads).2 before after rfl hno⟩

/-- Three bytes in chunks of two: a request for the second chunk fails, and the URL is refused and
refreshed. -/
theorem delivers_three_bytes :
    let serve := rangeBody [1, 2, 3] 2
    let answers : Nat → ChunkAnswer := fun i =>
      [.failed "EOF", .refused (.ok false), .partialContent].getD i .partialContent
    ∃ results r', reads serve (List.replicate 4 (1, [.bytes 1 answers, .bytes 1 answers]))
        { total := 3, cur := some [1, 2], signTarget := false } = some (results, r') ∧
      results = [.data [1], .data [2], .data [3]] ++ .eof :: [] ∧
      [ReadResult.data [1], .data [2], .data [3]].flatMap ReadResult.bytes = [1, 2, 3] := by
  intro serve answers
  obtain ⟨results, r', hreads, hresults⟩ : ∃ results r', reads serve
      (List.replicate 4 (1, [.bytes 1 answers, .bytes 1 answers]))
      { total := 3, cur := some [1, 2], signTarget := false } = some (results, r') ∧
      results = [.data [1], .data [2], .data [3]] ++ .eof :: [] := ⟨_, _, rfl, rfl⟩
  have hstart : start (.partialContent "bytes 0-1/3" [1, 2] false) =
      .ok { total := 3, cur := some [1, 2], signTarget := false } := by decide +kernel
  have hfaithful : (StartAnswer.partialContent "bytes 0-1/3" [1, 2] false).Faithful [1, 2, 3] 2 :=
    ⟨by decide +kernel, rfl⟩
  refine ⟨results, r', hreads, hresults, ?_⟩
  exact ((delivers_blob (fun _ => rfl) (by decide) hfaithful hstart).1 _ _ _ hreads).2 _ _ hresults
    (by simp)

end ChunkedBlobReader

end OpenAudio.Mediorum
