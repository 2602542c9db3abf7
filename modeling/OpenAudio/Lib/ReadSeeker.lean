import OpenAudio.Lib.GoText

/-!
# Readers that seek

Go's `io.ReadSeeker` as calls on a hidden state. What a plain reader over some content may reply is
said by the position alone, and the position follows from what was replied before. A reader of
another kind replies like that in every sequence of calls once its states are coupled with
positions.
-/

namespace OpenAudio

/-- How a read ends, other than without an error. -/
inductive ReadError
  | eof
  | failed (text : String)
  /-- the call does not return -/
  | panic
deriving DecidableEq, Repr

/-- `io.SeekStart`, `io.SeekCurrent`, `io.SeekEnd`, and any other number -/
inductive Whence
  | start
  | current
  | last
  | other
deriving DecidableEq, Repr

/-- A read is asked for at most so many elements, and returns those it has put into the buffer. -/
structure ReadSeeker (α σ : Type) where
  read : Nat → σ → (List α × Option ReadError) × σ
  seek : Int → Whence → σ → Except String Int × σ

namespace ReadSeeker

variable {α σ : Type}

inductive Call
  | read (len : Nat)
  | seek (offset : Int) (whence : Whence)
deriving DecidableEq, Repr

inductive Reply (α : Type)
  | bytes (out : List α) (err : Option ReadError)
  | offset (n : Int)
  | refused (text : String)
deriving DecidableEq, Repr

def call (r : ReadSeeker α σ) (s : σ) : Call → Reply α × σ
  | .read len =>
    let ((out, err), s') := r.read len s
    (.bytes out err, s')
  | .seek offset whence =>
    match r.seek offset whence s with
    | (.ok n, s') => (.offset n, s')
    | (.error e, s') => (.refused e, s')

theorem call_seek_of_ok {r : ReadSeeker α σ} {s : σ} {offset n : Int} {whence : Whence}
    (h : (r.seek offset whence s).1 = .ok n) :
    r.call s (.seek offset whence) = (.offset n, (r.seek offset whence s).2) := by
  unfold call
  dsimp only
  generalize r.seek offset whence s = result at h
  obtain ⟨res, after⟩ := result
  cases h
  rfl

def exchanges (r : ReadSeeker α σ) : List Call → σ → List (Call × Reply α)
  | [], _ => []
  | c :: calls, s => (c, (r.call s c).1) :: exchanges r calls (r.call s c).2

/-! ### The plain reader -/

/-- Where a seek leads to. -/
def target (size p : Nat) (offset : Int) : Whence → Option Int
  | .start => some offset
  | .current => some (p + offset)
  | .last => some (size + offset)
  | .other => none

/-- What a plain reader over the content may reply at a position. A read may stop early and may
fail; it ends the content only where that ends. -/
def MayReply (content : List α) (p : Nat) : Call → Reply α → Prop
  | .read len, .bytes out err =>
    out.length ≤ len ∧ out = (content.drop p).take out.length ∧ err ≠ some .panic ∧
      (err = some .eof → content.length ≤ p + out.length)
  | .seek offset whence, .offset n => target content.length p offset whence = some n
  | .seek offset whence, .refused _ => target content.length p offset whence = none
  | _, _ => False

def nextPosition (p : Nat) : Reply α → Nat
  | .bytes out _ => p + out.length
  | .offset n => n.toNat
  | .refused _ => p

def position (p : Nat) (trace : List (Call × Reply α)) : Nat :=
  trace.foldl (fun p e => nextPosition p e.2) p

/-- The replies are those of a plain reader. -/
def Plain (content : List α) : Nat → List (Call × Reply α) → Prop
  | _, [] => True
  | p, (c, reply) :: trace => MayReply content p c reply ∧ Plain content (nextPosition p reply) trace

/-- A seek that leads to an offset, none of them before the start. -/
def Seekable (size p : Nat) : Call → Prop
  | .read _ => True
  | .seek offset whence => ∀ n ∈ target size p offset whence, 0 ≤ n ∧ n < 2 ^ 63

/-- Every seek of the calls is one to an offset. -/
def Seeks (size : Nat) : Nat → List (Call × Reply α) → Prop
  | _, [] => True
  | p, (c, reply) :: trace => Seekable size p c ∧ Seeks size (nextPosition p reply) trace

/-- From a state coupled with a position, a call is replied to as at that position, and leaves a
state coupled with the next: so it goes for all calls. -/
theorem plain_of_coupled (r : ReadSeeker α σ) (content : List α) (Coupled : σ → Nat → Prop)
    (hstep : ∀ s p c, Coupled s p → Seekable content.length p c →
      MayReply content p c (r.call s c).1 ∧
        Coupled (r.call s c).2 (nextPosition p (r.call s c).1))
    (calls : List Call) {s : σ} {p : Nat} (hs : Coupled s p)
    (hseeks : Seeks content.length p (r.exchanges calls s)) :
    Plain content p (r.exchanges calls s) := by
  induction calls generalizing s p with
  | nil => trivial
  | cons c calls ih =>
    obtain ⟨hreply, hnext⟩ := hstep s p c hs hseeks.1
    exact ⟨hreply, ih hnext hseeks.2⟩

/-- A call of the sequence finds a state coupled with the position that follows from the replies
before it. -/
theorem coupled_of_split {r : ReadSeeker α σ} {content : List α} {Coupled : σ → Nat → Prop}
    (hstep : ∀ s p c, Coupled s p → Seekable content.length p c →
      MayReply content p c (r.call s c).1 ∧
        Coupled (r.call s c).2 (nextPosition p (r.call s c).1))
    {calls : List Call} {s : σ} {p : Nat} (hs : Coupled s p)
    (hseeks : Seeks content.length p (r.exchanges calls s))
    {before after : List (Call × Reply α)} {e : Call × Reply α}
    (h : r.exchanges calls s = before ++ e :: after) :
    ∃ s', Coupled s' (position p before) ∧ e.2 = (r.call s' e.1).1 := by
  induction before generalizing calls s p with
  | nil =>
    cases calls with
    | nil => cases h
    | cons c calls =>
      cases h
      exact ⟨s, hs, rfl⟩
  | cons e' before ih =>
    cases calls with
    | nil => cases h
    | cons c calls =>
      obtain ⟨rfl, hrest⟩ := List.cons.inj h
      exact ih (hstep s p c hs hseeks.1).2 hseeks.2 hrest

/-! ### What the reads deliver -/

def IsRead : Call → Prop
  | .read _ => True
  | .seek _ _ => False

def delivered : List (Call × Reply α) → List α
  | [] => []
  | (_, .bytes out _) :: trace => out ++ delivered trace
  | _ :: trace => delivered trace

theorem Plain.append {content : List α} {trace trace' : List (Call × Reply α)} {p : Nat}
    (h : Plain content p (trace ++ trace')) :
    Plain content p trace ∧ Plain content (position p trace) trace' := by
  induction trace generalizing p with
  | nil => exact ⟨trivial, h⟩
  | cons e trace ih =>
    obtain ⟨hreply, hrest⟩ := h
    obtain ⟨hfirst, hsecond⟩ := ih hrest
    exact ⟨⟨hreply, hfirst⟩, hsecond⟩

/-- Reads alone deliver the content in order, all that is left of it once they meet its end. -/
theorem Plain.delivered {content : List α} {reads : List (Call × Reply α)} {p : Nat}
    (h : Plain content p reads) (hreads : ∀ e ∈ reads, IsRead e.1) :
    ReadSeeker.delivered reads <+: content.drop p ∧
      ((∃ e ∈ reads, ∃ out, e.2 = .bytes out (some .eof)) →
        ReadSeeker.delivered reads = content.drop p) := by
  induction reads generalizing p with
  | nil => exact ⟨List.nil_prefix, by simp⟩
  | cons e reads ih =>
    obtain ⟨c, reply⟩ := e
    rw [List.forall_mem_cons] at hreads
    obtain ⟨hreply, hrest⟩ := h
    cases c with
    | seek offset whence => exact absurd hreads.1 id
    | read len =>
      cases reply with
      | offset n => exact absurd hreply id
      | refused text => exact absurd hreply id
      | bytes out err =>
        obtain ⟨-, hout, -, heof⟩ := hreply
        obtain ⟨hpart, hall⟩ := ih hrest hreads.2
        have hsplit : content.drop p = out ++ content.drop (p + out.length) := by
          conv_lhs => rw [← List.take_append_drop out.length (content.drop p), ← hout,
            List.drop_drop]
        have hdelivered : ReadSeeker.delivered ((Call.read len, Reply.bytes out err) :: reads) =
            out ++ ReadSeeker.delivered reads := rfl
        rw [hsplit, hdelivered]
        refine ⟨(List.prefix_append_right_inj out).mpr hpart, ?_⟩
        rintro ⟨e, he, out', hend⟩
        rw [List.append_cancel_left_eq]
        rcases List.mem_cons.mp he with rfl | he
        · cases hend
          have hnil : content.drop (p + out.length) = [] := List.drop_eq_nil_of_le (heof rfl)
          change ReadSeeker.delivered reads <+: content.drop (p + out.length) at hpart
          rw [hnil] at hpart ⊢
          exact List.prefix_nil.mp hpart
        · exact hall ⟨e, he, out', hend⟩

/-- A read that brings nothing reports the end. -/
def Brings : Call × Reply α → Prop
  | (.read _, .bytes out err) => out ≠ [] ∨ err = some .eof
  | _ => False

/-- Reads that bring something meet the end within as many calls as there is left, and one. -/
theorem Plain.reaches_eof {content : List α} {reads : List (Call × Reply α)} {p : Nat}
    (h : Plain content p reads) (hreads : ∀ e ∈ reads, Brings e)
    (hlength : content.length - p < reads.length) :
    ∃ e ∈ reads, ∃ out, e.2 = .bytes out (some .eof) := by
  induction reads generalizing p with
  | nil => exact absurd hlength (Nat.not_lt_zero _)
  | cons e reads ih =>
    obtain ⟨hbrings, hrest⟩ := List.forall_mem_cons.mp hreads
    match e, hbrings with
    | (.read len, .bytes out err), .inr heof =>
      exact ⟨_, List.mem_cons_self, out, by rw [heof]⟩
    | (.read len, .bytes out err), .inl hne =>
      obtain ⟨⟨-, hout, -⟩, hplain⟩ := h
      have hpos := List.length_pos_of_ne_nil hne
      have hle : out.length ≤ content.length - p := by
        rw [hout, List.length_take, List.length_drop]
        exact Nat.min_le_right _ _
      rw [List.length_cons] at hlength
      obtain ⟨e, he, heof⟩ := ih hplain hrest (by simp only [nextPosition]; omega)
      exact ⟨e, List.mem_cons_of_mem _ he, heof⟩

/-! ### Correct readers -/

theorem take_eq_take_length (l : List α) (n : Nat) : l.take n = l.take (l.take n).length := by
  rw [List.take_eq_take_iff, List.length_take, Nat.min_assoc, Nat.min_self]

/-- Beyond the end it does not matter where one starts. -/
theorem drop_eq_of_min_eq {l : List α} {m n : Nat} (h : min m l.length = min n l.length) :
    l.drop m = l.drop n := by
  by_cases hm : m < l.length
  · rw [show m = n by omega]
  · rw [List.drop_eq_nil_of_le (by omega), List.drop_eq_nil_of_le (by omega)]

/-- The contract of a reader over the content, with the position its states stand at. A seek before
the start is outside of it. A seek beyond the end is not refused, and the reader may then stand
anywhere from the end on. -/
structure Correct (r : ReadSeeker α σ) (content : List α) (pos : σ → Nat) : Prop where
  read : ∀ len s,
    (r.read len s).1.1.length ≤ len ∧
      (r.read len s).1.1 = (content.drop (pos s)).take (r.read len s).1.1.length ∧
      (r.read len s).1.2 ≠ some .panic ∧
      ((r.read len s).1.2 = some .eof →
        content.length ≤ pos s + (r.read len s).1.1.length) ∧
      pos (r.read len s).2 = pos s + (r.read len s).1.1.length
  seek : ∀ offset whence s n, target content.length (pos s) offset whence = some n → 0 ≤ n →
    ∃ k, (r.seek offset whence s).1 = .ok k ∧ (n ≤ content.length → k = n) ∧
      min (pos (r.seek offset whence s).2) content.length = min n.toNat content.length

/-- No read into a buffer comes back with nothing but at the end. -/
def Live (r : ReadSeeker α σ) : Prop :=
  ∀ len s, 0 < len → (r.read len s).1.1 ≠ [] ∨ (r.read len s).1.2 = some .eof

/-- `bytes.Reader` -/
def ofList (content : List α) : ReadSeeker α Nat where
  read len p :=
    if content.length ≤ p then (([], some .eof), p)
    else (((content.drop p).take len, none), p + ((content.drop p).take len).length)
  seek offset whence p :=
    match target content.length p offset whence with
    | none => (.error "bytes.Reader.Seek: invalid whence", p)
    | some n => if n < 0 then (.error "bytes.Reader.Seek: negative position", p) else (.ok n, n.toNat)

theorem ofList_correct (content : List α) : (ofList content).Correct content id where
  read len p := by
    by_cases hend : content.length ≤ p
    · simp [ofList, hend]
    · simp only [ofList, if_neg hend, id]
      exact ⟨List.length_take_le _ _, take_eq_take_length _ _, by simp, by simp, trivial⟩
  seek offset whence p n htarget hn := by
    have hneg : ¬ n < 0 := by omega
    simp only [ofList, id] at htarget ⊢
    rw [htarget]
    exact ⟨n, by simp [hneg], fun _ => rfl, by simp [hneg]⟩

theorem ofList_live (content : List α) : (ofList content).Live := by
  intro len p hlen
  by_cases hend : content.length ≤ p
  · exact .inr (by simp [ofList, hend])
  · left
    simp only [ofList, if_neg hend]
    exact List.ne_nil_of_length_pos (by rw [List.length_take, List.length_drop]; omega)

end ReadSeeker

end OpenAudio
