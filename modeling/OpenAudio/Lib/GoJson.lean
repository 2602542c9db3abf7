import OpenAudio.Lib.GoText

/-!
# JSON as Go's `encoding/json` reads it

A text is cut into tokens and the tokens are assembled on a stack of open arrays and objects, as
the scanner of `encoding/json` does, so every definition here recurses on its input alone. A value
keeps an object's members in the order they stand in the text, duplicates included: what a
duplicate or a differently cased key means depends on what the value is decoded into.
-/

namespace OpenAudio.Json

/-- A decimal number literal: `±digits · 10 ^ exp`. -/
structure Decimal where
  neg : Bool
  digits : Nat
  exp : Int
deriving DecidableEq, Repr

/-- A JSON value. -/
inductive Value where
  | null
  | bool (b : Bool)
  | num (d : Decimal)
  | str (s : String)
  | arr (items : List Value)
  | obj (members : List (String × Value))
deriving Repr

/-! ### Numbers -/

def roundHalfEven (n d : Nat) : Nat :=
  let q := n / d
  let r := n % d
  if 2 * r < d then q else if d < 2 * r then q + 1 else if q % 2 = 0 then q else q + 1

/-- `n · 2 ^ (-e) / d` as a fraction of naturals. -/
def scaleBy (n d : Nat) (e : Int) : Nat × Nat :=
  if 0 ≤ e then (n, d * 2 ^ e.toNat) else (n * 2 ^ (-e).toNat, d)

/-- The float64 nearest to `n / d`, as `m · 2 ^ e`. -/
def nearestFloat (n d : Nat) : Nat × Int :=
  let e₀ : Int := (Nat.log2 n : Int) - Nat.log2 d - 53
  let (a, b) := scaleBy n d e₀
  let e := max (-1074) (if 2 ^ 53 ≤ a / b then e₀ + 1 else e₀)
  let (a, b) := scaleBy n d e
  (roundHalfEven a b, e)

namespace Decimal

/-- The absolute value of a literal as a fraction. -/
def fraction (d : Decimal) : Nat × Nat :=
  if 0 ≤ d.exp then (d.digits * 10 ^ d.exp.toNat, 1) else (d.digits, 10 ^ (-d.exp).toNat)

/-- The nearest float64 in absolute value, as `m · 2 ^ e`. -/
def float (d : Decimal) : Nat × Int :=
  let (a, b) := d.fraction
  if a = 0 then (0, 0) else nearestFloat a b

/-- `strconv.ParseFloat` gives a finite value. -/
def inRange (d : Decimal) : Bool :=
  let (m, e) := d.float
  if 0 ≤ e then m * 2 ^ e.toNat < 2 ^ 1024 else true

def truncated (d : Decimal) : Int :=
  let (m, e) := d.float
  let a : Nat := if 0 ≤ e then m * 2 ^ e.toNat else m / 2 ^ (-e).toNat
  if d.neg then -(a : Int) else a

end Decimal

/-- An exponent part: nothing, or `e` or `E`, an optional sign and digits. -/
def exponentPart (cs : List Char) : Option Int :=
  match cs with
  | [] => some 0
  | c :: rest =>
    if c = 'e' ∨ c = 'E' then
      match rest with
      | '-' :: ds => (decimalDigits ds).map fun n => -(n : Int)
      | '+' :: ds => (decimalDigits ds).map Int.ofNat
      | ds => (decimalDigits ds).map Int.ofNat
    else none

def numberLiteral (cs : List Char) : Option Decimal :=
  let (neg, cs) : Bool × List Char := match cs with
    | '-' :: rest => (true, rest)
    | rest => (false, rest)
  let (int, rest) := cs.span Char.isDigit
  -- no leading zeros
  if int.length > 1 ∧ int.head? = some '0' then none else do
    let n ← decimalDigits int
    match rest with
    | '.' :: rest =>
      let (frac, rest) := rest.span Char.isDigit
      let f ← decimalDigits frac
      let e ← exponentPart rest
      return ⟨neg, n * 10 ^ frac.length + f, e - frac.length⟩
    | rest =>
      let e ← exponentPart rest
      return ⟨neg, n, e⟩

/-! ### Tokens -/

/-- One element of a string literal: a character as it stands or a `\u` escape. -/
inductive StrUnit where
  | raw (c : Char)
  | esc (code : Nat)
deriving DecidableEq, Repr

/-- Two escapes that form a surrogate pair give one character; a surrogate on its own gives
U+FFFD. -/
def unescape : List StrUnit → List Char
  | [] => []
  | .raw c :: rest => c :: unescape rest
  | .esc hi :: .esc lo :: rest =>
    if 0xD800 ≤ hi ∧ hi < 0xDC00 ∧ 0xDC00 ≤ lo ∧ lo < 0xE000 then
      Char.ofNat (0x10000 + (hi - 0xD800) * 0x400 + (lo - 0xDC00)) :: unescape rest
    else
      (if 0xD800 ≤ hi ∧ hi < 0xE000 then Char.ofNat 0xFFFD else Char.ofNat hi) ::
        unescape (.esc lo :: rest)
  | .esc c :: rest =>
    (if 0xD800 ≤ c ∧ c < 0xE000 then Char.ofNat 0xFFFD else Char.ofNat c) :: unescape rest

inductive Token where
  | lbrace | rbrace | lbrack | rbrack | comma | colon
  | str (s : String)
  | num (d : Decimal)
  | bool (b : Bool)
  | null
deriving DecidableEq, Repr

/-- What the lexer is in the middle of; text read so far stands reversed. -/
inductive LexMode where
  | between
  | word (acc : List Char)
  | str (acc : List StrUnit)
  | escape (acc : List StrUnit)
  | hex (acc : List StrUnit) (code left : Nat)

/-- The lexer's state: its mode and the tokens so far, reversed. -/
structure LexState where
  mode : LexMode
  tokens : List Token

def isJsonSpace (c : Char) : Bool := c == ' ' || c == '\t' || c == '\n' || c == '\r'

/-- A bare word is a literal or a number. -/
def wordToken (w : List Char) : Option Token :=
  if w = ['t', 'r', 'u', 'e'] then some (.bool true)
  else if w = ['f', 'a', 'l', 's', 'e'] then some (.bool false)
  else if w = ['n', 'u', 'l', 'l'] then some .null
  else (numberLiteral w).map .num

def lexBetween (tokens : List Token) (c : Char) : LexState :=
  if isJsonSpace c then ⟨.between, tokens⟩
  else match c with
    | '{' => ⟨.between, .lbrace :: tokens⟩
    | '}' => ⟨.between, .rbrace :: tokens⟩
    | '[' => ⟨.between, .lbrack :: tokens⟩
    | ']' => ⟨.between, .rbrack :: tokens⟩
    | ',' => ⟨.between, .comma :: tokens⟩
    | ':' => ⟨.between, .colon :: tokens⟩
    | '"' => ⟨.str [], tokens⟩
    | c => ⟨.word [c], tokens⟩

def isDelimiter (c : Char) : Bool :=
  isJsonSpace c || c == '{' || c == '}' || c == '[' || c == ']' || c == ',' || c == ':' || c == '"'

def escapeChar (c : Char) : Option Char :=
  match c with
  | '"' => some '"'
  | '\\' => some '\\'
  | '/' => some '/'
  | 'b' => some (Char.ofNat 8)
  | 'f' => some (Char.ofNat 12)
  | 'n' => some '\n'
  | 'r' => some '\r'
  | 't' => some '\t'
  | _ => none

def lexStep (st : LexState) (c : Char) : Option LexState :=
  match st.mode with
  | .between => some (lexBetween st.tokens c)
  | .word acc =>
    if isDelimiter c then do
      let t ← wordToken acc.reverse
      return lexBetween (t :: st.tokens) c
    else some ⟨.word (c :: acc), st.tokens⟩
  | .str acc =>
    if c = '"' then some ⟨.between, .str (String.ofList (unescape acc.reverse)) :: st.tokens⟩
    else if c = '\\' then some ⟨.escape acc, st.tokens⟩
    else if c.toNat < 32 then none
    else some ⟨.str (.raw c :: acc), st.tokens⟩
  | .escape acc =>
    if c = 'u' then some ⟨.hex acc 0 4, st.tokens⟩
    else (escapeChar c).map fun e => ⟨.str (.raw e :: acc), st.tokens⟩
  | .hex acc code left => do
    let d ← hexDigit c
    let code := 16 * code + d
    if left = 1 then return ⟨.str (.esc code :: acc), st.tokens⟩
    else return ⟨.hex acc code (left - 1), st.tokens⟩

/-- The tokens of a text, `none` where the text breaks off inside a token or has a bad one. -/
def tokens (text : String) : Option (List Token) := do
  let st ← text.toList.foldlM lexStep ⟨.between, []⟩
  match st.mode with
  | .between => return st.tokens.reverse
  | .word acc =>
    let t ← wordToken acc.reverse
    return (t :: st.tokens).reverse
  | _ => none

/-! ### Values -/

/-- An open array or object with what it holds so far, reversed. -/
inductive Frame where
  | arr (items : List Value)
  | obj (members : List (String × Value)) (key : String)

/-- What may come next. -/
inductive Expect where
  | value
  | valueOrClose
  | key
  | keyOrClose
  | colon
  | separator
  | done (v : Value)

structure ParseState where
  stack : List Frame
  expect : Expect

/-- Hand a finished value to the innermost open container. -/
def ParseState.complete (stack : List Frame) (v : Value) : ParseState :=
  match stack with
  | [] => ⟨[], .done v⟩
  | .arr items :: rest => ⟨.arr (v :: items) :: rest, .separator⟩
  | .obj members key :: rest => ⟨.obj ((key, v) :: members) "" :: rest, .separator⟩

def maxNestingDepth : Nat := 10000

/-- Open a container unless the nesting is too deep. -/
def ParseState.open (stack : List Frame) (f : Frame) (expect : Expect) : Option ParseState :=
  if stack.length < maxNestingDepth then some ⟨f :: stack, expect⟩ else none

def parseValue (stack : List Frame) (t : Token) : Option ParseState :=
  match t with
  | .lbrace => ParseState.open stack (.obj [] "") .keyOrClose
  | .lbrack => ParseState.open stack (.arr []) .valueOrClose
  | .str s => some (.complete stack (.str s))
  | .num d => some (.complete stack (.num d))
  | .bool b => some (.complete stack (.bool b))
  | .null => some (.complete stack .null)
  | _ => none

def parseClose (stack : List Frame) (t : Token) : Option ParseState :=
  match stack, t with
  | .arr items :: rest, .rbrack => some (.complete rest (.arr items.reverse))
  | .obj members _ :: rest, .rbrace => some (.complete rest (.obj members.reverse))
  | _, _ => none

def parseKey (stack : List Frame) (t : Token) : Option ParseState :=
  match stack, t with
  | .obj members _ :: rest, .str s => some ⟨.obj members s :: rest, .colon⟩
  | _, _ => none

def parseStep (st : ParseState) (t : Token) : Option ParseState :=
  match st.expect with
  | .value => parseValue st.stack t
  | .valueOrClose => if t = .rbrack then parseClose st.stack t else parseValue st.stack t
  | .key => parseKey st.stack t
  | .keyOrClose => if t = .rbrace then parseClose st.stack t else parseKey st.stack t
  | .colon => if t = .colon then some ⟨st.stack, .value⟩ else none
  | .separator =>
    if t = .comma then
      match st.stack with
      | .arr _ :: _ => some ⟨st.stack, .value⟩
      | .obj _ _ :: _ => some ⟨st.stack, .key⟩
      | [] => none
    else parseClose st.stack t
  | .done _ => none

def parseTokens (ts : List Token) : Option Value := do
  let st ← ts.foldlM parseStep ⟨[], .value⟩
  match st.expect with
  | .done v => return v
  | _ => none

/-- The value a text denotes, `none` for a syntax error. -/
def parse (text : String) : Option Value := (tokens text).bind parseTokens

/-- Every number of the text has a finite float64 value. -/
def numbersInRange (text : String) : Bool :=
  match tokens text with
  | some ts => ts.all fun t => match t with
    | .num d => d.inRange
    | _ => true
  | none => true

/-! ### Decoding into `map[string]any` -/

/-- The value of a key of an object decoded into a map: the last member with exactly that key. -/
def lastMember (members : List (String × Value)) (key : String) : Option Value :=
  (members.reverse.find? fun m => m.1 == key).map (·.2)

/-- `json.Unmarshal` into a `map[string]any`; `none` on an error. A number without a finite
float64 value anywhere in the text is an error; `null` leaves the map empty. -/
def unmarshalMap (text : String) : Option (List (String × Value)) :=
  match parse text with
  | some (.obj members) => if numbersInRange text then some members else none
  | some .null => some []
  | _ => none

theorem unmarshalMap_of_read {text : String} {members : List (String × Value)}
    (h : (parse text, numbersInRange text) = (some (.obj members), true)) :
    unmarshalMap text = some members := by
  obtain ⟨hparse, hrange⟩ := Prod.mk.inj h
  rw [unmarshalMap, hparse]
  exact if_pos hrange

theorem ne_empty_of_parse {text : String} {v : Value} (h : parse text = some v) : text ≠ "" := by
  rintro rfl
  cases h

/-! ### Decoding into structs

A decoder takes a value and what the destination holds already, since a key that occurs twice is
decoded twice into the same place. An error anywhere makes the whole call fail, so decoding stops
at the first one. -/

/-- Decode into a `string`. -/
def decodeString : Value → String → Option String
  | .null, old => some old
  | .str s, _ => some s
  | _, _ => none

/-- A slice: its elements and the ones its backing array still holds behind them. -/
structure Slice where
  items : List String := []
  stale : List String := []
deriving DecidableEq, Repr

/-- Decode the elements of an array over the elements already there; one decoded from `null` keeps
what stands at its place. -/
def decodeElements : List Value → List String → Option (List String × List String)
  | [], old => some ([], old)
  | v :: vs, old => do
    let s ← decodeString v (old.headD "")
    let (items, stale) ← decodeElements vs old.tail
    return (s :: items, stale)

/-- Decode into a `[]string`. -/
def decodeStrings : Value → Slice → Option Slice
  | .null, _ => some {}
  | .arr [], _ => some {}
  | .arr vs, old => (decodeElements vs (old.items ++ old.stale)).map fun r => ⟨r.1, r.2⟩
  | _, _ => none

/-- Decode the members of an object in order; `field` gives the decoder of the field a key names,
and a key that names none is skipped. -/
def decodeMembers {σ : Type} (field : String → Option (Value → σ → Option σ)) :
    List (String × Value) → σ → Option σ
  | [], old => some old
  | (key, v) :: ms, old =>
    match field key with
    | none => decodeMembers field ms old
    | some decode => (decode v old).bind (decodeMembers field ms)

def decodeStruct {σ : Type} (field : String → Option (Value → σ → Option σ)) :
    Value → σ → Option σ
  | .null, old => some old
  | .obj members, old => decodeMembers field members old
  | _, _ => none

/-- `json.Unmarshal` into a struct that holds `old`; `none` on an error. -/
def unmarshalStruct {σ : Type} (field : String → Option (Value → σ → Option σ)) (text : String)
    (old : σ) : Option σ := (parse text).bind fun v => decodeStruct field v old

/-! ### Encoding -/

/-- One character of a string literal as `json.Marshal` writes it. -/
def encodeChar (c : Char) : List Char :=
  let unicode : List Char :=
    '\\' :: 'u' :: [3, 2, 1, 0].map fun i => Nat.digitChar (c.toNat / 16 ^ i % 16)
  match c with
  | '"' => ['\\', '"']
  | '\\' => ['\\', '\\']
  | '\n' => ['\\', 'n']
  | '\r' => ['\\', 'r']
  | '\t' => ['\\', 't']
  | c =>
    if c.toNat = 8 then ['\\', 'b']
    else if c.toNat = 12 then ['\\', 'f']
    else if c.toNat < 32 ∨ c = '<' ∨ c = '>' ∨ c = '&' ∨ c.toNat = 0x2028 ∨ c.toNat = 0x2029 then
      unicode
    else [c]

def encodeString (s : String) : String :=
  String.ofList ('"' :: s.toList.flatMap encodeChar ++ ['"'])

/-- `json.Marshal` of a `[]string`. -/
def encodeStrings (items : List String) : String :=
  "[" ++ String.intercalate "," (items.map encodeString) ++ "]"

end OpenAudio.Json
