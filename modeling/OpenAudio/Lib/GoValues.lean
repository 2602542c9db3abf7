import OpenAudio.Lib.GoJson

/-!
# JSON values decoded into `any`

An object decoded into a Go map keeps the last value of each key, in no order, and a number becomes
the nearest float64.
-/

namespace OpenAudio.Json

/-- The nearest float64, counted in units of the smallest one. -/
def Decimal.rounded (d : Decimal) : Decimal :=
  ⟨d.neg, d.float.1 * 2 ^ (d.float.2 + 1074).toNat * 5 ^ 1074, -1074⟩

/-- Assign a key of a map whose keys stand in order. -/
def insertMember (key : String) (v : Value) : List (String × Value) → List (String × Value)
  | [] => [(key, v)]
  | m :: ms =>
    if key < m.1 then (key, v) :: m :: ms
    else if key = m.1 then (key, v) :: ms
    else m :: insertMember key v ms

mutual

/-- The value decoded into an `any`. -/
def Value.decoded : Value → Value
  | .num d => .num d.rounded
  | .arr items => .arr (decodedItems items)
  | .obj members => .obj (decodedMembers members [])
  | v => v

def decodedItems : List Value → List Value
  | [] => []
  | v :: vs => v.decoded :: decodedItems vs

/-- The members assigned one after the other to the map `acc`. -/
def decodedMembers : List (String × Value) → List (String × Value) → List (String × Value)
  | [], acc => acc
  | (key, v) :: ms, acc => decodedMembers ms (insertMember key v.decoded acc)

end

/-! ### Text inside a value -/

mutual

def Value.nulFree : Value → Bool
  | .str s => decide (NulFree s)
  | .arr items => itemsNulFree items
  | .obj members => membersNulFree members
  | _ => true

def itemsNulFree : List Value → Bool
  | [] => true
  | v :: vs => v.nulFree && itemsNulFree vs

def membersNulFree : List (String × Value) → Bool
  | [] => true
  | (key, v) :: ms => decide (NulFree key) && v.nulFree && membersNulFree ms

end

end OpenAudio.Json
