import RoomLoad.Decimal.Style
import RoomLoad.Json.Tree

/-!
# JSON values

What a JSON text means: numbers by value, strings by their characters, objects
without repeated keys and in the order of their keys.  Not every grammar tree
has a meaning: a number may be too large, half a character pair may stand alone,
containers may be nested too deeply.
-/

namespace RoomLoad.Json

/-- A JSON value.  The members of an object keep the order in which they are
given. -/
inductive Value where
  | null
  | bool (value : Bool)
  | integer (value : Int)
  | real (value : Float)
  | string (value : String)
  | array (items : List Value)
  | object (members : List (String × Value))

/-- A number as a 64-bit significand and the power of ten that scales it. -/
structure Significand where
  value : Nat
  exponent : Int

/-- Takes in a digit before the point: one that no longer fits is dropped and
scales the number instead, and so are all behind it. -/
def Significand.addWhole (significand : Significand) (digit : Char) : Significand :=
  let value := significand.value * 10 + (digit.toNat - '0'.toNat)
  if significand.exponent = 0 && value < Text.word64 then
    ⟨value, 0⟩
  else
    { significand with exponent := significand.exponent + 1 }

/-- Takes in the digits behind the point until one no longer fits. -/
def Significand.addFraction (significand : Significand) : List Char → Significand
  | [] => significand
  | digit :: rest =>
      let value := significand.value * 10 + (digit.toNat - '0'.toNat)
      if value < Text.word64 then
        addFraction ⟨value, significand.exponent - 1⟩ rest
      else
        significand

/-- The exponent that a numeral gives behind its mark. -/
def Numeral.power (numeral : Numeral) : Int :=
  match numeral.exponent with
  | none => 0
  | some (negative, digits) =>
      let size : Int := Nat.ofDigitChars 10 digits 0
      if negative then -size else size

/-- The significand of a numeral and the power of ten that scales it. -/
def Numeral.significand (numeral : Numeral) : Significand :=
  let whole := numeral.whole.foldl Significand.addWhole ⟨0, 0⟩
  let all := whole.addFraction (numeral.fraction.getD [])
  { all with exponent := all.exponent + numeral.power }

def powerOfTen (exponent : Nat) : Float :=
  Float.ofScientific 1 false exponent

/-- The largest power of ten that a double holds. -/
def largestPower : Nat := 308

/-- Divides by a power of ten, in steps that a double can hold.  A few steps
bring every significand down to zero. -/
def scaleDown : Nat → Float → Nat → Float
  | 0, _, _ => 0.0
  | steps + 1, value, exponent =>
      if exponent ≤ largestPower then
        value / powerOfTen exponent
      else
        scaleDown steps (value / powerOfTen largestPower) (exponent - largestPower)

/-- A significand scaled by its power of ten, unless that is too large for a
double. -/
def Significand.toFloat? (significand : Significand) : Option Float :=
  let value := (UInt64.ofNat significand.value).toFloat
  if significand.value = 0 then
    some 0.0
  else if significand.exponent < 0 then
    some (scaleDown 4 value significand.exponent.natAbs)
  else if significand.exponent ≤ largestPower then
    let product := value * powerOfTen significand.exponent.toNat
    if product.isInf then none else some product
  else
    none

/-- The value of a numeral: an integer if it has neither point nor exponent and
fits in 64 bits, signed if negative; otherwise a double.  Minus zero is a
double. -/
def Numeral.value? (numeral : Numeral) : Option Value :=
  let size := Nat.ofDigitChars 10 numeral.whole 0
  let isPlain := numeral.fraction.isNone && numeral.exponent.isNone
  if isPlain && !numeral.negative && size < Text.word64 then
    some (.integer size)
  else if isPlain && numeral.negative && 0 < size && size ≤ Text.word64 / 2 then
    some (.integer (-size))
  else
    numeral.significand.toFloat?.map fun value => .real (if numeral.negative then -value else value)

/-- The string that pieces spell, unless a half stands alone. -/
def stringOf? (pieces : List Piece) : Option String :=
  (spelled? pieces).map String.ofList

/-- Adds a member to members in the order of their keys; it replaces the one
that has the same key. -/
def insertMember (key : String) (value : Value) :
    List (String × Value) → List (String × Value)
  | [] => [(key, value)]
  | (other, held) :: rest =>
      if key < other then (key, value) :: (other, held) :: rest
      else if key = other then (key, value) :: rest
      else (other, held) :: insertMember key value rest

/-- Members in the order of their keys, the last one of each key. -/
def sortMembers (members : List (String × Value)) : List (String × Value) :=
  members.foldl (fun sorted member => insertMember member.1 member.2 sorted) []

mutual

/-- The meaning of a tree, if its containers are nested at most `depth` deep. -/
def Value.ofTree? (depth : Nat) : Tree → Option Value
  | .null => some .null
  | .bool value => some (.bool value)
  | .number numeral => numeral.value?
  | .string pieces => (stringOf? pieces).map .string
  | .array items =>
      match depth with
      | 0 => none
      | inner + 1 => (Value.ofItems? inner items).map .array
  | .object members =>
      match depth with
      | 0 => none
      | inner + 1 => (Value.ofMembers? inner members).map fun found => .object (sortMembers found)

def Value.ofItems? (depth : Nat) : List Tree → Option (List Value)
  | [] => some []
  | item :: rest => do
      let value ← Value.ofTree? depth item
      let values ← Value.ofItems? depth rest
      return value :: values

/-- The meanings of the members of an object, in the order of the text. -/
def Value.ofMembers? (depth : Nat) : List (List Piece × Tree) → Option (List (String × Value))
  | [] => some []
  | (pieces, tree) :: rest => do
      let key ← stringOf? pieces
      let value ← Value.ofTree? depth tree
      let members ← Value.ofMembers? depth rest
      return (key, value) :: members

end

def Value.member? (key : String) : Value → Option Value
  | .object members => members.lookup key
  | _ => none

/-- The value with the members of an object in the order of their keys. -/
def Value.inKeyOrder : Value → Value
  | .object members => .object (sortMembers members)
  | other => other

def Value.changeMember (key : String) (change : Value → Value) : Value → Value
  | .object members =>
      .object (members.map fun (other, value) =>
        (other, if other = key then change value else value))
  | other => other

def Value.string? : Value → Option String
  | .string value => some value
  | _ => none

end RoomLoad.Json
