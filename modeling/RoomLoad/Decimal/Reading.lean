import RoomLoad.Text.Numeral

/-!
# Read doubles

The double that is nearest to a decimal text.
-/

namespace RoomLoad.Decimal

/-- A decimal text in parts: sign, digits with the point removed, and the power
of ten that scales them. -/
structure Spelled where
  negative : Bool
  coefficient : Nat
  exponent : Int

def Spelled.toFloat (spelled : Spelled) : Float :=
  let magnitude :=
    Float.ofScientific spelled.coefficient (spelled.exponent < 0) spelled.exponent.natAbs
  if spelled.negative then -magnitude else magnitude

/-- The exponent behind the mark `e`, with its sign. -/
def readExponent? : List Char → Option Int
  | '-' :: rest => (Text.readDigits? rest).map fun value => -(value : Int)
  | '+' :: rest => (Text.readDigits? rest).map fun value => (value : Int)
  | text => (Text.readDigits? text).map fun value => (value : Int)

/-- A number without its sign: digits, an optional fraction, an optional
exponent. -/
def readMagnitude? (negative : Bool) (text : List Char) : Option Spelled := do
  let isMark (character : Char) : Bool := character == 'e' || character == 'E'
  let front := text.takeWhile fun character => !isMark character
  let power ←
    if front.length < text.length then readExponent? (text.drop (front.length + 1)) else some 0
  let whole := front.takeWhile (· != '.')
  let fraction := front.drop (whole.length + 1)
  let coefficient ← Text.readDigits? (whole ++ fraction)
  return ⟨negative, coefficient, power - fraction.length⟩

/-- The double that a text names: a decimal number, `NaN`, `inf` or `-inf`. -/
def read? (text : String) : Option Float :=
  if text == "NaN" then
    some (0.0 / 0.0)
  else if text == "inf" then
    some (1.0 / 0.0)
  else if text == "-inf" then
    some (-(1.0 / 0.0))
  else
    match text.toList with
    | '-' :: rest => (readMagnitude? true rest).map Spelled.toFloat
    | '+' :: rest => (readMagnitude? false rest).map Spelled.toFloat
    | rest => (readMagnitude? false rest).map Spelled.toFloat

end RoomLoad.Decimal
