import RoomLoad.Decimal.Binary
import RoomLoad.Text.Numeral

/-!
# Shortest digits

The fewest decimal digits that read back as a given double, and of those the
ones nearest to it.  For one digit, two digits, and so on, the two neighbours of
the value on that decimal grid are tried; the first grid with a neighbour in the
interval of reals that round to the value wins.
-/

namespace RoomLoad.Decimal

/-- A positive decimal number: `coefficient * 10 ^ exponent`. -/
structure Scaled where
  coefficient : Nat
  exponent : Int
deriving DecidableEq, Inhabited

def digitCount (value : Nat) : Nat :=
  (Text.digits value).length

/-- The exponent of the power of ten at or below a positive fraction. -/
def Ratio.magnitude (value : Ratio) : Int :=
  let guess : Int := digitCount value.numerator - digitCount value.denominator
  if value.denominator * Nat.pow 10 guess.toNat ≤ value.numerator * Nat.pow 10 (-guess).toNat then
    guess
  else
    guess - 1

/-- Whether one fraction is below another, or equal to it where that counts. -/
def Ratio.below (orEqual : Bool) (left right : Ratio) : Bool :=
  let leftCross := left.numerator * right.denominator
  let rightCross := right.numerator * left.denominator
  leftCross < rightCross || (orEqual && leftCross == rightCross)

def Scaled.ratio (value : Scaled) : Ratio :=
  ⟨value.coefficient * Nat.pow 10 value.exponent.toNat, Nat.pow 10 (-value.exponent).toNat⟩

/-- The reals that round to a double: between its lower and its upper end, and
the ends themselves if the mantissa is even. -/
structure Basin where
  lower : Ratio
  upper : Ratio
  closed : Bool

/-- The reals that round to a positive double.  Below a power of two the
neighbouring doubles lie half as far apart. -/
def Binary.basin (value : Binary) : Basin :=
  let quarter := value.exponent - 2
  let gapBelow := if value.mantissa = exponentWeight && value.exponent > -1074 then 1 else 2
  { lower := .ofPower (4 * value.mantissa - gapBelow) quarter
    upper := .ofPower (4 * value.mantissa + 2) quarter
    closed := value.mantissa % 2 == 0 }

/-- Whether a decimal number rounds to the double of a basin. -/
def Basin.holds (basin : Basin) (candidate : Scaled) : Bool :=
  basin.lower.below basin.closed candidate.ratio &&
    candidate.ratio.below basin.closed basin.upper

/-- The neighbour of a value on the decimal grid of an exponent that reads back
as the value, the nearer one if both do. -/
def onGrid? (basin : Basin) (value : Ratio) (exponent : Int) : Option Scaled :=
  let numerator := value.numerator * Nat.pow 10 (-exponent).toNat
  let denominator := value.denominator * Nat.pow 10 exponent.toNat
  let down : Scaled := ⟨numerator / denominator, exponent⟩
  let up : Scaled := ⟨numerator / denominator + 1, exponent⟩
  match basin.holds down, basin.holds up with
  | false, false => none
  | true, false => some down
  | false, true => some up
  | true, true =>
      let twice := 2 * (numerator % denominator)
      if twice < denominator || (twice == denominator && down.coefficient % 2 == 0) then
        some down
      else
        some up

/-- Tries grids of more and more digits, `left` of them. -/
def search (basin : Basin) (value : Ratio) : Nat → Int → Option Scaled
  | 0, _ => none
  | left + 1, exponent =>
      match onGrid? basin value exponent with
      | some found => some found
      | none => search basin value left (exponent - 1)

/-- Moves up to `left` zeros from the end of the coefficient into the exponent. -/
def Scaled.reduce : Nat → Scaled → Scaled
  | 0, value => value
  | left + 1, value =>
      if value.coefficient % 10 = 0 then
        reduce left ⟨value.coefficient / 10, value.exponent + 1⟩
      else
        value

/-- The shortest decimal number that reads back as a positive double; seventeen
digits always do.  The upper neighbour on the first grid may be the next power of
ten, which has a digit less. -/
def Binary.shortest (value : Binary) : Scaled :=
  ((search value.basin value.ratio 17 value.ratio.magnitude).getD ⟨0, 0⟩).reduce 17

end RoomLoad.Decimal
