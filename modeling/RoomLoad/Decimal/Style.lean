import RoomLoad.Decimal.Shortest

/-!
# Written doubles

How a double is written: with the shortest digits that read back, in one of the
styles that the program's texts use, or rounded to a fixed number of places.
-/

namespace RoomLoad.Decimal

/-- The choices that fix the written form of a double once its digits are
known. -/
structure Style where
  /-- The magnitudes, as powers of ten, that are written without an exponent;
  no bounds if every one is. -/
  positional : Option (Int × Int)
  /-- Whether a whole number written without an exponent ends in `.0`. -/
  pointZero : Bool

/-- The style of numbers in JSON texts: no exponent from `1e-5` up to but not
including `1e16`, and at least one decimal. -/
def Style.json : Style := ⟨some (-5, 15), true⟩

/-- The style of numbers in sentences: never an exponent, and no needless
decimals. -/
def Style.plain : Style := ⟨none, false⟩

def placePoint (style : Style) (digits : List Char) (whole : Int) : List Char :=
  if whole ≤ 0 then
    '0' :: '.' :: (List.replicate (-whole).toNat '0' ++ digits)
  else if whole ≥ digits.length then
    digits ++ List.replicate (whole.toNat - digits.length) '0' ++
      (if style.pointZero then ['.', '0'] else [])
  else
    digits.take whole.toNat ++ '.' :: digits.drop whole.toNat

/-- A decimal number with one digit before the point and a signed exponent. -/
def withExponent (digits : List Char) (magnitude : Int) : List Char :=
  let sign := if magnitude < 0 then '-' else '+'
  let fraction := if digits.length ≤ 1 then [] else '.' :: digits.drop 1
  digits.take 1 ++ fraction ++ 'e' :: sign :: Text.digits magnitude.natAbs

def Style.write (style : Style) (value : Scaled) : List Char :=
  let digits := Text.digits value.coefficient
  let magnitude := value.exponent + digits.length - 1
  let isPositional :=
    match style.positional with
    | none => true
    | some (least, most) => least ≤ magnitude && magnitude ≤ most
  if isPositional then
    placePoint style digits (magnitude + 1)
  else
    withExponent digits magnitude

def Style.finite (style : Style) (value : Binary) : List Char :=
  let magnitude :=
    if value.mantissa = 0 then placePoint style ['0'] 1 else style.write value.shortest
  if value.negative then '-' :: magnitude else magnitude

/-- The word for a double that is not finite, in sentences. -/
def infinityText (negative : Bool) : String :=
  if negative then "-inf" else "inf"

def plain (value : Float) : String :=
  match Parts.of value with
  | .notANumber => "NaN"
  | .infinite negative => infinityText negative
  | .finite parts => String.ofList (Style.plain.finite parts)

/-- The whole number nearest to a fraction; of two equally near the even one. -/
def roundEven (value : Ratio) : Nat :=
  let quotient := value.numerator / value.denominator
  let twice := 2 * (value.numerator % value.denominator)
  if twice < value.denominator || (twice == value.denominator && quotient % 2 == 0) then
    quotient
  else
    quotient + 1

/-- A finite double rounded to a fixed number of decimal places. -/
def Binary.fixed (places : Nat) (value : Binary) : List Char :=
  let ratio := value.ratio
  let one := Nat.pow 10 places
  let units := roundEven ⟨ratio.numerator * one, ratio.denominator⟩
  let fraction := Text.digits (units % one)
  let padded := List.replicate (places - fraction.length) '0' ++ fraction
  let magnitude := Text.digits (units / one) ++ if places = 0 then [] else '.' :: padded
  if value.negative then '-' :: magnitude else magnitude

/-- A double rounded to a fixed number of decimal places, in a sentence. -/
def fixed (places : Nat) (value : Float) : String :=
  match Parts.of value with
  | .notANumber => "NaN"
  | .infinite negative => infinityText negative
  | .finite parts => String.ofList (parts.fixed places)

end RoomLoad.Decimal
