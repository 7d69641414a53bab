/-!
# The parts of a double

A finite double is a sign and a natural number times a power of two.  The parts
are taken from its bits, so that all further work on it is exact.
-/

namespace RoomLoad.Decimal

/-- A finite double: its magnitude is `mantissa * 2 ^ exponent`. -/
structure Binary where
  negative : Bool
  mantissa : Nat
  exponent : Int
deriving DecidableEq, Inhabited

inductive Parts where
  | notANumber
  | infinite (negative : Bool)
  | finite (value : Binary)
deriving DecidableEq

/-- What the sign bit of a double counts: `2 ^ 63`. -/
def signWeight : Nat := 9223372036854775808

/-- What the last exponent bit of a double counts: `2 ^ 52`. -/
def exponentWeight : Nat := 4503599627370496

/-- How many values the exponent bits of a double have. -/
def exponentCount : Nat := 2048

def Parts.ofBits (bits : Nat) : Parts :=
  let negative := signWeight ≤ bits
  let biased : Nat := bits / exponentWeight % exponentCount
  let fraction : Nat := bits % exponentWeight
  if biased = exponentCount - 1 then
    if fraction = 0 then .infinite negative else .notANumber
  else if biased = 0 then
    .finite ⟨negative, fraction, -1074⟩
  else
    .finite ⟨negative, exponentWeight + fraction, (biased : Int) - 1075⟩

def Parts.of (value : Float) : Parts :=
  .ofBits value.toBits.toNat

structure Ratio where
  numerator : Nat
  denominator : Nat

def Ratio.ofPower (mantissa : Nat) (exponent : Int) : Ratio :=
  ⟨mantissa * Nat.pow 2 exponent.toNat, Nat.pow 2 (-exponent).toNat⟩

/-- The magnitude of a finite double as a fraction. -/
def Binary.ratio (value : Binary) : Ratio :=
  .ofPower value.mantissa value.exponent

/-- The place of a double in the IEEE total order: negative before positive
zero, NaN after infinity. -/
def totalKey (value : Float) : Nat :=
  let bits := value.toBits.toNat
  if bits < signWeight then signWeight + bits else 2 * signWeight - 1 - bits

/-- The least whole number that is not below a double, kept within
`0 … limit`; NaN counts as zero. -/
def ceilWithin (limit : Nat) (value : Float) : Nat :=
  match Parts.of value with
  | .notANumber => 0
  | .infinite negative => if negative then 0 else limit
  | .finite parts =>
      if parts.negative then
        0
      else
        let ratio := parts.ratio
        min limit ((ratio.numerator + (ratio.denominator - 1)) / ratio.denominator)

theorem totalKey_injective {left right : Float}
    (same : totalKey left = totalKey right) : left = right := by
  have leftBound := left.toBits.toNat_lt
  have rightBound := right.toBits.toNat_lt
  have sameBits : left.toBits.toNat = right.toBits.toNat := by
    unfold totalKey at same
    by_cases leftLow : left.toBits.toNat < signWeight <;>
      by_cases rightLow : right.toBits.toNat < signWeight <;>
      simp only [leftLow, rightLow, if_true, if_false] at same <;>
      unfold signWeight at * <;>
      omega
  have sameWord : left.toBits = right.toBits := UInt64.toNat_inj.mp sameBits
  cases left with | ofModel leftModel =>
  cases right with | ofModel rightModel =>
  cases leftModel; cases rightModel
  cases sameWord
  rfl

end RoomLoad.Decimal
