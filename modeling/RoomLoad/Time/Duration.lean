import RoomLoad.Text.Numeral

/-!
# Durations

A length of time in whole nanoseconds.  The longest one is one nanosecond short
of `2 ^ 64` seconds, and arithmetic stops there.
-/

namespace RoomLoad

/-- A length of time, counted in nanoseconds. -/
structure Duration where
  nanos : Nat
  nanos_lt : nanos < 18446744073709551616 * 1000000000
deriving DecidableEq

namespace Duration

def perSecond : Nat := 1000000000

def perMilli : Nat := 1000000

def longest : Duration :=
  ⟨18446744073709551616 * 1000000000 - 1, by decide⟩

/-- The duration of so many nanoseconds, or the longest one. -/
def ofNanos (nanos : Nat) : Duration :=
  if fits : nanos < 18446744073709551616 * 1000000000 then ⟨nanos, fits⟩ else longest

/-- The duration of so many milliseconds, or the longest one. -/
def ofMillis (millis : Nat) : Duration :=
  ofNanos (millis * perMilli)

/-- The duration of so many seconds, or the longest one. -/
def ofSecs (secs : Nat) : Duration :=
  ofNanos (secs * perSecond)

def zero : Duration := ofNanos 0

def wholeSecs (duration : Duration) : Nat :=
  duration.nanos / perSecond

/-- The nanoseconds beyond the whole seconds. -/
def subsecNanos (duration : Duration) : Nat :=
  duration.nanos % perSecond

def wholeMillis (duration : Duration) : Nat :=
  duration.nanos / perMilli

/-- A multiple of a duration, or the longest one. -/
def scale (duration : Duration) (factor : Nat) : Duration :=
  ofNanos (duration.nanos * factor)

protected def min (left right : Duration) : Duration :=
  if left.nanos ≤ right.nanos then left else right

/-- The seconds of a duration as a floating-point number. -/
def toSecs (duration : Duration) : Float :=
  (UInt64.ofNat duration.wholeSecs).toFloat +
    (UInt64.ofNat duration.subsecNanos).toFloat / 1000000000.0

/-- The milliseconds of a duration as a floating-point number. -/
def toMillis (duration : Duration) : Float :=
  duration.toSecs * 1000.0

/-- A fraction's digits without its trailing zeros, behind a point if any are
left; `width` is the number of digits that the fraction has. -/
def fractionText (width fraction : Nat) : List Char :=
  let padded := List.replicate (width - (Text.digits fraction).length) '0' ++ Text.digits fraction
  let kept := (padded.reverse.dropWhile (· == '0')).reverse
  if kept.isEmpty then [] else '.' :: kept

/-- A duration in the largest unit in which it is at least one, with as many
decimals as it needs: `5s`, `1.5s`, `50ms`, `1.05µs`, `0ns`. -/
def text (duration : Duration) : String :=
  let nanos := duration.nanos
  let inUnit (unit width : Nat) (name : String) : String :=
    String.ofList (Text.digits (nanos / unit) ++ fractionText width (nanos % unit)) ++ name
  if nanos ≥ perSecond then
    inUnit perSecond 9 "s"
  else if nanos ≥ perMilli then
    inUnit perMilli 6 "ms"
  else if nanos ≥ 1000 then
    inUnit 1000 3 "µs"
  else
    inUnit 1 0 "ns"

theorem ext {left right : Duration} (same : left.nanos = right.nanos) : left = right := by
  cases left
  cases right
  congr

@[simp]
theorem nanos_ofNanos (nanos : Nat) :
    (ofNanos nanos).nanos = min nanos longest.nanos := by
  unfold ofNanos
  split
  case isTrue fits =>
    simp only [longest]
    omega
  case isFalse exceeds =>
    simp only [longest]
    omega

@[simp]
theorem ofNanos_nanos (duration : Duration) : ofNanos duration.nanos = duration := by
  rw [ofNanos, dif_pos duration.nanos_lt]

theorem ofNanos_of_le {nanos : Nat} (exceeds : Text.word64 * perSecond ≤ nanos) :
    ofNanos nanos = longest :=
  dif_neg (Nat.not_lt.mpr exceeds)

@[simp]
theorem nanos_min (left right : Duration) :
    (left.min right).nanos = min left.nanos right.nanos := by
  unfold Duration.min
  split <;> omega

end Duration

end RoomLoad
