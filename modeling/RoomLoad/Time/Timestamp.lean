import RoomLoad.Text.Numeral

/-!
# Timestamps

A moment of civil time in UTC, its date in the Gregorian calendar, and its
written form `2026-01-01T00:00:00.000Z`.  A second that lasts two seconds is
counted in `nanos`, which then reach past one second.
-/

namespace RoomLoad

/-- A moment, in seconds since the start of 1970 and nanoseconds beyond. -/
structure Timestamp where
  secs : Int
  nanos : Nat
deriving DecidableEq, Inhabited

structure CivilDate where
  year : Int
  month : Nat
  day : Nat
deriving DecidableEq

/-- The day that lies so many days after the first of January 1970.  Days are
counted from the first of March of a year divisible by four hundred, so that a
leap day is the last of its year. -/
def CivilDate.ofDays (days : Int) : CivilDate :=
  let shifted := days + 719468
  let era := shifted.fdiv 146097
  let dayOfEra := (shifted.fmod 146097).toNat
  let yearOfEra :=
    (dayOfEra - dayOfEra / 1460 + dayOfEra / 36524 - dayOfEra / 146096) / 365
  let dayOfYear := dayOfEra - (365 * yearOfEra + yearOfEra / 4 - yearOfEra / 100)
  let monthFromMarch := (5 * dayOfYear + 2) / 153
  let month := if monthFromMarch < 10 then monthFromMarch + 3 else monthFromMarch - 9
  { year := yearOfEra + era * 400 + (if month ≤ 2 then 1 else 0)
    month := month
    day := dayOfYear - (153 * monthFromMarch + 2) / 5 + 1 }

namespace Timestamp

def perDay : Int := 86400

def dayNumber (moment : Timestamp) : Int :=
  moment.secs.fdiv perDay

def secondOfDay (moment : Timestamp) : Int :=
  moment.secs.fmod perDay

def start : Timestamp := ⟨0, 0⟩

def isAtOrBefore (earlier later : Timestamp) : Bool :=
  earlier.secs < later.secs || (earlier.secs == later.secs && earlier.nanos ≤ later.nanos)

/-- The nanoseconds from `earlier` to `later`.  A second of double length counts
in full if it ends between the two on the clock of the day. -/
def nanosSince (later earlier : Timestamp) : Int :=
  let clockLater := later.secondOfDay
  let clockEarlier := earlier.secondOfDay
  let extra : Int :=
    if clockLater > clockEarlier && earlier.nanos ≥ 1000000000 then 1
    else if clockLater < clockEarlier && later.nanos ≥ 1000000000 then -1
    else 0
  (later.secs - earlier.secs + extra) * 1000000000 + ((later.nanos : Int) - earlier.nanos)

/-- The whole milliseconds from `earlier` to `later`, cut off toward zero. -/
def millisSince (later earlier : Timestamp) : Int :=
  (later.nanosSince earlier).tdiv 1000000

/-- The moment so many milliseconds later.  A second of double length is left
behind as one second once its end is reached. -/
def plusMillis (moment : Timestamp) (millis : Nat) : Timestamp :=
  let addedSecs : Int := millis / 1000
  let addedNanos := millis % 1000 * 1000000
  let staysWithin := addedSecs == 0 && (addedNanos == 0 || moment.nanos + addedNanos < 2000000000)
  if moment.nanos ≥ 1000000000 && staysWithin then
    ⟨moment.secs, moment.nanos + addedNanos⟩
  else
    let nanos :=
      (if moment.nanos ≥ 1000000000 then moment.nanos - 1000000000 else moment.nanos) + addedNanos
    ⟨moment.secs + addedSecs + (nanos / 1000000000 : Nat), nanos % 1000000000⟩

/-- A number with zeros in front up to a width. -/
def padded (width value : Nat) : List Char :=
  List.replicate (width - (Text.digits value).length) '0' ++ Text.digits value

/-- A year: four digits, and a sign outside `0 … 9999`. -/
def yearText (year : Int) : List Char :=
  if 0 ≤ year && year ≤ 9999 then
    padded 4 year.toNat
  else
    (if year < 0 then '-' else '+') :: padded 4 year.natAbs

/-- The time of day in hours, minutes and seconds; the sixty-first second of a
minute is `60`. -/
def clockText (moment : Timestamp) : List Char :=
  let second := moment.secondOfDay.toNat
  let shown := second % 60 + if moment.nanos ≥ 1000000000 then 1 else 0
  padded 2 (second / 3600) ++ ':' :: padded 2 (second / 60 % 60) ++ ':' :: padded 2 shown

def dateText (moment : Timestamp) : List Char :=
  let date := CivilDate.ofDays moment.dayNumber
  yearText date.year ++ '-' :: padded 2 date.month ++ '-' :: padded 2 date.day

/-- A moment with the given digits of its second's fraction. -/
def withFraction (moment : Timestamp) (fraction : List Char) : String :=
  String.ofList (moment.dateText ++ 'T' :: moment.clockText ++ fraction ++ ['Z'])

/-- The nanoseconds within the shown second. -/
def subsecNanos (moment : Timestamp) : Nat :=
  moment.nanos % 1000000000

/-- A moment with three decimals, cut off. -/
def millisText (moment : Timestamp) : String :=
  moment.withFraction ('.' :: padded 3 (moment.subsecNanos / 1000000))

/-- A moment with as many decimals as it needs: none, three, six or nine. -/
def text (moment : Timestamp) : String :=
  let nanos := moment.subsecNanos
  moment.withFraction <|
    if nanos = 0 then []
    else if nanos % 1000000 = 0 then '.' :: padded 3 (nanos / 1000000)
    else if nanos % 1000 = 0 then '.' :: padded 6 (nanos / 1000)
    else '.' :: padded 9 nanos

end Timestamp

end RoomLoad
