import RoomLoad.Correlator
import RoomLoad.Decimal.Binary

/-!
# Latency statistics

The distribution of the measured latencies in milliseconds.  A percentile is the
element of the sorted samples at its nearest rank.

There are two ranks.  A percentage may be any double, and its rank is then reckoned in
doubles, where rounding can put it one place too high: of a hundred samples 7% is at rank
8.  The distribution needs 50%, 95% and 99% only, whose rank is taken exactly.  For these
three both ranks agree on fewer than `2 ^ 47` samples.
-/

namespace RoomLoad

/-- The element of a sorted list at a rank counted from one; ranks beyond either
end mean that end. -/
def atRank (sorted : List Float) (rank : Nat) : Float :=
  sorted.getD (min (rank - 1) (sorted.length - 1)) 0.0

/-- The nearest rank of a whole percentage among so many samples, taken exactly; what a
`percentile` has for its rank is reckoned in doubles. -/
def nearestRank (percent count : Nat) : Nat :=
  (percent * count + 99) / 100

/-- The percentile for any percentage; of no samples it is zero.  Its rank is that of the
rounded product, which `nearestRank` is not. -/
def percentile (sorted : List Float) (percent : Float) : Float :=
  let position := percent / 100.0 * (UInt64.ofNat sorted.length).toFloat
  atRank sorted (Decimal.ceilWithin (Text.word64 - 1) position)

def sortSamples (samples : List Float) : List Float :=
  samples.mergeSort fun left right => Decimal.totalKey left ≤ Decimal.totalKey right

structure LatencyStats where
  count : Nat
  meanMs : Float
  medianMs : Float
  p95Ms : Float
  p99Ms : Float
  minMs : Float
  maxMs : Float

namespace LatencyStats

def none : LatencyStats := ⟨0, 0.0, 0.0, 0.0, 0.0, 0.0, 0.0⟩

/-- The sum of sorted samples, added up from the first to the last. -/
def sum (sorted : List Float) : Float :=
  sorted.foldl (· + ·) (-0.0)

def ofSamples (samples : List Float) : LatencyStats :=
  let sorted := sortSamples samples
  let count := sorted.length
  if count = 0 then
    none
  else
    { count := count
      meanMs := sum sorted / (UInt64.ofNat count).toFloat
      medianMs := atRank sorted (nearestRank 50 count)
      p95Ms := atRank sorted (nearestRank 95 count)
      p99Ms := atRank sorted (nearestRank 99 count)
      minMs := atRank sorted 1
      maxMs := atRank sorted count }

def ofRecords (records : List LatencyRecord) : LatencyStats :=
  ofSamples (records.map fun record => record.latency.toMillis)

end LatencyStats

end RoomLoad
