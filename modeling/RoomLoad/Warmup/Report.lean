import RoomLoad.Json.Printer
import RoomLoad.Metrics

/-!
# Warm-up report

What the warm-up has done before the main phase.
-/

namespace RoomLoad

structure WarmupReport where
  duration : Duration
  success : Nat
  failed : Nat
  connections : Nat
deriving DecidableEq

namespace WarmupReport

def throughputPerSec (report : WarmupReport) : Float :=
  (UInt64.ofNat report.success).toFloat / atLeastSecs 0.001 report.duration.toSecs

/-- A warm-up report as a value, with its members in the order in which they
are written; the milliseconds are a 64-bit number. -/
def value (report : WarmupReport) : Json.Value :=
  .object
    [("durationMs", .integer (report.duration.wholeMillis % Text.word64 : Nat)),
      ("success", .integer report.success),
      ("failed", .integer report.failed),
      ("connections", .integer report.connections)]

end WarmupReport

end RoomLoad
