import RoomLoad.Metrics

/-!
# Probe report and Little's law

The mean round trip that a probe has measured, and the law that ties it to
throughput: concurrency is throughput times latency.
-/

namespace RoomLoad

structure ProbeReport where
  samples : Nat
  meanRtt : Duration
deriving DecidableEq

namespace ProbeReport

def meanRttMs (report : ProbeReport) : Float :=
  report.meanRtt.toMillis

def meanRttSecs (report : ProbeReport) : Float :=
  report.meanRtt.toSecs

end ProbeReport

/-- The throughput that a concurrency gives at a latency, which counts as no
less than a microsecond. -/
def predictedThroughput (concurrency meanLatencySecs : Float) : Float :=
  concurrency / atLeastSecs 1e-6 meanLatencySecs

def impliedConcurrency (throughput meanLatencySecs : Float) : Float :=
  throughput * meanLatencySecs

end RoomLoad
