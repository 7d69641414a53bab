import RoomLoad.Probe.Report
import RoomLoad.Run.Summary
import RoomLoad.Stats.Groups
import RoomLoad.Stats.Latency
import RoomLoad.Warmup.Report

/-!
# Run report

Everything that is told at the end of a run.
-/

namespace RoomLoad

structure RunReport where
  summary : RunSummary
  warmup : Option WarmupReport
  probeMeanRttMs : Option Float
  concurrency : Float
  predictedThroughput : Option Float
  impliedConcurrency : Option Float
  latency : LatencyStats
  rooms : List RoomThroughput
  kinds : List KindShare
  throughputSeries : List ThroughputBucket

namespace RunReport

/-- Puts a report together from a summary, the records, and what came before the
main phase. -/
def build (summary : RunSummary) (records : List LatencyRecord) (warmup : Option WarmupReport)
    (probe : Option ProbeReport) (concurrency : Float) : RunReport :=
  let latency := LatencyStats.ofRecords records
  { summary := summary
    warmup := warmup
    probeMeanRttMs := probe.map ProbeReport.meanRttMs
    concurrency := concurrency
    predictedThroughput :=
      probe.map fun report => RoomLoad.predictedThroughput concurrency report.meanRttSecs
    impliedConcurrency :=
      if latency.count = 0 then none
      else some (RoomLoad.impliedConcurrency summary.metrics.throughputPerSec
        (latency.meanMs / 1000.0))
    latency := latency
    rooms := roomThroughput records
    kinds := kindDistribution records
    throughputSeries := RoomLoad.throughputSeries records }

end RunReport

end RoomLoad
