import RoomLoad.Decimal.Style
import RoomLoad.Report.Basic

/-!
# The printed report

The report line by line, section by section.
-/

namespace RoomLoad.RunReport

def warmupLines : Option WarmupReport → List String
  | none => []
  | some warmup =>
      ["", "=== Warmup ===",
        "Sent: " ++ warmup.success.repr ++ " (" ++ warmup.failed.repr ++ " failed)",
        "Connections: " ++ warmup.connections.repr,
        "Duration: " ++ warmup.duration.wholeMillis.repr ++ " ms",
        "Throughput: " ++ Decimal.fixed 2 warmup.throughputPerSec ++ " msg/s"]

def summaryLines (summary : RunSummary) : List String :=
  let metrics := summary.metrics
  let secs := (UInt64.ofNat metrics.durationMs).toFloat / 1000.0
  ["", "=== Main Phase Summary ===",
    "Total Messages: " ++ summary.total.repr,
    "Successful: " ++ metrics.success.repr,
    "Failed: " ++ metrics.failure.repr,
    "Unacknowledged: " ++ summary.unacknowledged.repr,
    "Connections Created: " ++ metrics.connectionsCreated.repr,
    "Reconnections: " ++ metrics.reconnections.repr,
    "Duration: " ++ metrics.durationMs.repr ++ " ms (" ++ Decimal.fixed 2 secs ++ " s)",
    "Throughput: " ++ Decimal.fixed 2 metrics.throughputPerSec ++ " msg/s"] ++
  (if summary.interrupted then ["Run was interrupted before completion"] else []) ++
  (if summary.unparseable > 0 || summary.uncorrelated > 0 then
    ["Dropped Acks: " ++ summary.unparseable.repr ++ " unparseable, " ++
      summary.uncorrelated.repr ++ " uncorrelated"]
  else [])

/-- What is said about concurrency, throughput and latency together. -/
def littlesLawLines (report : RunReport) : List String :=
  ["", "Little's Law:", "  Concurrency: " ++ Decimal.plain report.concurrency] ++
  (match report.probeMeanRttMs, report.predictedThroughput with
    | some rtt, some predicted =>
        ["  Probe RTT: " ++ Decimal.fixed 3 rtt ++ " ms",
          "  Predicted Throughput: " ++ Decimal.fixed 2 predicted ++ " msg/s"]
    | _, _ => ["  Probe RTT: unavailable"]) ++
  (match report.impliedConcurrency with
    | some implied => ["  Implied Concurrency: " ++ Decimal.fixed 2 implied]
    | none => [])

def latencyLines (latency : LatencyStats) : List String :=
  let line (name : String) (millis : Float) : String :=
    "  " ++ name ++ ": " ++ Decimal.fixed 3 millis ++ " ms"
  ["", "Latency (" ++ latency.count.repr ++ " samples):",
    line "Mean" latency.meanMs,
    line "Median" latency.medianMs,
    line "P95" latency.p95Ms,
    line "P99" latency.p99Ms,
    line "Min" latency.minMs,
    line "Max" latency.maxMs]

def roomLine (room : RoomThroughput) : String :=
  "  room " ++ room.room.toNat.repr ++ ": " ++ Decimal.fixed 2 room.perSec ++ " (" ++
    room.count.repr ++ " acks)"

def kindLine (share : KindShare) : String :=
  "  " ++ share.kind.name ++ ": " ++ share.count.repr ++ " (" ++
    Decimal.fixed 2 share.percent ++ "%)"

/-- What is said about a stretch of time. -/
def bucketLine (bucket : ThroughputBucket) : String :=
  "  " ++ String.ofList bucket.start.clockText ++ ": " ++
    Decimal.fixed 1 bucket.messagesPerSec ++ " msg/s"

def recordLines (report : RunReport) : List String :=
  if report.latency.count = 0 then
    ["", "No latency records."]
  else
    latencyLines report.latency ++
      "" :: "Throughput per Room (msg/s):" :: report.rooms.map roomLine ++
      "" :: "Message Type Distribution:" :: report.kinds.map kindLine ++
      "" :: "Throughput over Time (10 s buckets):" :: report.throughputSeries.map bucketLine

def lines (report : RunReport) : List String :=
  warmupLines report.warmup ++ summaryLines report.summary ++ report.littlesLawLines ++
    report.recordLines ++ ["========================", ""]

end RoomLoad.RunReport
