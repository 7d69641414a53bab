import RoomLoad.Json.Fields
import RoomLoad.Json.Printer
import RoomLoad.Report.Basic

/-!
# The written report

The report and its records as JSON values; members are in the order in which
they are written.
-/

namespace RoomLoad

open Json

def LatencyRecord.value (record : LatencyRecord) : Value :=
  .object
    [("seqId", .integer record.seq.toNat),
      ("receivedAt", .string record.receivedAt.text),
      ("kind", .string record.kind.name),
      ("latency", .real record.latency.toMillis),
      ("status", .string record.status.name),
      ("roomId", .integer record.room.toNat)]

def MetricsSnapshot.value (snapshot : MetricsSnapshot) : Value :=
  .object
    [("success", .integer snapshot.success),
      ("failure", .integer snapshot.failure),
      ("connectionsCreated", .integer snapshot.connectionsCreated),
      ("reconnections", .integer snapshot.reconnections),
      ("durationMs", .integer snapshot.durationMs),
      ("throughputPerSec", .real snapshot.throughputPerSec)]

def RunSummary.value (summary : RunSummary) : Value :=
  .object
    [("total", .integer summary.total),
      ("generated", .integer summary.generated),
      ("sent", .integer summary.sent),
      ("abandoned", .integer summary.abandoned),
      ("unacknowledged", .integer summary.unacknowledged),
      ("unparseableAcks", .integer summary.unparseable),
      ("uncorrelatedAcks", .integer summary.uncorrelated),
      ("interrupted", .bool summary.interrupted),
      ("drainTimedOut", .bool summary.drainTimedOut),
      ("metrics", summary.metrics.value)]

def LatencyStats.value (stats : LatencyStats) : Value :=
  .object
    [("count", .integer stats.count),
      ("meanMs", .real stats.meanMs),
      ("medianMs", .real stats.medianMs),
      ("p95Ms", .real stats.p95Ms),
      ("p99Ms", .real stats.p99Ms),
      ("minMs", .real stats.minMs),
      ("maxMs", .real stats.maxMs)]

def RoomThroughput.value (room : RoomThroughput) : Value :=
  .object
    [("roomId", .integer room.room.toNat),
      ("count", .integer room.count),
      ("perSec", .real room.perSec)]

def KindShare.value (share : KindShare) : Value :=
  .object
    [("kind", .string share.kind.name),
      ("count", .integer share.count),
      ("percent", .real share.percent)]

def ThroughputBucket.value (bucket : ThroughputBucket) : Value :=
  .object
    [("start", .string bucket.start.text),
      ("count", .integer bucket.count),
      ("messagesPerSec", .real bucket.messagesPerSec)]

namespace RunReport

def value (report : RunReport) : Value :=
  .object
    [("summary", report.summary.value),
      ("warmup", .orNull WarmupReport.value report.warmup),
      ("probeMeanRttMs", .orNull .real report.probeMeanRttMs),
      ("concurrency", .real report.concurrency),
      ("predictedThroughput", .orNull .real report.predictedThroughput),
      ("impliedConcurrency", .orNull .real report.impliedConcurrency),
      ("latency", report.latency.value),
      ("rooms", .array (report.rooms.map RoomThroughput.value)),
      ("kinds", .array (report.kinds.map KindShare.value)),
      ("throughputSeries", .array (report.throughputSeries.map ThroughputBucket.value))]

/-- The text of the file that a report is written to. -/
def document (report : RunReport) : String :=
  report.value.prettyText

end RunReport

end RoomLoad
