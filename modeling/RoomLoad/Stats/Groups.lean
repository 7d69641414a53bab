import RoomLoad.Correlator
import RoomLoad.Stats.Tally

/-!
# Groups of records

The records of a run by room, by kind and by stretches of ten seconds.
-/

namespace RoomLoad

structure RoomThroughput where
  room : RoomId
  count : Nat
  perSec : Float

structure KindShare where
  kind : MessageKind
  count : Nat
  percent : Float

/-- What one stretch of time has received. -/
structure ThroughputBucket where
  start : Timestamp
  count : Nat
  messagesPerSec : Float

def Timestamp.earlier (left right : Timestamp) : Timestamp :=
  if left.isAtOrBefore right then left else right

def Timestamp.later (left right : Timestamp) : Timestamp :=
  if left.isAtOrBefore right then right else left

def firstReceived? : List LatencyRecord → Option Timestamp
  | [] => none
  | record :: rest =>
      some ((rest.map LatencyRecord.receivedAt).foldl Timestamp.earlier record.receivedAt)

def lastReceived? : List LatencyRecord → Option Timestamp
  | [] => none
  | record :: rest =>
      some ((rest.map LatencyRecord.receivedAt).foldl Timestamp.later record.receivedAt)

/-- The least span, in seconds, that a rate is taken over. -/
def leastSpanSecs : Float := 0.001

/-- The seconds between the first and the last record. -/
def spanSecs (records : List LatencyRecord) : Float :=
  match firstReceived? records, lastReceived? records with
  | some first, some last =>
      atLeastSecs leastSpanSecs (Float.ofInt (last.millisSince first) / 1000.0)
  | _, _ => leastSpanSecs

def countFloat (count : Nat) : Float :=
  (UInt64.ofNat count).toFloat

/-- Every room with a record, in increasing order, over the span of all
records. -/
def roomThroughput (records : List LatencyRecord) : List RoomThroughput :=
  let secs := spanSecs records
  (tally (records.map fun record => record.room.toNat)).map fun (room, count) =>
    ⟨UInt32.ofNat room, count, countFloat count / secs⟩

/-- Every kind, also one without records. -/
def kindDistribution (records : List LatencyRecord) : List KindShare :=
  MessageKind.all.map fun kind =>
    let count := records.countP fun record => record.kind == kind
    let percent :=
      if records.isEmpty then 0.0
      else 100.0 * countFloat count / countFloat records.length
    ⟨kind, count, percent⟩

/-- The length of a stretch of time, in milliseconds. -/
def bucketMillis : Nat := 10000

/-- In which stretch of time a record lies, counted from the first record. -/
def bucketIndex (first : Timestamp) (record : LatencyRecord) : Nat :=
  (record.receivedAt.millisSince first).toNat / bucketMillis

/-- The stretches of time with a record, in increasing order. -/
def throughputSeries (records : List LatencyRecord) : List ThroughputBucket :=
  match firstReceived? records with
  | none => []
  | some first =>
      (tally (records.map (bucketIndex first))).map fun (index, count) =>
        ⟨first.plusMillis (index * bucketMillis), count, countFloat count / 10.0⟩

end RoomLoad
