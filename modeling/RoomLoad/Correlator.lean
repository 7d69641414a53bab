import RoomLoad.Message.Ack
import RoomLoad.Message.Unit
import RoomLoad.Metrics

/-!
# Correlation of acknowledgements

A unit that leaves is entered as in flight under its sequence id, and the first
acknowledgement that carries the id claims the entry: it becomes a latency
record.  An entry whose transmission failed is withdrawn, so that a late
acknowledgement finds nothing to claim.
-/

namespace RoomLoad

namespace Timestamp

/-- The civil time at a moment of a run that began when civil time started. -/
def ofInstant (now : Instant) : Timestamp :=
  ⟨now / 1000000000, now % 1000000000⟩

end Timestamp

/-- What is known of a unit that has left and is not yet acknowledged. -/
structure InFlight where
  startedAt : Instant
  kind : MessageKind
  room : RoomId
deriving DecidableEq

/-- One measured round trip. -/
structure LatencyRecord where
  seq : SeqId
  receivedAt : Timestamp
  kind : MessageKind
  latency : Duration
  status : AckStatus
  room : RoomId
deriving DecidableEq

/-- What became of a frame. -/
inductive AckOutcome where
  | recorded (latency : Duration)
  /-- The frame carries no sequence id. -/
  | unparseable
  /-- No unit with the id is in flight. -/
  | uncorrelated
deriving DecidableEq

/-- The units in flight, the records, and the frames that were dropped. -/
structure Correlator where
  inflight : List (SeqId × InFlight)
  /-- The records, the last one first. -/
  recorded : List LatencyRecord
  unparseable : Nat
  uncorrelated : Nat

namespace Correlator

def fresh : Correlator := ⟨[], [], 0, 0⟩

def records (correlator : Correlator) : List LatencyRecord := correlator.recorded.reverse

def entry? (correlator : Correlator) (seq : SeqId) : Option InFlight :=
  correlator.inflight.lookup seq

def without (correlator : Correlator) (seq : SeqId) : Correlator :=
  { correlator with inflight := correlator.inflight.filter fun entry => entry.1 != seq }

/-- Enters a unit as in flight; an older entry of its id gives way. -/
def onSend (correlator : Correlator) (now : Instant) (unit : OutboundUnit) : Correlator :=
  let cleared := correlator.without unit.seq
  { cleared with inflight := (unit.seq, ⟨now, unit.kind, unit.room⟩) :: cleared.inflight }

/-- Takes back the entry of a sequence id, and tells whether there was one. -/
def withdraw (correlator : Correlator) (seq : SeqId) : Bool × Correlator :=
  match correlator.entry? seq with
  | some _ => (true, correlator.without seq)
  | none => (false, correlator)

/-- The sequence id and the status that a frame carries. -/
def readAck? (text : String) : Option (SeqId × AckStatus) := do
  let frame ← AckFrame.parse? text
  let seq ← frame.seq?
  return (seq, frame.ackStatus)

def onAck (correlator : Correlator) (now : Instant) (text : String) : AckOutcome × Correlator :=
  match readAck? text with
  | none => (.unparseable, { correlator with unparseable := correlator.unparseable + 1 })
  | some (seq, status) =>
      match correlator.entry? seq with
      | none => (.uncorrelated, { correlator with uncorrelated := correlator.uncorrelated + 1 })
      | some entry =>
          let latency := Duration.ofNanos (now - entry.startedAt)
          let record : LatencyRecord :=
            ⟨seq, .ofInstant now, entry.kind, latency, status, entry.room⟩
          let cleared := correlator.without seq
          (.recorded latency, { cleared with recorded := record :: cleared.recorded })

end Correlator

/-- The correlator of a run beside its metrics: every record is a success. -/
structure Ledger where
  correlator : Correlator
  metrics : Metrics

namespace Ledger

def fresh : Ledger := ⟨.fresh, .fresh⟩

def onSend (ledger : Ledger) (now : Instant) (unit : OutboundUnit) : Ledger :=
  { ledger with correlator := ledger.correlator.onSend now unit }

def withdraw (ledger : Ledger) (seq : SeqId) : Bool × Ledger :=
  let (existed, correlator) := ledger.correlator.withdraw seq
  (existed, { ledger with correlator := correlator })

/-- Takes in a frame, and counts a success if it became a record. -/
def onAck (ledger : Ledger) (now : Instant) (text : String) : AckOutcome × Ledger :=
  let (outcome, correlator) := ledger.correlator.onAck now text
  match outcome with
  | .recorded _ => (outcome, ⟨correlator, ledger.metrics.countSuccess⟩)
  | _ => (outcome, { ledger with correlator := correlator })

def countFailure (ledger : Ledger) : Ledger :=
  { ledger with metrics := ledger.metrics.countFailure }

def countReconnection (ledger : Ledger) : Ledger :=
  { ledger with metrics := ledger.metrics.countReconnection }

end Ledger

end RoomLoad
