import RoomLoad.Message.Ack
import RoomLoad.Metrics
import RoomLoad.Correlator

/-!
# Probe sessions

What listens to the echoes of a probe: which messages are out since when, and how
many echoes are missing.  The last echo leaves a permit for the one who waits.
-/

namespace RoomLoad

/-- The listener of a probe. -/
structure ProbeSession where
  sentAt : List (SeqId × Instant)
  /-- The round trips added up, in a 64-bit word. -/
  totalNanos : UInt64
  matched : Nat
  unparseable : Nat
  remaining : Nat
  /-- Whether the last echo has come and nobody has been told yet. -/
  permit : Bool

namespace ProbeSession

def fresh : ProbeSession := ⟨[], 0, 0, 0, 0, false⟩

/-- Starts over with so many samples; a permit that nobody took stays. -/
def begin (session : ProbeSession) (samples : Nat) : ProbeSession :=
  { session with
    sentAt := [], totalNanos := 0, matched := 0, unparseable := 0, remaining := samples }

def mark (session : ProbeSession) (seq : SeqId) (now : Instant) : ProbeSession :=
  { session with sentAt := (seq, now) :: session.sentAt.filter fun entry => entry.1 != seq }

def roundTrip (sent now : Instant) : UInt64 :=
  UInt64.ofNat (min (now - sent) (Text.word64 - 1))

/-- Takes in a frame.  Only the first echo of a message that is out counts. -/
def onFrame (session : ProbeSession) (now : Instant) (text : String) : ProbeSession :=
  match (AckFrame.parse? text).bind AckFrame.seq? with
  | none => { session with unparseable := session.unparseable + 1 }
  | some seq =>
      match session.sentAt.lookup seq with
      | none => session
      | some sent =>
          { session with
            sentAt := session.sentAt.filter fun entry => entry.1 != seq
            totalNanos := session.totalNanos + roundTrip sent now
            matched := session.matched + 1
            remaining := session.remaining - 1
            permit := session.permit || session.remaining == 1 }

def takePermit (session : ProbeSession) : ProbeSession :=
  { session with permit := false }

/-- The fault of a probe whose echoes did not all come in time. -/
def timeout (session : ProbeSession) : Fault :=
  .probeTimeout session.matched session.remaining session.unparseable

/-- The mean round trip over so many samples. -/
def meanRtt (session : ProbeSession) (samples : Nat) : Duration :=
  .ofNanos (session.totalNanos.toNat / max samples 1)

end ProbeSession

end RoomLoad
