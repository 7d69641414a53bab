import RoomLoad.Message.Unit
import RoomLoad.Probe.Report
import RoomLoad.Probe.Session
import RoomLoad.Simulation.Course

/-!
# Probe measurements

A measurement sends its samples one after another and waits until each is echoed
or the time is up.
-/

namespace RoomLoad

inductive MeasurementPhase where
  | starting
  /-- So many samples are sent. -/
  | marking (sent : Nat)
  | sending (sent : Nat) (payload : String)
  /-- Looks whether echoes are missing. -/
  | checking
  /-- Waits for the permit of the last echo. -/
  | waiting
  | finished (result : Except Fault ProbeReport)
  /-- The deadline is beyond what the clock can name. -/
  | crashed

structure Measurement where
  channel : ChannelId
  samples : Nat
  timeout : Duration
  deadline : Instant
  phase : MeasurementPhase

namespace Measurement

def start (channel : ChannelId) (samples : Nat) (timeout : Duration) : Measurement :=
  ⟨channel, samples, timeout, 0, .starting⟩

def goTo (measurement : Measurement) (phase : MeasurementPhase) : Measurement :=
  { measurement with phase := phase }

def result? (measurement : Measurement) : Option (Except Fault ProbeReport) :=
  match measurement.phase with
  | .finished result => some result
  | _ => none

def hasEnded (measurement : Measurement) : Bool :=
  match measurement.phase with
  | .finished _ => true
  | .crashed => true
  | _ => false

def sample (sent : Nat) (now : Timestamp) : OutboundUnit where
  seq := UInt64.ofNat sent
  user := 0
  username := "probe"
  text := "probe"
  room := 0
  kind := .text
  createdAt := now
  attempt := 0

def call? (measurement : Measurement) : Option Call :=
  match measurement.phase with
  | .sending _ payload => some (.send measurement.channel payload)
  | .waiting => some (.wait measurement.deadline)
  | _ => none

/-- Begins a measurement, unless there is nothing to measure. -/
def begin (now : Instant) (session : ProbeSession) (measurement : Measurement) :
    ProbeSession × Measurement :=
  if measurement.samples = 0 then
    (session, measurement.goTo (.finished (.error (.config "probe needs at least one sample"))))
  else
    let begun := session.begin measurement.samples
    match deadline? now measurement.timeout with
    | some deadline => (begun, { measurement with deadline := deadline, phase := .marking 0 })
    | none => (begun, measurement.goTo .crashed)

def moves (view : View) (session : ProbeSession) (measurement : Measurement) :
    List (ProbeSession × Measurement) :=
  match measurement.phase with
  | .starting => [measurement.begin view.now session]
  | .marking sent =>
      if sent < measurement.samples then
        let unit := sample sent (.ofInstant view.now)
        [(session.mark unit.seq view.now, measurement.goTo (.sending sent unit.wireText))]
      else
        [(session, measurement.goTo .checking)]
  | .checking =>
      if session.remaining = 0 then
        let report : ProbeReport := ⟨measurement.samples, session.meanRtt measurement.samples⟩
        [(session, measurement.goTo (.finished (.ok report)))]
      else
        [(session, measurement.goTo .waiting)]
  | .waiting =>
      if session.permit then [(session.takePermit, measurement.goTo .checking)] else []
  | _ => []

def resume (session : ProbeSession) (measurement : Measurement) (answer : Answer) :
    ProbeSession × Measurement :=
  match measurement.phase, answer with
  | .sending sent _, .done => (session, measurement.goTo (.marking (sent + 1)))
  | .sending _ _, .failed fault => (session, measurement.goTo (.finished (.error fault)))
  | .waiting, .done =>
      -- a permit that has come by now counts, even if the time is up
      if session.permit then (session.takePermit, measurement.goTo .checking)
      else (session, measurement.goTo (.finished (.error session.timeout)))
  | _, .crashed => (session, measurement.goTo .crashed)
  | _, _ => (session, measurement)

end Measurement

abbrev Measurement.World := RoomLoad.World ProbeSession Measurement

def measurements : System ProbeSession Measurement where
  call? := Measurement.call?
  moves view _ := Measurement.moves view
  resume _ _ := Measurement.resume
  receive now text session := session.onFrame now text
  countReconnect := id

end RoomLoad
