import RoomLoad.Probe.Measurement

/-!
# Probing a service

A probe opens a connection of its own, measures over it and closes it again.
-/

namespace RoomLoad

inductive ProbePhase where
  | connecting (room : RoomId)
  | measuring (measurement : Measurement)
  | closing (channel : ChannelId) (result : Except Fault ProbeReport)
  | finished (result : Except Fault ProbeReport)
  | crashed

structure Probe where
  samples : Nat
  timeout : Duration
  phase : ProbePhase

namespace Probe

def goTo (probe : Probe) (phase : ProbePhase) : Probe :=
  { probe with phase := phase }

def start (samples : Nat) (timeout : Duration) (room : RoomId) : Probe :=
  ⟨samples, timeout, .connecting room⟩

/-- The measurement goes on, or the connection is closed. -/
def afterMeasurement (probe : Probe) (measurement : Measurement) : Probe :=
  match measurement.phase with
  | .finished result => probe.goTo (.closing measurement.channel result)
  | .crashed => probe.goTo .crashed
  | _ => probe.goTo (.measuring measurement)

def call? (probe : Probe) : Option Call :=
  match probe.phase with
  | .connecting room => some (.connect room)
  | .measuring measurement => measurement.call?
  | .closing channel _ => some (.close [channel])
  | _ => none

def moves (view : View) (session : ProbeSession) (probe : Probe) :
    List (ProbeSession × Probe) :=
  match probe.phase with
  | .measuring measurement =>
      (measurement.moves view session).map fun (later, next) =>
        (later, probe.afterMeasurement next)
  | _ => []

def resume (session : ProbeSession) (probe : Probe) (answer : Answer) : ProbeSession × Probe :=
  match probe.phase, answer with
  | .connecting _, .connected channel =>
      (session, probe.goTo (.measuring (.start channel probe.samples probe.timeout)))
  | .connecting _, .failed fault => (session, probe.goTo (.finished (.error fault)))
  | .measuring measurement, answer =>
      let (later, next) := measurement.resume session answer
      (later, probe.afterMeasurement next)
  | .closing _ result, .done => (session, probe.goTo (.finished result))
  | _, .crashed => (session, probe.goTo .crashed)
  | _, _ => (session, probe)

def isRunning (probe : Probe) : Bool :=
  match probe.phase with
  | .finished _ => false
  | .crashed => false
  | _ => true

def result? (probe : Probe) : Option (Except Fault ProbeReport) :=
  match probe.phase with
  | .finished result => some result
  | _ => none

end Probe

def probing : System ProbeSession Probe where
  call? := Probe.call?
  moves view _ := Probe.moves view
  resume _ _ := Probe.resume
  receive now text session := session.onFrame now text
  countReconnect := id

/-- What a probe of a room's connection ends with, unless it goes down. -/
def probeService (connector : ConnectorScript) (samples : Nat) (timeout : Duration)
    (room : RoomId) : Option (Except Fault ProbeReport) :=
  let start : World ProbeSession Probe := .start connector .fresh [.start samples timeout room]
  let unfinished (world : World ProbeSession Probe) : Bool :=
    world.slots.any fun slot => slot.task.isRunning
  let ended := start.runWhile probing unfinished none World.patience
  (ended.task? 0).bind Probe.result?

end RoomLoad
