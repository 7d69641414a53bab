import RoomLoad.Simulation.Course
import RoomLoad.Warmup.Report

/-!
# Warm-up tasks

Every task has a connection of its own, sends a fixed number of messages over it
and closes it.  The first error ends a task and counts as one failure.
-/

namespace RoomLoad

/-- What the tasks of a warm-up have counted together. -/
structure WarmupTally where
  success : Nat
  failed : Nat
  connections : Nat
deriving DecidableEq

inductive WarmupPhase where
  | connecting
  /-- So many messages are sent; another one is made if any are left. -/
  | composing (channel : ChannelId) (sent : Nat)
  | sending (channel : ChannelId) (sent : Nat) (payload : String)
  | closing (channel : ChannelId) (failed : Bool)
  | finished
deriving DecidableEq

structure WarmupTask where
  /-- The number of the task, counted from zero. -/
  index : Nat
  room : RoomId
  /-- How many messages it is to send. -/
  messages : Nat
  phase : WarmupPhase
deriving DecidableEq

namespace WarmupTally

def fresh : WarmupTally := ⟨0, 0, 0⟩

def countFailure (tally : WarmupTally) : WarmupTally :=
  { tally with failed := tally.failed + 1 }

def countSuccess (tally : WarmupTally) : WarmupTally :=
  { tally with success := tally.success + 1 }

def countConnection (tally : WarmupTally) : WarmupTally :=
  { tally with connections := tally.connections + 1 }

def report (tally : WarmupTally) (duration : Duration) : WarmupReport :=
  ⟨duration, tally.success, tally.failed, tally.connections⟩

end WarmupTally

namespace WarmupTask

/-- The number of rooms of a range; an empty range counts as its lower end. -/
def roomCount (rooms : IdRange) : Nat :=
  rooms.high.toNat - rooms.low.toNat + 1

/-- The room of a task: the rooms take turns. -/
def roomFor (rooms : IdRange) (index : Nat) : RoomId :=
  rooms.low + UInt32.ofNat (index % roomCount rooms)

def start (rooms : IdRange) (messages index : Nat) : WarmupTask :=
  ⟨index, roomFor rooms index, messages, .connecting⟩

def payload (task : WarmupTask) (sent : Nat) (now : Timestamp) : ChatPayload :=
  let user := (task.index + 1).repr
  { userId := user
    username := "warmup-user-" ++ user
    message := "warmup-message-" ++ sent.repr
    timestamp := now.millisText
    kind := .text }

def goTo (task : WarmupTask) (phase : WarmupPhase) : WarmupTask :=
  { task with phase := phase }

def call? (task : WarmupTask) : Option Call :=
  match task.phase with
  | .connecting => some (.connect task.room)
  | .composing _ _ => none
  | .sending channel _ payload => some (.send channel payload)
  | .closing channel _ => some (.close [channel])
  | .finished => none

def moves (view : View) (tally : WarmupTally) (task : WarmupTask) :
    List (WarmupTally × WarmupTask) :=
  match task.phase with
  | .composing channel sent =>
      if sent < task.messages then
        let payload := (task.payload sent (.ofInstant view.now)).wireText
        [(tally, task.goTo (.sending channel sent payload))]
      else
        [(tally, task.goTo (.closing channel false))]
  | _ => []

def resume (tally : WarmupTally) (task : WarmupTask) (answer : Answer) :
    WarmupTally × WarmupTask :=
  match task.phase, answer with
  | _, .crashed => (tally.countFailure, task.goTo .finished)
  | .connecting, .connected channel => (tally.countConnection, task.goTo (.composing channel 0))
  | .connecting, .failed _ => (tally.countFailure, task.goTo .finished)
  | .sending channel sent _, .done =>
      (tally.countSuccess, task.goTo (.composing channel (sent + 1)))
  | .sending channel _ _, .failed _ => (tally, task.goTo (.closing channel true))
  | .closing _ failed, .done =>
      (if failed then tally.countFailure else tally, task.goTo .finished)
  | _, _ => (tally, task)

end WarmupTask

/-- The common state of a warm-up: the tally, and the ledger that listens to
frames. -/
structure WarmupState where
  tally : WarmupTally
  ledger : Ledger

def warmup : System WarmupState WarmupTask where
  call? := WarmupTask.call?
  moves view _ state task :=
    (task.moves view state.tally).map fun (tally, next) => ({ state with tally := tally }, next)
  resume _ _ state task answer :=
    let (tally, next) := task.resume state.tally answer
    ({ state with tally := tally }, next)
  receive now text state := { state with ledger := (state.ledger.onAck now text).2 }
  countReconnect state := { state with ledger := state.ledger.countReconnection }

namespace Warmup

abbrev World := RoomLoad.World WarmupState WarmupTask

def start (connector : ConnectorScript) (tasks messages : Nat) (rooms : IdRange) : World :=
  .start connector ⟨.fresh, .fresh⟩
    ((List.range tasks).map fun index => .start rooms messages index)

def isRunning (world : World) : Bool :=
  world.slots.any fun slot => slot.task.phase != .finished

def run (connector : ConnectorScript) (tasks messages : Nat) (rooms : IdRange) : World :=
  (start connector tasks messages rooms).runWhile warmup isRunning none World.patience

/-- What a warm-up that started with the clock has done. -/
def report (world : World) : WarmupReport :=
  world.common.tally.report (.ofNanos world.now)

end Warmup

end RoomLoad
