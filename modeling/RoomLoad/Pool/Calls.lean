import RoomLoad.Simulation.Course
import RoomLoad.Worker.Basic

/-!
# Calls on the pool

Single lookups, reopenings and closes as tasks of their own, and direct calls on a
channel beside them.
-/

namespace RoomLoad

inductive PoolCall where
  | lookup (room : RoomId) (lookup : Lookup)
  | reopening (channel : ChannelId) (reopening : Reopening)
  /-- Takes every channel out of the pool. -/
  | clearing
  /-- Calls on the surroundings without the pool. -/
  | direct (call : Call)
  | looked (result : Lookup.Result)
  | ended (result : Except Fault Unit)

namespace PoolCall

def hasEnded : PoolCall → Bool
  | looked _ => true
  | ended _ => true
  | _ => false

def call? : PoolCall → Option Call
  | lookup room phase => phase.call? room
  | reopening channel phase => phase.call? channel
  | direct call => some call
  | _ => none

def afterLookup (room : RoomId) : Progress Lookup Lookup.Result → PoolCall
  | .going phase => lookup room phase
  | .ended result => looked result

def afterReopening (channel : ChannelId) : Progress Reopening Reopening.Result → PoolCall
  | .going phase => reopening channel phase
  | .ended result => ended result

def moves (view : View) (task : TaskId) (desk : Desk) : PoolCall → List (Desk × PoolCall)
  | lookup room phase =>
      match phase.move? view task room desk.pool with
      | some (pool, progress) => [({ desk with pool := pool }, afterLookup room progress)]
      | none => []
  | reopening channel phase =>
      match phase.move? view task channel desk.pool with
      | some (pool, progress) => [({ desk with pool := pool }, afterReopening channel progress)]
      | none => []
  | clearing =>
      [({ desk with pool := desk.pool.clear },
        direct (.close (desk.pool.channels.map Prod.snd)))]
  | _ => []

def resume (task : TaskId) (desk : Desk) (call : PoolCall) (answer : Answer) :
    Desk × PoolCall :=
  match call, answer with
  | _, .crashed =>
      ({ desk with pool := desk.pool.forget task },
        ended (.error (.taskFailed "the call brought its task down")))
  | lookup room phase, answer =>
      let (pool, progress) := phase.resume room desk.pool answer
      ({ desk with pool := pool }, afterLookup room progress)
  | reopening channel phase, answer =>
      let (pool, progress) := phase.resume desk.pool answer
      ({ desk with pool := pool }, afterReopening channel progress)
  | direct _, .failed fault => (desk, ended (.error fault))
  | direct _, .connected channel => (desk, looked (.ok channel))
  | direct _, .done => (desk, ended (.ok ()))
  | other, _ => (desk, other)

end PoolCall

abbrev PoolCall.World := RoomLoad.World Desk PoolCall

def poolCalls : System Desk PoolCall where
  call? := PoolCall.call?
  moves := PoolCall.moves
  resume _ := PoolCall.resume
  receive := Desk.receive
  countReconnect := Desk.countReconnect

end RoomLoad
