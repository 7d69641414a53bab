import RoomLoad.Proofs.Delivery.Waiting
import RoomLoad.Proofs.Handoff.Steps

/-!
# The lock of the pool in a main phase

The conductor and the workers use the lock as their lookups and reopenings do.  At every
moment of a run the lock is where they take it to be.
-/

namespace RoomLoad

open CreationLock (Moves Serves)

namespace Conductor

def use : ConductorPhase → LockUse
  | .prewarming _ lookup => lookup.use
  | _ => .away

variable {view : View} {task : TaskId} {state later : RunState} {phase next : ConductorPhase}

theorem use_afterLookup (config : Config) (room : Nat)
    (progress : Progress Lookup Lookup.Result) :
    use (afterLookup config room progress) = Lookup.useAfter progress := by
  cases progress with
  | going lookup => rfl
  | ended result =>
      rw [afterLookup, nextRoom]
      split <;> rfl

theorem Goes.moves {answer : Option Answer}
    (goes : Goes view task state phase answer later next) :
    Moves task state.desk.pool.lock (use phase) (use next) later.desk.pool.lock := by
  cases goes with
  | looks prewarming moved =>
      rw [use_afterLookup, prewarming]
      exact Lookup.moves_of_move? moved
  | looksOn prewarming waits returns =>
      rw [use_afterLookup, prewarming]
      exact Lookup.moves_resume waits returns
  | refuses phase | begins phase | hasNoPlan phase | launches phase | collects phase
  | falls phase | isDrained phase | timesOut phase | pauses phase | clears phase
  | wakes phase =>
      rw [phase]
      exact .keeps .away
  | finishes phase same =>
      rw [phase, same]
      exact .keeps .away

end Conductor

/-- How a task stands to the lock of the pool. -/
def RunTask.use : RunTask → LockUse
  | conductor phase => Conductor.use phase
  | generator _ => .away
  | worker inner => inner.use

namespace MainPhase

variable {before after : Situation RunState RunTask} {act : Act RunTask} {stoppable : Bool}
  {trace : List (Transition RunState RunTask)}

/-- The lock is where the tasks take it to be. -/
def Locked (situation : Situation RunState RunTask) : Prop :=
  situation.common.desk.pool.lock.Serves (situation.uses RunTask.use)

theorem Locked.goes (locked : Locked before) (goes : Goes before act after) : Locked after := by
  cases goes with
  | idles acts frames =>
      unfold Locked Situation.uses
      rw [frames.lock, frames.tasks]
      exact locked
  | conducts acts found goes => exact Serves.put locked found goes.moves
  | generates acts found => exact Serves.put locked found (.keeps .away)
  | works acts found goes => exact Serves.put locked found goes.moves

theorem Locked.step (locked : Locked before) (step : mainPhase.Step before act after)
    (allowed : rules stoppable trace ⟨before, act, after⟩) : Locked after :=
  locked.goes (goes_of_step step (discreet_of_rules allowed step))

end MainPhase

end RoomLoad
