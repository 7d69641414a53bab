import RoomLoad.Proofs.Delivery.Custody
import RoomLoad.Proofs.Pool.Errands

/-!
# What is left for a worker to do

From taking a unit to letting go of it a worker takes a bounded number of steps, begins one
try and one transmission.  How much of that is still to come is told by where it stands, and
for a worker that rests by whether it was asked to stop before it lay down.
-/

namespace RoomLoad

namespace Sight

/-- The unit that the worker begins to try. -/
def tried : Sight SeqId := fun _ worker _ later =>
  match worker.phase, later.phase with
  | .trying unit, .resolving _ _ => some unit.seq
  | _, _ => none

end Sight

namespace WorkerPhase

def takesLeft : WorkerPhase → Nat
  | receiving => 1
  | _ => 0

/-- How many tries are still begun. -/
def triesLeft (asked : Bool) : WorkerPhase → Nat
  | receiving => 1
  | trying _ => 1
  | resting _ => if asked then 0 else 1
  | _ => 0

/-- How many transmissions are still begun. -/
def sendsLeft (asked : Bool) : WorkerPhase → Nat
  | receiving => 1
  | trying _ => 1
  | resolving _ _ => 1
  | checking _ _ => 1
  | reopening _ _ _ => 1
  | registering _ _ => 1
  | resting _ => if asked then 0 else 1
  | _ => 0

/-- How many steps are still taken at most. -/
def stepsLeft (asked : Bool) : WorkerPhase → Nat
  | ready => 1
  | receiving => 18
  | trying _ => 17
  | resolving _ lookup => 10 + lookup.stepsLeft
  | checking _ _ => 10
  | reopening _ _ stage => 5 + stage.stepsLeft
  | registering _ _ => 5
  | sending _ _ => 4
  | withdrawing _ => 3
  | failing _ => 2
  | resting _ => if asked then 1 else 18
  | finished => 0
  | crashed => 0

theorem takesLeft_le (phase : WorkerPhase) : phase.takesLeft ≤ 1 := by
  cases phase <;> simp [takesLeft]

theorem triesLeft_le (asked : Bool) (phase : WorkerPhase) : phase.triesLeft asked ≤ 1 := by
  cases phase <;> cases asked <;> simp [triesLeft]

theorem sendsLeft_le (asked : Bool) (phase : WorkerPhase) : phase.sendsLeft asked ≤ 1 := by
  cases phase <;> cases asked <;> simp [sendsLeft]

theorem stepsLeft_le (asked : Bool) (phase : WorkerPhase) : phase.stepsLeft asked ≤ 18 := by
  cases phase with
  | resolving unit lookup => cases lookup <;> simp [stepsLeft, Lookup.stepsLeft]
  | reopening unit channel reopening =>
      cases reopening <;> simp [stepsLeft, Reopening.stepsLeft]
  | _ => cases asked <;> simp [stepsLeft]

end WorkerPhase

namespace Worker

/-- A step of a worker uses up what was left to do. -/
structure Dwindles (asked : Bool) (desk : Desk) (worker : Worker) (later : Desk)
    (next : Worker) : Prop where
  takes : (Sight.taken desk worker later next).toList.length + next.phase.takesLeft ≤
    worker.phase.takesLeft
  tries : (Sight.tried desk worker later next).toList.length + next.phase.triesLeft true ≤
    worker.phase.triesLeft asked
  sends : (Sight.transmitted desk worker later next).toList.length +
    next.phase.sendsLeft true ≤ worker.phase.sendsLeft asked
  steps : next.phase.stepsLeft true < worker.phase.stepsLeft asked

variable {view : View} {task : TaskId} {desk later : Desk} {worker next : Worker}
  {answer : Option Answer} {asked : Bool}

private theorem dwindles_of_lookup {unit : OutboundUnit} {lookup : Lookup} {pool : Pool}
    {progress : Progress Lookup Lookup.Result}
    (resolving : worker.phase = .resolving unit lookup)
    (fewer : Lookup.stepsAfter progress < lookup.stepsLeft) :
    Dwindles asked desk worker { desk with pool := pool } (worker.afterLookup unit progress) := by
  have left : (worker.afterLookup unit progress).phase.stepsLeft true ≤
      10 + Lookup.stepsAfter progress := by
    rcases progress with going | (fault | channel) <;>
      simp [afterLookup, WorkerPhase.stepsLeft, Lookup.stepsAfter]
  constructor
  case takes =>
    rcases progress with going | (fault | channel) <;>
      simp [Sight.taken, afterLookup, WorkerPhase.takesLeft]
  case tries =>
    rcases progress with going | (fault | channel) <;>
      simp [Sight.tried, afterLookup, WorkerPhase.triesLeft, resolving]
  case sends =>
    rcases progress with going | (fault | channel) <;>
      simp [Sight.transmitted, afterLookup, WorkerPhase.sendsLeft, resolving]
  case steps =>
    calc
      _ ≤ 10 + Lookup.stepsAfter progress := left
      _ < 10 + lookup.stepsLeft := by omega
      _ = worker.phase.stepsLeft asked := by rw [resolving]; rfl

private theorem dwindles_of_reopening {unit : OutboundUnit} {channel : ChannelId}
    {reopening : Reopening} {pool : Pool} {progress : Progress Reopening Reopening.Result}
    (reopens : worker.phase = .reopening unit channel reopening)
    (fewer : Reopening.stepsAfter progress < reopening.stepsLeft) :
    Dwindles asked desk worker { desk with pool := pool }
      (worker.afterReopening unit channel progress) := by
  have left : (worker.afterReopening unit channel progress).phase.stepsLeft true ≤
      5 + Reopening.stepsAfter progress := by
    rcases progress with going | (fault | ⟨⟩) <;>
      simp [afterReopening, WorkerPhase.stepsLeft, Reopening.stepsAfter]
  constructor
  case takes =>
    rcases progress with going | (fault | ⟨⟩) <;>
      simp [Sight.taken, afterReopening, WorkerPhase.takesLeft]
  case tries =>
    rcases progress with going | (fault | ⟨⟩) <;>
      simp [Sight.tried, afterReopening, WorkerPhase.triesLeft, reopens]
  case sends =>
    rcases progress with going | (fault | ⟨⟩) <;>
      simp [Sight.transmitted, afterReopening, WorkerPhase.sendsLeft, reopens]
  case steps =>
    calc
      _ ≤ 5 + Reopening.stepsAfter progress := left
      _ < 5 + reopening.stepsLeft := by omega
      _ = worker.phase.stepsLeft asked := by rw [reopens]; rfl

/-- Whatever a worker does that has a unit in hand or was asked to stop, less is left to
do. -/
theorem Goes.dwindles (goes : Goes view task desk worker answer later next)
    (summoned : worker.phase = .ready → desk.shutdown = true)
    (early : ∀ unit, answer = some .done → worker.phase = .resting unit → asked = false) :
    Dwindles asked desk worker later next := by
  cases goes with
  | asks ready calm =>
      rw [summoned ready] at calm
      contradiction
  | looks resolving moved => exact dwindles_of_lookup resolving (Lookup.stepsAfter_of_move? moved)
  | looksOn resolving waits returns =>
      exact dwindles_of_lookup resolving (Lookup.stepsAfter_resume waits returns)
  | reopens reopens moved =>
      exact dwindles_of_reopening reopens (Reopening.stepsAfter_of_move? moved)
  | reopensOn reopens waits returns =>
      exact dwindles_of_reopening reopens (Reopening.stepsAfter_resume waits returns)
  | takes phase taken | endsAtStop phase taken =>
      have shorter := UnitQueue.items_of_take taken
      constructor <;>
        simp [Sight.taken, Sight.tried, Sight.transmitted, WorkerPhase.takesLeft,
          WorkerPhase.triesLeft, WorkerPhase.sendsLeft, WorkerPhase.stepsLeft, phase, shorter]
  | wakes phase =>
      have unasked := early _ rfl phase
      constructor <;>
        simp [Sight.taken, Sight.tried, Sight.transmitted, WorkerPhase.takesLeft,
          WorkerPhase.triesLeft, WorkerPhase.sendsLeft, WorkerPhase.stepsLeft, phase, unasked]
  | stops idle =>
      rcases idle with phase | phase <;> constructor <;>
        simp [Sight.taken, Sight.tried, Sight.transmitted, WorkerPhase.takesLeft,
          WorkerPhase.triesLeft, WorkerPhase.sendsLeft, WorkerPhase.stepsLeft, phase]
  | endsAtHangUp phase | tries phase | hasTried phase | findsOpen phase | findsClosed phase
  | enters phase | withdraws phase | findsAcknowledged phase | rests phase | hasFailed phase
  | isInterrupted phase | sends phase | fails phase =>
      constructor <;> cases asked <;>
        simp [Sight.taken, Sight.tried, Sight.transmitted, WorkerPhase.takesLeft,
          WorkerPhase.triesLeft, WorkerPhase.sendsLeft, WorkerPhase.stepsLeft, deliver,
          Lookup.stepsLeft, Reopening.stepsLeft, phase]

end Worker

end RoomLoad
