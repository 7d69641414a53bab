import RoomLoad.Fault
import RoomLoad.Random
import RoomLoad.UnitQueue

/-!
# The generator

Makes a planned number of random units, one after another, and one request to
stop for every worker behind them.  It ends early only if nobody is left to take
what it makes.
-/

namespace RoomLoad

def standardTemplates (size : Nat) : List String :=
  (List.range size).map fun index => "Message-" ++ (index + 1).repr

structure GeneratorPlan where
  total : Nat
  /-- How many requests to stop follow the units. -/
  sentinels : Nat
  templates : Array String
  users : IdRange
  rooms : IdRange

structure GeneratorReport where
  /-- The units that the queue accepted. -/
  produced : Nat
  /-- Whether units were left over. -/
  interrupted : Bool
deriving DecidableEq

inductive GeneratorStage where
  /-- Before the unit with this number is made. -/
  | making (number : Nat)
  /-- A unit is made and waits for a place in the queue. -/
  | holding (number : Nat) (unit : OutboundUnit)
  /-- So many requests to stop are left. -/
  | stopping (left : Nat)
  | ended (report : GeneratorReport)

structure Generator where
  plan : GeneratorPlan
  source : RandomSource
  stage : GeneratorStage

namespace MessageKind

def sample (source : RandomSource) : MessageKind × RandomSource :=
  let (roll, rest) := source.within 32 0 99
  (.ofRoll (UInt32.ofNat roll), rest)

def samples : Nat → RandomSource → List MessageKind × RandomSource
  | 0, source => ([], source)
  | count + 1, source =>
      let (kind, rest) := sample source
      let (kinds, last) := samples count rest
      (kind :: kinds, last)

end MessageKind

namespace GeneratorPlan

/-- A plan, unless there is nothing to choose from. -/
def make (total sentinels : Nat) (templates : List String) (users rooms : IdRange) :
    Except Fault GeneratorPlan :=
  if templates.isEmpty then .error (.config "message pool is empty")
  else if users.isEmpty then .error (.config ("empty user id range " ++ users.text))
  else if rooms.isEmpty then .error (.config ("empty room id range " ++ rooms.text))
  else .ok ⟨total, sentinels, templates.toArray, users, rooms⟩

/-- A random unit: user, room, text and kind are drawn in this order. -/
def drawUnit (plan : GeneratorPlan) (number : Nat) (now : Timestamp) (source : RandomSource) :
    OutboundUnit × RandomSource :=
  let (user, afterUser) := source.ofRange plan.users
  let (room, afterRoom) := afterUser.ofRange plan.rooms
  let (index, afterText) := afterRoom.within 64 0 (plan.templates.size - 1)
  let (kind, afterKind) := MessageKind.sample afterText
  ({ seq := UInt64.ofNat number
     user := user
     username := "user" ++ user.toNat.repr
     text := plan.templates.getD index ""
     room := room
     kind := kind
     createdAt := now
     attempt := 0 }, afterKind)

/-- Whether a plan can make a unit: its user, room and text are among those to choose
from, and the user has the right name. -/
def admits (plan : GeneratorPlan) (unit : OutboundUnit) : Bool :=
  plan.users.holds unit.user && plan.rooms.holds unit.room && plan.templates.contains unit.text &&
    unit.username == "user" ++ unit.user.toNat.repr

def start (plan : GeneratorPlan) (source : RandomSource) : Generator :=
  ⟨plan, source, .making 0⟩

end GeneratorPlan

namespace Generator

/-- The next step of a generator: it makes a unit, hands over the one that it
holds, or hands over a request to stop.  `none` if it has ended or the queue has
no room. -/
def step? (now : Timestamp) (queue : UnitQueue) (generator : Generator) :
    Option (Generator × UnitQueue) :=
  let plan := generator.plan
  let goTo (stage : GeneratorStage) : Generator := { generator with stage := stage }
  match generator.stage with
  | .making number =>
      if number < plan.total then
        let (unit, rest) := plan.drawUnit number now generator.source
        some (⟨plan, rest, .holding number unit⟩, queue)
      else
        some (goTo (.stopping plan.sentinels), queue)
  | .holding number unit =>
      match queue.offer (.unit unit) with
      | .accepted later => some (goTo (.making (number + 1)), later)
      | .full => none
      | .disconnected => some (goTo (.ended ⟨number, true⟩), queue.dropSender)
  | .stopping 0 => some (goTo (.ended ⟨plan.total, false⟩), queue.dropSender)
  | .stopping (left + 1) =>
      match queue.offer .stop with
      | .accepted later => some (goTo (.stopping left), later)
      | .full => none
      | .disconnected => some (goTo (.ended ⟨plan.total, false⟩), queue.dropSender)
  | .ended _ => none

def report? (generator : Generator) : Option GeneratorReport :=
  match generator.stage with
  | .ended report => some report
  | _ => none

/-- Runs a generator against a consumer that takes an item whenever the queue is
full, and all items in the end; the items are given in the order in which they
were taken. -/
def runConsumed (now : Timestamp) :
    Nat → UnitQueue → Generator → List Envelope × Generator
  | 0, queue, generator => (queue.items, generator)
  | steps + 1, queue, generator =>
      match generator.step? now queue with
      | some (next, later) => runConsumed now steps later next
      | none =>
          match queue.take with
          | .item envelope later =>
              let (taken, last) := runConsumed now steps later generator
              (envelope :: taken, last)
          | _ => ([], generator)

/-- As many steps as a whole run can take: two for every unit, one for every
request to stop, two more to end, and one for every item taken. -/
def stepsWithin (plan : GeneratorPlan) : Nat :=
  3 * plan.total + 2 * plan.sentinels + 3

/-- The items that a consumer gets from a plan through a queue, and the
generator at its end.  A queue without capacity hands every item over directly,
which to a consumer that waits is a queue with one place. -/
def consumed (plan : GeneratorPlan) (source : RandomSource) (queue : UnitQueue)
    (now : Timestamp) : List Envelope × Generator :=
  runConsumed now (stepsWithin plan) { queue with capacity := max queue.capacity 1 }
    (plan.start source)

end Generator

end RoomLoad
