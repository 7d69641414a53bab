import RoomLoad.Simulation.World

/-!
# The course of a simulated run

What happens at one moment happens in turn.  A task that has its turn goes on until it
has to wait, and those that can go on because of it queue up; when nothing is left to
happen the clock jumps to the next timer.
-/

namespace RoomLoad.World

variable {σ τ : Type}

/-- The next step of a task: its preferred move, or the call that it waits for.
`none` if it has to wait. -/
def advance? (system : System σ τ) (world : World σ τ) (id : TaskId) :
    Option (World σ τ) := do
  let slot ← world.slots[id]?
  match system.moves world.view id world.common slot.task with
  | (common, task) :: _ =>
      let slots := world.slots.setIfInBounds id { slot with task := task, called := false }
      let moved := { world with common := common, slots := slots }
      return if slot.called then moved.withoutWakes id else moved
  | [] =>
      if slot.called then
        none
      else
        let call ← system.call? slot.task
        let slots := world.slots.setIfInBounds id { slot with called := true }
        return { world with slots := slots }.makeCall system id call

/-- The tasks that can go on are those with a next step. -/
theorem isSome_advance? (system : System σ τ) (world : World σ τ) (id : TaskId) :
    (world.advance? system id).isSome = world.canAdvance system id := by
  unfold advance? canAdvance
  cases world.slots[id]? with
  | none => rfl
  | some slot =>
      cases moves : system.moves world.view id world.common slot.task with
      | cons move others => simp [moves]
      | nil =>
          cases called : slot.called with
          | true => simp [moves, called]
          | false => cases call : system.call? slot.task <;> simp [moves, called, call]

def endTurn (system : System σ τ) (world : World σ τ) (id : TaskId) : World σ τ :=
  { world.enlist system with current := none, order := world.order.erase id ++ [id] }

/-- What is to happen next at this moment happens; the task that it happens to has its
turn if it can go on. -/
def next? (system : System σ τ) (world : World σ τ) : Option (World σ τ) := do
  let (happening, rest) ← world.ready.pop?
  let later := { world with ready := rest }.happen system happening
  match happening.task?.filter (later.canAdvance system) with
  | some id => some { later with current := some id }
  | none => some (later.enlist system)

/-- The next step at this moment, of the task that has its turn or whatever is to happen
next.  `none` if everything has to wait. -/
def turn? (system : System σ τ) (world : World σ τ) : Option (World σ τ) :=
  match world.current with
  | some id => some ((world.advance? system id).getD (world.endTurn system id))
  | none => world.next? system <|> (world.enlist system).next? system

def isForeground (world : World σ τ) (happening : Happening) : Bool :=
  happening.task?.any world.foreground.contains

/-- Whatever is due is to happen, what concerns the foreground first. -/
def fire (world : World σ τ) : World σ τ :=
  let (due, later) := world.timers.span fun timer => timer.due ≤ world.now
  let (ours, others) := (due.map Timer.happening).partition world.isForeground
  { world with ready := world.ready.append (ours ++ others), timers := later }

/-- The clock shows at least a moment. -/
def notBefore (moment : Instant) (world : World σ τ) : World σ τ :=
  { world with now := max world.now moment }

/-- The clock jumps to the next timer, if that is due before `limit`. -/
def jump? (world : World σ τ) (limit : Option Instant) : Option (World σ τ) := do
  let timer ← world.timers.head?
  if limit.all fun moment => timer.due < moment then
    some (world.notBefore timer.due).fire
  else
    none

/-- More steps than any run takes that comes to an end in reasonable time. -/
def patience : Nat := 1000000000

/-- Takes up to `steps` steps until everything has to wait; no time passes. -/
def settle (system : System σ τ) : Nat → World σ τ → World σ τ
  | 0, world => world
  | steps + 1, world =>
      match world.turn? system with
      | some later => settle system steps later
      | none => world

/-- Everything happens that can happen at this moment. -/
def catchUp (system : System σ τ) (world : World σ τ) : World σ τ :=
  world.settle system patience

/-- Takes up to `steps` steps as long as something is unfinished, and none at `limit` or
later; a moment that has begun is brought to its end. -/
def runWhile (system : System σ τ) (unfinished : World σ τ → Bool) (limit : Option Instant) :
    Nat → World σ τ → World σ τ
  | 0, world => world
  | steps + 1, world =>
      match world.turn? system with
      | some later => runWhile system unfinished limit steps later
      | none =>
          if unfinished world then
            match world.jump? limit with
            | some later => runWhile system unfinished limit steps later
            | none => world
          else
            world

/-- Takes up to `steps` steps, but none once everything is finished. -/
def stopWhen (system : System σ τ) (finished : World σ τ → Bool) :
    Nat → World σ τ → World σ τ
  | 0, world => world
  | steps + 1, world =>
      if finished world then
        world
      else
        match world.turn? system <|> world.jump? none with
        | some later => stopWhen system finished steps later
        | none => world

/-- The moment so long from now, as far as anything can be put off. -/
def momentAfter (world : World σ τ) (duration : Duration) : Instant :=
  world.now + min duration.nanos Timer.longestSleep

/-- Goes on until the clock shows a moment and all that is due then has happened. -/
def runUntil (system : System σ τ) (moment : Instant) (world : World σ τ) : World σ τ :=
  (world.runWhile system (fun _ => true) (some (moment + 1)) patience).notBefore moment

/-- Lets so much time pass. -/
def pass (system : System σ τ) (duration : Duration) (world : World σ τ) : World σ τ :=
  world.runUntil system (world.momentAfter duration)

/-- Lets so much time pass; what is due at its end is still to come, and no time at all
lets nothing happen. -/
def passShort (system : System σ τ) (duration : Duration) (world : World σ τ) : World σ τ :=
  if duration.nanos = 0 then
    world
  else
    let moment := world.momentAfter duration
    (world.runWhile system (fun _ => true) (some moment) patience).notBefore moment

/-- Adds a task, and everything happens that can happen at once. -/
def begin (system : System σ τ) (task : τ) (world : World σ τ) : World σ τ :=
  let added := world.addTasks [task]
  { added with ready := world.ready.append ((world.numbers [task]).map .turns) }.catchUp system

/-- Adds tasks in the foreground and goes on until each of them has ended or nothing is
left to happen; the second part are these tasks as they are then. -/
def perform (system : System σ τ) (hasEnded : τ → Bool) (tasks : List τ)
    (world : World σ τ) : World σ τ × List τ :=
  let ids := world.numbers tasks
  let added := world.addTasks tasks
  let ready := Fifo.ofList (ids.map .turns ++ world.ready.toList)
  let begun := { added with ready := ready, foreground := ids }
  let ended := begun.stopWhen system
    (fun world => (ids.filterMap world.task?).all hasEnded) patience
  (ended, ids.filterMap ended.task?)

end RoomLoad.World
