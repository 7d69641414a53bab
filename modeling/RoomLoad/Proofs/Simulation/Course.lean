import RoomLoad.Proofs.Simulation.Calls
import RoomLoad.Simulation.Course

/-!
# The course of a simulated run is a run

Every turn and every jump of the clock leads a world that a run has reached to another
one, and so does a course of any number of them.  What is proved of all runs of a system
therefore holds of the one that is simulated, as long as no call brings its task down.
-/

namespace RoomLoad

variable {σ τ : Type}

/-- Only a task that sleeps or waits goes on before its call returns. -/
def System.Steadfast (system : System σ τ) : Prop :=
  ∀ view id common task call, system.call? task = some call →
    system.moves view id common task ≠ [] →
      (∃ duration, call = .sleep duration) ∨ ∃ deadline, call = .wait deadline

/-- Tasks may join a run one after another if its rules let each of them in. -/
theorem System.Run.join {system : System σ τ} {rules : Rules σ τ} {start last : Situation σ τ}
    {trace : List (Transition σ τ)} {tasks : List τ}
    (allowed : ∀ task ∈ tasks, ∀ trace before,
      rules trace ⟨before, .begin task, { before with tasks := before.tasks ++ [task] }⟩)
    (run : system.Run rules start trace last) :
    ∃ trace, system.Run rules start trace { last with tasks := last.tasks ++ tasks } := by
  induction tasks generalizing trace last with
  | nil => exact ⟨trace, by rwa [List.append_nil]⟩
  | cons task tasks induction =>
      have joined := run.step (.begin task) (allowed task (by simp) trace last)
      obtain ⟨trace, run⟩ := induction (fun other member => allowed other (by simp [member])) joined
      exact ⟨trace, by simpa using run⟩

namespace World

variable {system : System σ τ} {world : World σ τ} {id : TaskId}

theorem standings_addTasks (world : World σ τ) (tasks : List τ) :
    (world.addTasks tasks).standings = world.standings ++ tasks.map fun task => (task, false) := by
  simp [standings, addTasks, Slot.standing, Function.comp_def]

theorem situation_addTasks (world : World σ τ) (tasks : List τ) :
    (world.addTasks tasks).situation =
      { world.situation with tasks := world.situation.tasks ++ tasks } := by
  simp only [situation, standings_addTasks, List.map_append, List.map_map]
  simp [Function.comp_def, addTasks, view]

theorem replies_eq_nil_of_start (connector : ConnectorScript) (common : σ) (tasks : List τ) :
    (start connector common tasks).replies = [] := by
  simp [replies, pending, start, Happening.answered?]

theorem pending_fire (world : World σ τ) : world.fire.pending.Perm world.pending := by
  unfold fire
  rw [List.span_eq_takeWhile_dropWhile]
  simp only [List.partition_eq_filter_filter, pending, Fifo.toList_append, List.append_assoc]
  refine List.Perm.append_left _ ?_
  have whole := List.takeWhile_append_dropWhile (p := fun timer : Timer => timer.due ≤ world.now)
    (l := world.timers)
  conv => rhs; rw [← whole, List.map_append]
  rw [← List.append_assoc]
  exact (List.filter_append_perm _ _).append_right _

theorem pending_withoutWakes (world : World σ τ) (id : TaskId) :
    (world.withoutWakes id).pending = world.pending.filter (· != .wakes id) := by
  simp [pending, withoutWakes, Timer.withoutWakes, List.filter_map, Function.comp_def]

namespace Resembles

theorem withoutWakes (world : World σ τ) (id : TaskId) :
    Resembles (world.withoutWakes id) world :=
  of_pending rfl rfl rfl (pending_withoutWakes world id ▸ List.filter_sublist.subperm)

theorem notBefore (moment : Instant) (world : World σ τ) :
    Resembles (world.notBefore moment) world :=
  ⟨rfl, rfl, rfl, .refl _⟩

theorem fire (world : World σ τ) : Resembles world.fire world :=
  of_pending rfl rfl rfl (pending_fire world).subperm

theorem endTurn (system : System σ τ) (world : World σ τ) (id : TaskId) :
    Resembles (world.endTurn system id) world := by
  have ended : Resembles (world.endTurn system id) (world.enlist system) :=
    ⟨rfl, rfl, rfl, .refl _⟩
  exact ended.trans (enlist system world)

end Resembles

end World

open World

namespace Reached

variable {system : System σ τ} {rules : Rules σ τ} {start : Situation σ τ}
  {world later : World σ τ} {id : TaskId} {slot : Slot τ} {call : Call}

theorem addTasks {tasks : List τ} (reached : Reached system rules start world)
    (joined : ∃ trace, system.Run rules start trace
      { world.situation with tasks := world.situation.tasks ++ tasks }) :
    Reached system rules start (world.addTasks tasks) := by
  constructor
  case run => rwa [situation_addTasks]
  case spared => exact reached.spared
  case distinct => exact reached.distinct
  case settled =>
    intro happening member
    obtain ⟨id, call, answers, waits, settles⟩ := reached.settled happening member
    refine ⟨id, call, answers, ?_, settles⟩
    obtain ⟨slot, found, called, calls⟩ := exists_slot_of_calling? waits
    obtain ⟨inside, _⟩ := List.getElem?_eq_some_iff.mp (standings_getElem? found)
    rw [calling?, standings_addTasks, List.getElem?_append_left inside]
    exact waits

/-- A task that goes on before its call returns has no other answer on its way than that
its wait is over. -/
theorem notMem_awaited_withoutWakes (steadfast : system.Steadfast)
    (reached : Reached system rules start world) (found : world.slots[id]? = some slot)
    (goesOn : system.moves world.view id world.common slot.task ≠ []) :
    id ∉ (world.withoutWakes id).awaited := by
  rw [awaited_eq]
  intro awaited
  obtain ⟨happening, member, answers⟩ := List.mem_filterMap.mp awaited
  have isReply := (Resembles.withoutWakes world id).replies.subset member
  obtain ⟨other, call, same, waits, settles⟩ := reached.settled happening isReply
  cases answers.symm.trans same
  obtain ⟨slot', found', _, waits⟩ := exists_slot_of_calling? waits
  cases found.symm.trans found'
  rw [replies, pending_withoutWakes, List.mem_filter, List.mem_filter] at member
  have notWakes := member.1.2
  rcases steadfast _ _ _ _ _ waits goesOn with ⟨duration, rfl⟩ | ⟨deadline, rfl⟩
  all_goals
    cases happening with
    | wakes task =>
        cases answers
        simp at notWakes
    | _ => contradiction

/-- A task that makes a call waits for it from then on. -/
theorem calls (reached : Reached system rules start world) (found : world.slots[id]? = some slot)
    (idle : slot.called = false) (waits : system.call? slot.task = some call) :
    Owes system rules start
      { world with slots := world.slots.setIfInBounds id { slot with called := true } }
      id call := by
  have alone : id ∉ world.awaited := reached.notMem_awaited (by rw [calling?_eq found, idle]; rfl)
  have standings :
      (world.slots.setIfInBounds id { slot with called := true }).toList.map Slot.standing =
        world.standings.set id (slot.task, true) := map_standing_setIfInBounds _ _ _
  have same : (world.standings.set id (slot.task, true)).map Prod.fst = world.situation.tasks := by
    rw [List.map_set]
    exact set_of_getElem? (situation_getElem? found)
  obtain ⟨inside, _⟩ := List.getElem?_eq_some_iff.mp (standings_getElem? found)
  constructor
  case toReached =>
    constructor
    case run =>
      obtain ⟨trace, run⟩ := reached.run
      rw [situation, World.standings, standings]
      exact ⟨trace, same ▸ run⟩
    case spared => exact reached.spared
    case distinct => exact reached.distinct
    case settled => exact reached.settled_of_set alone standings
  case waits =>
    rw [calling?, World.standings, standings, List.getElem?_set_self inside]
    exact waits
  case alone => exact alone

variable (free : ∀ trace transition, transition.act.isInner = true → rules trace transition)

include free

/-- A task that makes a move gives up the wait that it was in. -/
theorem move (steadfast : system.Steadfast) (reached : Reached system rules start world)
    (found : world.slots[id]? = some slot) {after : σ × τ}
    (member : after ∈ system.moves world.view id world.common slot.task) :
    let slots := world.slots.setIfInBounds id { slot with task := after.2, called := false }
    let moved := { world with common := after.1, slots := slots }
    Reached system rules start (if slot.called then moved.withoutWakes id else moved) := by
  intro slots moved
  have step : system.Step world.situation (.move id) (world.situation.put id after) :=
    .move (situation_getElem? found) member
  have standings := map_standing_setIfInBounds world.slots id
    { slot with task := after.2, called := false }
  split
  case isTrue =>
    -- the wake-up goes before the move, so that no answer to this task is on its way
    have quiet := reached.of_resembles free (.withoutWakes world id)
    have alone := reached.notMem_awaited_withoutWakes steadfast found (List.ne_nil_of_mem member)
    exact quiet.put free alone step rfl standings
  case isFalse idle =>
    have alone : id ∉ world.awaited :=
      reached.notMem_awaited (by rw [calling?_eq found, if_neg idle])
    exact reached.put free alone step rfl standings

/-- The turn of a task keeps to the steps of a run. -/
theorem advance? (steadfast : system.Steadfast) (reached : Reached system rules start world)
    (advances : world.advance? system id = some later) : Reached system rules start later := by
  unfold World.advance? at advances
  cases found : world.slots[id]? with
  | none => simp [found] at advances
  | some slot =>
      simp only [found, Option.bind_eq_bind, Option.bind_some] at advances
      split at advances
      case h_1 common task others moves =>
        have member : (common, task) ∈ system.moves world.view id world.common slot.task := by
          simp [moves]
        exact Option.some.inj advances ▸ reached.move free steadfast found member
      case h_2 =>
        split at advances
        case isTrue => contradiction
        case isFalse idle =>
          obtain ⟨call, waits, made⟩ := Option.bind_eq_some_iff.mp advances
          have owes := reached.calls found (eq_false_of_ne_true idle) waits
          exact Option.some.inj made ▸ owes.makeCall free

theorem next? (reached : Reached system rules start world)
    (happens : world.next? system = some later) : Reached system rules start later := by
  unfold World.next? at happens
  simp only [Option.bind_eq_bind, Option.bind_eq_some_iff] at happens
  obtain ⟨⟨happening, rest⟩, popped, chosen⟩ := happens
  have happened := reached.happen free popped
  split at chosen
  case h_1 => exact Option.some.inj chosen ▸ happened.of_resembles free ⟨rfl, rfl, rfl, .refl _⟩
  case h_2 => exact Option.some.inj chosen ▸ happened.of_resembles free (.enlist system _)

/-- What happens next at a moment keeps to the steps of a run. -/
theorem turn? (steadfast : system.Steadfast) (reached : Reached system rules start world)
    (turns : world.turn? system = some later) : Reached system rules start later := by
  unfold World.turn? at turns
  split at turns
  case h_1 id has =>
    cases advances : world.advance? system id with
    | some next =>
        rw [advances] at turns
        exact Option.some.inj turns ▸ reached.advance? free steadfast advances
    | none =>
        rw [advances] at turns
        exact Option.some.inj turns ▸ reached.of_resembles free (.endTurn system world id)
  case h_2 =>
    rw [Option.orElse_eq_orElse, Option.orElse_eq_or, Option.or_eq_some_iff] at turns
    rcases turns with happens | ⟨_, happens⟩
    · exact reached.next? free happens
    · exact (reached.of_resembles free (.enlist system world)).next? free happens

theorem jump? (reached : Reached system rules start world) {limit : Option Instant}
    (jumps : world.jump? limit = some later) : Reached system rules start later := by
  unfold World.jump? at jumps
  simp only [Option.bind_eq_bind, Option.bind_eq_some_iff] at jumps
  obtain ⟨timer, _, within⟩ := jumps
  split at within
  case isTrue =>
    exact Option.some.inj within ▸ reached.of_resembles free (.trans (.fire _) (.notBefore _ world))
  case isFalse => contradiction

variable (steadfast : system.Steadfast)

include steadfast

theorem settle (reached : Reached system rules start world) (steps : Nat) :
    Reached system rules start (world.settle system steps) := by
  induction steps generalizing world with
  | zero => exact reached
  | succ steps induction =>
      rw [World.settle]
      split
      case h_1 next turns => exact induction (reached.turn? free steadfast turns)
      case h_2 => exact reached

/-- Whatever is unfinished and whatever the limit: the course is part of a run. -/
theorem runWhile (reached : Reached system rules start world) (unfinished : World σ τ → Bool)
    (limit : Option Instant) (steps : Nat) :
    Reached system rules start (world.runWhile system unfinished limit steps) := by
  induction steps generalizing world with
  | zero => exact reached
  | succ steps induction =>
      rw [World.runWhile]
      split
      case h_1 next turns => exact induction (reached.turn? free steadfast turns)
      case h_2 =>
        split
        case isTrue =>
          split
          case h_1 next jumps => exact induction (reached.jump? free jumps)
          case h_2 => exact reached
        case isFalse => exact reached

theorem stopWhen (reached : Reached system rules start world) (finished : World σ τ → Bool)
    (steps : Nat) : Reached system rules start (world.stopWhen system finished steps) := by
  induction steps generalizing world with
  | zero => exact reached
  | succ steps induction =>
      rw [World.stopWhen]
      split
      case isTrue => exact reached
      case isFalse =>
        split
        case h_1 next goes =>
          rw [Option.orElse_eq_orElse, Option.orElse_eq_or, Option.or_eq_some_iff] at goes
          rcases goes with turns | ⟨_, jumps⟩
          · exact induction (reached.turn? free steadfast turns)
          · exact induction (reached.jump? free jumps)
        case h_2 => exact reached

theorem catchUp (reached : Reached system rules start world) :
    Reached system rules start (world.catchUp system) :=
  reached.settle free steadfast patience

theorem runUntil (reached : Reached system rules start world) (moment : Instant) :
    Reached system rules start (world.runUntil system moment) :=
  (reached.runWhile free steadfast _ _ _).of_resembles free (.notBefore moment _)

theorem pass (reached : Reached system rules start world) (duration : Duration) :
    Reached system rules start (world.pass system duration) :=
  reached.runUntil free steadfast _

theorem passShort (reached : Reached system rules start world) (duration : Duration) :
    Reached system rules start (world.passShort system duration) := by
  unfold World.passShort
  split
  case isTrue => exact reached
  case isFalse =>
    exact (reached.runWhile free steadfast _ _ _).of_resembles free (.notBefore _ _)

theorem begin {task : τ} (joined : Reached system rules start (world.addTasks [task])) :
    Reached system rules start (world.begin system task) := by
  refine Reached.catchUp free steadfast (joined.of_resembles free ⟨rfl, rfl, rfl, ?_⟩)
  have behind := Fifo.toList_append world.ready ((world.numbers [task]).map .turns)
  have ready := (List.Perm.of_eq behind).trans List.perm_append_comm
  exact List.Perm.subperm (replies_perm_of_turns ready rfl)

theorem perform {tasks : List τ} (joined : Reached system rules start (world.addTasks tasks))
    (hasEnded : τ → Bool) :
    Reached system rules start (world.perform system hasEnded tasks).1 := by
  have ready := List.Perm.of_eq
    (Fifo.toList_ofList ((world.numbers tasks).map .turns ++ world.ready.toList))
  have begun : Resembles
      { world.addTasks tasks with
        ready := .ofList ((world.numbers tasks).map .turns ++ world.ready.toList)
        foreground := world.numbers tasks } (world.addTasks tasks) :=
    ⟨rfl, rfl, rfl, List.Perm.subperm (replies_perm_of_turns ready rfl)⟩
  exact (joined.of_resembles free begun).stopWhen free steadfast _ _

end Reached

end RoomLoad
