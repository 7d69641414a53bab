import RoomLoad.Proofs.Handoff.Conducting
import RoomLoad.Proofs.Handoff.Feed
import RoomLoad.Proofs.Runs.Replay
import RoomLoad.Run.MainPhase

/-!
# What a step of a main phase comes to

A step is taken by the conductor, by the generator or by a worker, or a frame arrives, or
the run is asked to stop.  What the conductor does is told apart by whether the generator
and the workers may have begun, and whether they must have ended.
-/

namespace RoomLoad

namespace Conductor

/-- Whether the generator and the workers have not begun. -/
def isPreparing : ConductorPhase → Bool
  | .starting => true
  | .prewarming _ _ => true
  | .launching => true
  | _ => false

/-- Whether the generator and the workers have ended, and the run has not. -/
def isWindingDown : ConductorPhase → Bool
  | .draining _ => true
  | .pausing _ _ => true
  | .clearing _ => true
  | .closing _ _ => true
  | _ => false

theorem isWindingDown_of_isPreparing {phase : ConductorPhase}
    (preparing : isPreparing phase = true) : isWindingDown phase = false := by
  cases phase <;> first | rfl | contradiction

/-- What one step of a conductor comes to. -/
inductive Advances (now : Instant) (state : RunState) (phase : ConductorPhase) :
    RunState → ConductorPhase → Prop where
  | prepares (pool : Pool) {next : ConductorPhase} :
      isPreparing phase = true →
      isPreparing next = true →
      Advances now state phase (state.withPool pool) next
  | refuses {fault : Fault} :
      isPreparing phase = true →
      Advances now state phase state (.finished (.error fault))
  | launches :
      phase = .launching →
      Advances now state phase
        { state.changeMetrics (fun metrics => metrics.start now) with launched := true } .awaiting
  | collects {deadline : Instant} :
      phase = .awaiting →
      state.generated.isSome = true →
      state.config.senderWorkers ≤ state.ended →
      Advances now state phase state (.draining deadline)
  | falls :
      phase = .awaiting →
      Advances now state phase state .crashed
  | windsDown (pool : Pool) {next : ConductorPhase} :
      isWindingDown phase = true →
      isWindingDown next = true →
      Advances now state phase (state.withPool pool) next
  | finishes {channels : List ChannelId} {timedOut : Bool} {later : RunState} :
      phase = .closing channels timedOut →
      later = state.changeMetrics (fun metrics => metrics.stop now) →
      Advances now state phase later
        (.finished (.ok (later.summary (state.generated.getD ⟨0, true⟩) timedOut now)))

variable {state later : RunState} {phase next : ConductorPhase}

theorem isPreparing_afterLookup {config : Config} {room : Nat}
    {progress : Progress Lookup Lookup.Result} :
    isPreparing (afterLookup config room progress) = true := by
  cases progress with
  | going lookup => rfl
  | ended result =>
      rw [afterLookup, nextRoom]
      split <;> rfl

theorem Goes.advances {view : View} {task : TaskId} {answer : Option Answer}
    (goes : Goes view task state phase answer later next) :
    Advances view.now state phase later next := by
  cases goes with
  | refuses starting => exact .refuses (by rw [starting]; rfl)
  | begins starting => exact .prepares state.desk.pool (by rw [starting]; rfl) rfl
  | looks prewarming => exact .prepares _ (by rw [prewarming]; rfl) isPreparing_afterLookup
  | hasNoPlan launching => exact .refuses (by rw [launching]; rfl)
  | launches launching => exact .launches launching
  | collects awaiting reported ended => exact .collects awaiting reported ended
  | falls awaiting => exact .falls awaiting
  | isDrained draining => exact .windsDown state.desk.pool (by rw [draining]; rfl) rfl
  | timesOut draining => exact .windsDown state.desk.pool (by rw [draining]; rfl) rfl
  | pauses draining => exact .windsDown state.desk.pool (by rw [draining]; rfl) rfl
  | clears clearing => exact .windsDown _ (by rw [clearing]; rfl) rfl
  | looksOn prewarming => exact .prepares _ (by rw [prewarming]; rfl) isPreparing_afterLookup
  | wakes pausing => exact .windsDown state.desk.pool (by rw [pausing]; rfl) rfl
  | finishes closing same => exact .finishes closing same

/-- A conductor leaves the queue alone, and every entry, record and count. -/
theorem Advances.desk_eq {now : Instant} (advances : Advances now state phase later next) :
    later.desk.queue = state.desk.queue ∧ later.desk.shutdown = state.desk.shutdown ∧
      later.generated = state.generated ∧ later.ended = state.ended ∧ later.tally = state.tally ∧
      later.config = state.config ∧
      later.desk.ledger.correlator = state.desk.ledger.correlator ∧
      later.desk.ledger.metrics.success = state.desk.ledger.metrics.success ∧
      later.desk.ledger.metrics.failure = state.desk.ledger.metrics.failure := by
  cases advances with
  | finishes closing same =>
      subst same
      exact ⟨rfl, rfl, rfl, rfl, rfl, rfl, rfl, rfl, rfl⟩
  | _ => exact ⟨rfl, rfl, rfl, rfl, rfl, rfl, rfl, rfl, rfl⟩

end Conductor

namespace RunTask

def worker? : RunTask → Option Worker
  | worker inner => some inner
  | _ => none

def generator? : RunTask → Option Generator
  | generator inner => some inner
  | _ => none

/-- The state after a step of a worker: one that has ended is counted, and its report
added up. -/
def withWorker (state : RunState) (desk : Desk) (next : Worker) : RunState :=
  { state with
    desk := desk
    ended := if next.phase.isOver then state.ended + 1 else state.ended
    tally := if next.phase.isOver then state.tally.add next.report else state.tally }

theorem afterWorker_eq {state : RunState} {desk : Desk} {next : Worker}
    (standing : next.phase ≠ .crashed) :
    afterWorker state (desk, next) = (withWorker state desk next, worker next) := by
  obtain ⟨policy, report, phase⟩ := next
  cases phase <;> first | rfl | contradiction

end RunTask

namespace MainPhase

/-- The desk and the workers of a main phase. -/
def office : Office RunState RunTask := ⟨RunState.desk, RunTask.worker?⟩

variable {before after : Situation RunState RunTask} {act : Act RunTask} {id : TaskId}

/-- What changes only when a task goes on. -/
structure Frames (before after : Situation RunState RunTask) : Prop where
  tasks : after.tasks = before.tasks
  config : after.common.config = before.common.config
  launched : after.common.launched = before.common.launched
  generated : after.common.generated = before.common.generated
  ended : after.common.ended = before.common.ended
  tally : after.common.tally = before.common.tally
  lock : after.common.desk.pool.lock = before.common.desk.pool.lock
  receivers : after.common.desk.queue.receivers = before.common.desk.queue.receivers
  failures : after.common.desk.ledger.metrics.failure =
    before.common.desk.ledger.metrics.failure

/-- Nobody joins, and whoever changes something from outside leaves alone what only tasks
change. -/
def Discreet (transition : Transition RunState RunTask) : Prop :=
  match transition.act with
  | .outside => Frames transition.before transition.after
  | .begin _ => False
  | _ => True

/-- One step of a main phase by the task that goes on, if any does. -/
inductive Goes (before : Situation RunState RunTask) (act : Act RunTask) :
    Situation RunState RunTask → Prop where
  | idles {after : Situation RunState RunTask} :
      act.task? = none →
      Frames before after →
      Goes before act after
  | conducts {id : TaskId} {phase next : ConductorPhase} {later : RunState} :
      act.task? = some id →
      before.tasks[id]? = some (.conductor phase) →
      Conductor.Goes before.view id before.common phase act.answer? later next →
      Goes before act (before.put id (later, .conductor next))
  | generates {id : TaskId} {generator next : Generator} {queue : UnitQueue} :
      act.task? = some id →
      before.tasks[id]? = some (.generator generator) →
      generator.Advances before.common.desk.queue next queue →
      before.common.launched = true →
      Goes before act
        (before.put id
          ({ before.common with desk.queue := queue, generated := next.report? },
            .generator next))
  | works {id : TaskId} {worker next : Worker} {desk : Desk} :
      act.task? = some id →
      before.tasks[id]? = some (.worker worker) →
      worker.Goes before.view id before.common.desk act.answer? desk next →
      (act.answer? = none → before.common.launched = true) →
      Goes before act
        (before.put id (RunTask.withWorker before.common desk next, .worker next))

theorem frames_of_hears {ledger : Ledger} (hears : before.common.desk.ledger.Hears ledger) :
    Frames before { before with common.desk.ledger := ledger } :=
  ⟨rfl, rfl, rfl, rfl, rfl, rfl, rfl, rfl, hears.failure_eq⟩

private theorem goes_of_mem_moves {id : TaskId} {task : RunTask} {next : RunState × RunTask}
    (found : before.tasks[id]? = some task)
    (member : next ∈ task.moves before.view id before.common) :
    Goes before (.move id) (before.put id next) := by
  cases task with
  | conductor phase =>
      obtain ⟨⟨later, other⟩, moves, rfl⟩ := List.mem_map.mp member
      exact .conducts rfl found (Conductor.goes_of_mem_moves moves)
  | generator generator =>
      unfold RunTask.moves at member
      dsimp only at member
      split at member
      case isTrue launched =>
        split at member
        case h_1 other queue stepped =>
          cases List.mem_singleton.mp member
          exact .generates rfl found (Generator.advances_of_step? stepped) launched
        case h_2 => contradiction
      case isFalse => contradiction
  | worker worker =>
      unfold RunTask.moves at member
      dsimp only at member
      split at member
      case isTrue launched =>
        obtain ⟨⟨desk, other⟩, moves, rfl⟩ := List.mem_map.mp member
        have goes : worker.Goes before.view id before.common.desk none desk other :=
          Worker.goes_of_mem_moves moves
        rw [RunTask.afterWorker_eq goes.advances.phase_ne_crashed]
        exact .works rfl found goes fun _ => launched
      case isFalse => contradiction

private theorem goes_of_resume {id : TaskId} {task : RunTask} {call : Call} {answer : Answer}
    (found : before.tasks[id]? = some task) (waits : task.call? = some call)
    (returns : call.Returns answer) :
    Goes before (.answer id answer)
      (before.put id (task.resume before.view id before.common answer)) := by
  cases task with
  | conductor phase => exact .conducts rfl found (Conductor.goes_resume waits returns)
  | generator generator => contradiction
  | worker worker =>
      have goes : worker.Goes before.view id before.common.desk (some answer)
          (worker.resume id before.common.desk answer).1
          (worker.resume id before.common.desk answer).2 :=
        Worker.goes_resume waits returns
      have ends : RunTask.afterWorker before.common (worker.resume id before.common.desk answer) =
          (RunTask.withWorker before.common (worker.resume id before.common.desk answer).1
              (worker.resume id before.common.desk answer).2,
            .worker (worker.resume id before.common.desk answer).2) :=
        RunTask.afterWorker_eq goes.advances.phase_ne_crashed
      rw [RunTask.resume, ends]
      refine .works rfl found goes ?_
      intro contrary
      contradiction

theorem goes_of_step (step : mainPhase.Step before act after)
    (discreet : Discreet ⟨before, act, after⟩) : Goes before act after := by
  cases step with
  | move found member => exact goes_of_mem_moves found member
  | answer found waits returns => exact goes_of_resume found waits returns
  | frame text => exact .idles rfl (frames_of_hears (Ledger.hears_onAck _ _ _))
  | countReconnect => exact .idles rfl (frames_of_hears (.drops rfl rfl rfl rfl))
  | outside common => exact .idles rfl discreet
  | shift view => exact .idles rfl ⟨rfl, rfl, rfl, rfl, rfl, rfl, rfl, rfl, rfl⟩
  | begin task => exact discreet.elim

private theorem found_of_put {task own : RunTask} {next : RunState × RunTask}
    {other : TaskId} (acts : act.task? = some other)
    (found : before.tasks[other]? = some task)
    (later : (before.put other next).tasks[id]? = some own) :
    (id = other ∧ next.2 = own) ∨ (act.task? ≠ some id ∧ before.tasks[id]? = some own) := by
  rw [Situation.tasks_put found] at later
  split at later
  case isTrue same => exact .inl ⟨same.symm, Option.some.inj later⟩
  case isFalse different =>
    right
    refine ⟨?_, later⟩
    rw [acts]
    exact fun same => different (Option.some.inj same)

theorem Goes.worker {next : Worker} (goes : Goes before act after)
    (found : after.tasks[id]? = some (.worker next)) :
    (act.task? ≠ some id ∧ before.tasks[id]? = some (.worker next)) ∨
    ∃ worker desk, act.task? = some id ∧ before.tasks[id]? = some (.worker worker) ∧
      worker.Goes before.view id before.common.desk act.answer? desk next ∧
      after = before.put id (RunTask.withWorker before.common desk next, .worker next) := by
  cases goes with
  | idles acts frames =>
      rw [frames.tasks] at found
      exact .inl ⟨by simp [acts], found⟩
  | conducts acts present | generates acts present =>
      rcases found_of_put acts present found with ⟨_, same⟩ | others
      · contradiction
      · exact .inl others
  | works acts present goes =>
      rcases found_of_put acts present found with ⟨rfl, same⟩ | others
      · cases same
        exact .inr ⟨_, _, acts, present, goes, rfl⟩
      · exact .inl others

theorem Goes.generator {next : Generator} (goes : Goes before act after)
    (found : after.tasks[id]? = some (.generator next)) :
    (act.task? ≠ some id ∧ before.tasks[id]? = some (.generator next)) ∨
    ∃ generator queue, act.task? = some id ∧
      before.tasks[id]? = some (.generator generator) ∧
      generator.Advances before.common.desk.queue next queue ∧
      after = before.put id
        ({ before.common with desk.queue := queue, generated := next.report? },
          .generator next) := by
  cases goes with
  | idles acts frames =>
      rw [frames.tasks] at found
      exact .inl ⟨by simp [acts], found⟩
  | conducts acts present | works acts present =>
      rcases found_of_put acts present found with ⟨_, same⟩ | others
      · contradiction
      · exact .inl others
  | generates acts present advances =>
      rcases found_of_put acts present found with ⟨rfl, same⟩ | others
      · cases same
        exact .inr ⟨_, _, acts, present, advances, rfl⟩
      · exact .inl others

theorem Goes.conductor {next : ConductorPhase} (goes : Goes before act after)
    (found : after.tasks[id]? = some (.conductor next)) :
    (act.task? ≠ some id ∧ before.tasks[id]? = some (.conductor next)) ∨
    ∃ phase later, act.task? = some id ∧ before.tasks[id]? = some (.conductor phase) ∧
      Conductor.Goes before.view id before.common phase act.answer? later next ∧
      after = before.put id (later, .conductor next) := by
  cases goes with
  | idles acts frames =>
      rw [frames.tasks] at found
      exact .inl ⟨by simp [acts], found⟩
  | generates acts present | works acts present =>
      rcases found_of_put acts present found with ⟨_, same⟩ | others
      · contradiction
      · exact .inl others
  | conducts acts present goes =>
      rcases found_of_put acts present found with ⟨rfl, same⟩ | others
      · cases same
        exact .inr ⟨_, _, acts, present, goes, rfl⟩
      · exact .inl others

/-- Nobody joins a main phase, and all that may happen to it from outside is that it is
asked to stop. -/
def rules (stoppable : Bool) : Rules RunState RunTask := fun _ transition =>
  match transition.act with
  | .outside =>
      stoppable = true ∧
        transition.after.common = { transition.before.common with desk.shutdown := true }
  | .begin _ => False
  | _ => True

theorem rules_of_isInner (stoppable : Bool) (trace : List (Transition RunState RunTask))
    (transition : Transition RunState RunTask) (inner : transition.act.isInner = true) :
    rules stoppable trace transition := by
  obtain ⟨notOutside, notBegin⟩ := Act.ne_of_isInner inner
  unfold rules
  split
  case h_1 outside => exact absurd outside notOutside
  case h_2 task begins => exact absurd begins (notBegin task)
  case h_3 => trivial

/-- What one step of a main phase comes to. -/
inductive Advances (stoppable : Bool) (before : Situation RunState RunTask) (act : Act RunTask) :
    Situation RunState RunTask → Prop where
  | conducts {id : TaskId} {phase next : ConductorPhase} {later : RunState} :
      act.task? = some id →
      before.tasks[id]? = some (.conductor phase) →
      Conductor.Advances before.view.now before.common phase later next →
      Advances stoppable before act (before.put id (later, .conductor next))
  | generates {id : TaskId} {generator next : Generator} {queue : UnitQueue} :
      act.task? = some id →
      before.tasks[id]? = some (.generator generator) →
      generator.Advances before.common.desk.queue next queue →
      Advances stoppable before act
        (before.put id
          ({ before.common with desk.queue := queue, generated := next.report? },
            .generator next))
  | works {id : TaskId} {worker next : Worker} {desk : Desk} :
      act.task? = some id →
      before.tasks[id]? = some (.worker worker) →
      worker.Advances before.view.now before.common.desk desk next →
      Advances stoppable before act
        (before.put id (RunTask.withWorker before.common desk next, .worker next))
  | hears {ledger : Ledger} :
      act.task? = none →
      before.common.desk.ledger.Hears ledger →
      Advances stoppable before act { before with common.desk.ledger := ledger }
  | stops :
      act.task? = none →
      stoppable = true →
      Advances stoppable before act { before with common.desk.shutdown := true }
  | shifts {view : View} :
      act.task? = none →
      Advances stoppable before act { before with view := view }

variable {stoppable : Bool} {trace : List (Transition RunState RunTask)}

theorem Goes.advances (goes : Goes before act after) (acts : act.task? = some id) :
    Advances stoppable before act after := by
  cases goes with
  | idles idle =>
      rw [idle] at acts
      contradiction
  | conducts acts found goes => exact .conducts acts found goes.advances
  | generates acts found advances => exact .generates acts found advances
  | works acts found goes => exact .works acts found goes.advances

theorem advances_of_step (step : mainPhase.Step before act after)
    (allowed : rules stoppable trace ⟨before, act, after⟩) :
    Advances stoppable before act after := by
  cases step with
  | move found member => exact (goes_of_mem_moves found member).advances rfl
  | answer found waits returns => exact (goes_of_resume found waits returns).advances rfl
  | frame text => exact .hears rfl (Ledger.hears_onAck _ _ _)
  | countReconnect => exact .hears rfl (.drops rfl rfl rfl rfl)
  | outside common =>
      obtain ⟨mayStop, asked⟩ := allowed
      dsimp only at asked
      rw [asked]
      exact .stops rfl mayStop
  | shift view => exact .shifts rfl
  | begin task => exact allowed.elim

theorem discreet_of_rules (allowed : rules stoppable trace ⟨before, act, after⟩)
    (step : mainPhase.Step before act after) : Discreet ⟨before, act, after⟩ := by
  cases step with
  | outside common =>
      obtain ⟨_, asked⟩ := allowed
      dsimp only at asked
      rw [asked]
      exact ⟨rfl, rfl, rfl, rfl, rfl, rfl, rfl, rfl, rfl⟩
  | begin task => exact allowed
  | _ => trivial

end MainPhase

end RoomLoad
