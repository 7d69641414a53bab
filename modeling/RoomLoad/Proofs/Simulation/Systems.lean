import RoomLoad.Channel.Direct
import RoomLoad.Program
import RoomLoad.Proofs.Config.Concurrency
import RoomLoad.Proofs.Delivery.Disposition
import RoomLoad.Proofs.Drain.Admission
import RoomLoad.Proofs.Pool.Flights
import RoomLoad.Proofs.Probe.Turns
import RoomLoad.Proofs.Simulation.Course
import RoomLoad.Proofs.Warmup.Tallies

/-!
# Simulated runs of every system

No task of any system goes on before its call returns, unless it sleeps or waits, so that
what is simulated of a system is one of its runs.  For a main phase, a warm-up and a probe
this is the run that the program makes and reports on.
-/

namespace RoomLoad

theorem Lookup.move?_eq_none {view : View} {id : TaskId} {room : RoomId} {pool : Pool}
    {lookup : Lookup} {call : Call} (waits : lookup.call? room = some call) :
    lookup.move? view id room pool = none := by
  cases lookup with
  | connecting | closing => rfl
  | _ => contradiction

theorem Reopening.move?_eq_none {view : View} {id : TaskId} {channel : ChannelId} {pool : Pool}
    {reopening : Reopening} {call : Call} (waits : reopening.call? channel = some call) :
    reopening.move? view id channel pool = none := by
  cases reopening with
  | reconnecting => rfl
  | _ => contradiction

theorem Worker.sleeps_of_moves {view : View} {id : TaskId} {desk : Desk} {worker : Worker}
    {call : Call} (waits : worker.call? = some call) (goesOn : worker.moves view id desk ≠ []) :
    ∃ duration, call = .sleep duration := by
  unfold call? at waits
  split at waits
  case h_1 unit lookup phase => simp [moves, phase, Lookup.move?_eq_none waits] at goesOn
  case h_2 unit channel reopening phase =>
    simp [moves, phase, Reopening.move?_eq_none waits] at goesOn
  case h_3 unit channel phase => simp [moves, phase] at goesOn
  case h_4 unit phase => exact ⟨_, (Option.some.inj waits).symm⟩
  case h_5 => contradiction

theorem Measurement.waits_of_moves {measurement : Measurement} {call : Call} {view : View}
    {session : ProbeSession} (waits : measurement.call? = some call)
    (goesOn : measurement.moves view session ≠ []) : ∃ deadline, call = .wait deadline := by
  unfold call? at waits
  split at waits
  case h_1 sent payload phase => simp [moves, phase] at goesOn
  case h_2 phase => exact ⟨_, (Option.some.inj waits).symm⟩
  case h_3 => contradiction

theorem Conductor.moves_eq_nil {view : View} {id : TaskId} {state : RunState}
    {phase : ConductorPhase} {call : Call} (waits : call? phase = some call) :
    moves view id state phase = [] := by
  unfold call? at waits
  split at waits
  case h_1 room lookup => simp [moves, Lookup.move?_eq_none waits]
  case h_2 | h_3 => rfl
  case h_4 => contradiction

theorem steadfast_crew : crew.Steadfast := by
  intro view id desk worker call waits goesOn
  exact .inl (Worker.sleeps_of_moves waits goesOn)

theorem steadfast_mainPhase : mainPhase.Steadfast := by
  intro view id state task call waits goesOn
  cases task with
  | conductor phase =>
      have rests : Conductor.moves view id state phase = [] := Conductor.moves_eq_nil waits
      simp [mainPhase, RunTask.moves, rests] at goesOn
  | generator => contradiction
  | worker worker =>
      have alsoGoesOn : worker.moves view id state.desk ≠ [] := by
        intro rests
        simp [mainPhase, RunTask.moves, rests] at goesOn
      exact .inl (Worker.sleeps_of_moves waits alsoGoesOn)

theorem steadfast_poolCalls : poolCalls.Steadfast := by
  intro view id desk task call waits goesOn
  cases task with
  | lookup room phase =>
      simp [poolCalls, PoolCall.moves, Lookup.move?_eq_none waits] at goesOn
  | reopening channel phase =>
      simp [poolCalls, PoolCall.moves, Reopening.move?_eq_none waits] at goesOn
  | direct => simp [poolCalls, PoolCall.moves] at goesOn
  | _ => contradiction

theorem steadfast_measurements : measurements.Steadfast := by
  intro view id session measurement call waits goesOn
  exact .inr (Measurement.waits_of_moves waits goesOn)

theorem steadfast_probing : probing.Steadfast := by
  intro view id session probe call waits goesOn
  simp only [probing, Probe.moves] at goesOn
  split at goesOn
  case h_1 measurement phase =>
    simp only [probing, Probe.call?, phase] at waits
    exact .inr (Measurement.waits_of_moves waits (by simpa using goesOn))
  case h_2 => contradiction

theorem steadfast_warmup : warmup.Steadfast := by
  intro view id state task call waits goesOn
  simp only [warmup, WarmupTask.moves] at goesOn
  split at goesOn
  case h_1 channel sent phase => simp [warmup, WarmupTask.call?, phase] at waits
  case h_2 => simp at goesOn

theorem steadfast_directCalls : directCalls.Steadfast :=
  fun _ _ _ _ _ _ goesOn => absurd rfl goesOn

namespace World

variable {σ τ : Type}

theorem task?_eq (world : World σ τ) (id : TaskId) :
    world.task? id = world.situation.tasks[id]? := by
  simp only [task?, situation, standings, List.map_map, List.getElem?_map, Array.getElem?_toList]
  rfl

end World

/-- At the beginning of time, before anything is connected. -/
def View.blank : View := ⟨0, fun _ => false⟩

theorem World.situation_start {σ τ : Type} (connector : ConnectorScript) (common : σ)
    (tasks : List τ) : (start connector common tasks).situation = ⟨common, tasks, .blank⟩ := by
  have unconnected : (start connector common tasks).view = View.blank := rfl
  rw [situation, unconnected]
  simp [standings, start, Slot.standing, Function.comp_def]

/-- A world in which nothing has happened is where a run begins, however long a sleep takes
at least. -/
theorem Reached.of_start {σ τ : Type} {system : System σ τ} {rules : Rules σ τ}
    {connector : ConnectorScript} {common : σ} {tasks : List τ}
    (spared : connector.SparesTasks) (leastSleep : Nat) :
    Reached system rules ⟨common, tasks, .blank⟩
      { World.start connector common tasks with leastSleep := leastSleep } := by
  let world := { World.start connector common tasks with leastSleep := leastSleep }
  have quiet : world.replies = [] := World.replies_eq_nil_of_start connector common tasks
  have begun : Reached system rules world.situation world := .of_replies_eq_nil spared quiet
  exact World.situation_start connector common tasks ▸ begun

/-- So is a single channel without tasks. -/
theorem Reached.of_around {σ τ : Type} {system : System σ τ} {rules : Rules σ τ} (peer : Peer)
    (common : σ) :
    Reached system rules (World.around peer common).situation (World.around peer common) :=
  .of_replies_eq_nil ⟨rfl, rfl, rfl⟩ (World.replies_eq_nil_of_start .plain common [])

namespace MainPhase

variable {beginning : Situation RunState RunTask} {world : World} {stoppable : Bool}
  {connector : ConnectorScript} {config : Config} {source : RandomSource} {shutdown : Bool}

theorem reached_run (reached : Reached mainPhase (rules stoppable) beginning world)
    (limit : Option Instant) : Reached mainPhase (rules stoppable) beginning (run limit world) :=
  reached.runWhile (rules_of_isInner stoppable) steadfast_mainPhase isRunning limit _

/-- The request to stop comes from outside, once. -/
theorem reached_runAskedToStop (reached : Reached mainPhase (rules true) beginning world)
    (moment : Instant) :
    Reached mainPhase (rules true) beginning (runAskedToStop moment world) := by
  have free := rules_of_isInner true
  have ran := reached_run reached (some moment)
  unfold runAskedToStop
  dsimp only
  split
  case isTrue =>
    have late := ran.of_resembles free (.notBefore moment _)
    exact reached_run (late.share (.outside _) fun _ => ⟨rfl, rfl⟩) none
  case isFalse => exact ran

theorem outcome?_situation (world : World) : outcome? world.situation = result? world := by
  unfold outcome?
  rw [← World.task?_eq]
  rfl

/-- A main phase is reached from its opening, whoever stops it and whenever. -/
theorem reached_start (spared : connector.SparesTasks) (leastSleep : Nat) :
    Reached mainPhase (rules stoppable) (opening config source .fresh shutdown .blank)
      { start connector config source shutdown with leastSleep := leastSleep } :=
  .of_start spared leastSleep

end MainPhase

namespace Crew

variable {beginning : Situation Desk Worker} {world : World}

/-- Whatever happens beside a crew is allowed, unless it is a unit that is put into the
queue, whose id might not be new. -/
theorem reached_change {event : Event} (noUnit : ∀ unit, event ≠ .push (.unit unit))
    (reached : Reached crew rules beginning world) :
    Reached crew rules beginning (change event world) := by
  cases event with
  | shutdown => exact reached.share (.outside _) fun _ => .shutdown
  | push envelope =>
      cases envelope with
      | unit unit => exact absurd rfl (noUnit unit)
      | stop =>
          simp only [change, push]
          split
          case h_1 queue accepted =>
            exact reached.share (.outside _) fun _ => .push accepted nofun
          case h_2 => exact reached
  | loss channel => exact reached.of_resembles rules_of_isInner (.changePeer world channel _)
  | frame text => exact reached.receive rules_of_isInner text

theorem reached_happen {event : Event} (noUnit : ∀ unit, event ≠ .push (.unit unit))
    (reached : Reached crew rules beginning world) (moment : Instant) :
    Reached crew rules beginning (happen world moment event) := by
  have late := reached.of_resembles rules_of_isInner (.trans (.fire _) (.notBefore moment world))
  exact (reached_change noUnit late).catchUp rules_of_isInner steadfast_crew

theorem reached_workOn {events : List (Instant × Event)}
    (noUnits : ∀ entry ∈ events, ∀ unit, entry.2 ≠ .push (.unit unit))
    (reached : Reached crew rules beginning world) :
    Reached crew rules beginning (workOn world events).1 := by
  have works {world : World} (reached : Reached crew rules beginning world)
      (limit : Option Instant) :=
    reached.runWhile rules_of_isInner steadfast_crew isWorking limit World.patience
  induction events generalizing world with
  | nil =>
      have hungUp : Reached crew rules beginning (hangUp world) :=
        reached.share (.outside _) fun _ => .hangUp
      exact works hungUp none
  | cons first later induction =>
      rw [workOn]
      split
      case isTrue =>
        refine induction (fun entry member => noUnits entry (by simp [member])) ?_
        exact reached_happen (noUnits first (by simp)) (works reached _) _
      case isFalse => exact works reached _

theorem reached_work {events : List (Instant × Event)}
    (noUnits : ∀ entry ∈ events, ∀ unit, entry.2 ≠ .push (.unit unit))
    (reached : Reached crew rules beginning world) :
    Reached crew rules beginning (work world events).1 :=
  reached_workOn noUnits (reached.catchUp rules_of_isInner steadfast_crew)

theorem reached_idle {events : List (Instant × Event)}
    (noUnits : ∀ entry ∈ events, ∀ unit, entry.2 ≠ .push (.unit unit))
    (reached : Reached crew rules beginning world) (moment : Instant) :
    Reached crew rules beginning (idle moment world events) := by
  refine Reached.runUntil rules_of_isInner steadfast_crew ?_ moment
  have noDueUnits : ∀ entry ∈ events.filter (fun event => event.1 ≤ moment),
      ∀ unit, entry.2 ≠ .push (.unit unit) :=
    fun entry member => noUnits entry (List.mem_filter.mp member).1
  generalize events.filter (fun event => event.1 ≤ moment) = due at noDueUnits
  induction due generalizing world with
  | nil => exact reached
  | cons first later induction =>
      have ran := reached.runWhile rules_of_isInner steadfast_crew (fun _ => true) (some first.1)
        World.patience
      exact induction (reached_happen (noDueUnits first (by simp)) ran first.1)
        fun entry member => noDueUnits entry (by simp [member])

end Crew

theorem DirectCall.reached_perform {beginning : Situation Heard DirectCall} {world : World}
    (calls : List DirectCall) (reached : Reached directCalls (fun _ _ => True) beginning world) :
    Reached directCalls (fun _ _ => True) beginning
      (world.perform directCalls hasEnded calls).1 := by
  obtain ⟨trace, run⟩ := reached.run
  have joined := reached.addTasks (run.join fun call (_ : call ∈ calls) _ _ => trivial)
  exact joined.perform (fun _ _ _ => trivial) steadfast_directCalls hasEnded

theorem PoolCall.reached_perform {beginning : Situation Desk PoolCall} {world : World}
    {calls : List PoolCall} (fresh : ∀ call ∈ calls, call.isFresh = true)
    (reached : Reached poolCalls anyCalls beginning world) :
    Reached poolCalls anyCalls beginning (world.perform poolCalls hasEnded calls).1 := by
  obtain ⟨trace, run⟩ := reached.run
  have joined := reached.addTasks (run.join fun call member _ _ => fresh call member)
  exact joined.perform anyCalls_of_isInner steadfast_poolCalls hasEnded

theorem Measurement.inTurn_of_isInner (trace : List ProbeStep) (transition : ProbeStep)
    (inner : transition.act.isInner = true) : inTurn trace transition := by
  obtain ⟨notOutside, notBegin⟩ := Act.ne_of_isInner inner
  unfold inTurn isInTurn
  split
  case h_1 outside => exact absurd outside notOutside
  case h_2 task begins => exact absurd begins (notBegin task)
  case h_3 => rfl

theorem Measurement.reached_perform {beginning : Situation ProbeSession Measurement}
    {world : World} {channel : ChannelId} {samples : Nat} {timeout : Duration}
    (ended : ∀ task ∈ world.situation.tasks, task.hasEnded = true)
    (few : samples < Text.word64)
    (reached : Reached measurements inTurn beginning world) :
    Reached measurements inTurn beginning
      (world.perform measurements hasEnded [.start channel samples timeout]).1 := by
  obtain ⟨trace, run⟩ := reached.run
  have allowed : inTurn trace ⟨world.situation, .begin (.start channel samples timeout),
      { world.situation with
        tasks := world.situation.tasks ++ [.start channel samples timeout] }⟩ := by
    simp only [inTurn, isInTurn, isNew, start, Bool.and_eq_true, List.all_eq_true]
    exact ⟨ended, decide_eq_true few⟩
  have joined := reached.addTasks ⟨_, run.step (.begin _) allowed⟩
  exact joined.perform inTurn_of_isInner steadfast_measurements hasEnded

namespace Warmup

theorem reached_run {connector : ConnectorScript} (spared : connector.SparesTasks)
    (tasks messages : Nat) (rooms : IdRange) :
    Reached warmup undisturbed (launched tasks messages rooms .fresh .blank)
      (run connector tasks messages rooms) :=
  (Reached.of_start spared 0).runWhile undisturbed_of_isInner steadfast_warmup _ _ _

end Warmup

/-- What a probe of a service ends with is what a run of the probe ends with. -/
theorem exists_run_of_probeService {connector : ConnectorScript} {samples : Nat}
    {timeout : Duration} {room : RoomId} {result : Except Fault ProbeReport}
    (spared : connector.SparesTasks)
    (ends : probeService connector samples timeout room = some result) :
    ∃ trace last probe,
      probing.Run (fun _ transition => transition.act.isInner = true)
        ⟨.fresh, [.start samples timeout room], .blank⟩ trace last ∧
      last.tasks[(0 : Nat)]? = some probe ∧ probe.result? = some result := by
  obtain ⟨probe, found, finished⟩ := Option.bind_eq_some_iff.mp ends
  rw [World.task?_eq] at found
  have begun : Reached probing (fun _ transition => transition.act.isInner = true)
      ⟨.fresh, [.start samples timeout room], .blank⟩
      (.start connector .fresh [.start samples timeout room]) := .of_start spared 0
  have reached := begun.runWhile (fun _ _ inner => inner) steadfast_probing
    (fun world => world.slots.any fun slot => slot.task.isRunning) none World.patience
  obtain ⟨trace, run⟩ := reached.run
  exact ⟨trace, _, probe, run, found, finished⟩

namespace Program

variable {config : Config} {service : ConnectorScript} {source : RandomSource}
  {report : RunReport}

/-- What the program reports is what a run of the main phase comes to that nobody asks to
stop, beside what a run of the warm-up has counted. -/
theorem exists_run_of_report (spared : service.SparesTasks)
    (reports : Program.report config service source = .ok report) :
    (∃ trace last summary probed concurrency,
      mainPhase.Run (MainPhase.rules false)
        (MainPhase.opening config source .fresh false .blank) trace last ∧
      MainPhase.outcome? last = some (.ok summary) ∧
      report = .build summary last.common.desk.ledger.correlator.records report.warmup probed
        concurrency) ∧
    ∀ warmed, report.warmup = some warmed →
      ∃ trace last,
        warmup.Run Warmup.undisturbed
          (Warmup.launched config.warmupTasks config.warmupMessagesPerTask config.rooms .fresh
            .blank) trace last ∧
        warmed = last.common.tally.report warmed.duration := by
  unfold Program.report at reports
  split at reports
  case h_1 => contradiction
  case h_2 probed isProbed =>
    obtain ⟨summary, concurrency, ends, _, rfl⟩ := Config.reportOn_eq_ok_iff.mp reports
    constructor
    · have begun : Reached mainPhase (MainPhase.rules false)
          (MainPhase.opening config source .fresh false .blank)
          (MainPhase.start service config source false) := MainPhase.reached_start spared 0
      have reached := MainPhase.reached_run begun none
      obtain ⟨trace, run⟩ := reached.run
      have comes := (MainPhase.outcome?_situation _).trans ends
      exact ⟨trace, _, summary, probed, concurrency, run, comes, rfl⟩
    · intro warmed warms
      obtain ⟨trace, run⟩ := (Warmup.reached_run spared config.warmupTasks
        config.warmupMessagesPerTask config.rooms).run
      refine ⟨trace, _, run, ?_⟩
      change warmUp config service = some warmed at warms
      unfold warmUp at warms
      split at warms
      case isTrue => contradiction
      case isFalse => exact Option.some.inj warms ▸ rfl

end Program

end RoomLoad
