import RoomLoad.Proofs.Drain.Looks
import RoomLoad.Proofs.Handoff.Liveliness
import RoomLoad.Proofs.Shutdown.Stopping

/-!
# Settings that are refused, and settings that are not

A run whose settings are refused ends in its first step and leaves everything as it found
it.  A run whose settings are accepted never ends with a fault, whatever becomes of its
connections: its generator has something to choose from, and whatever fails counts against
single units only.
-/

namespace RoomLoad

theorem Config.of_validate_error {config : Config} {fault : Fault}
    (refused : config.validate = .error fault) :
    config.defect?.isSome = true ∧ ∃ detail, fault = .config detail := by
  unfold validate at refused
  split at refused
  case h_1 defect found =>
    cases refused
    exact ⟨by rw [found]; rfl, defect.message, rfl⟩
  case h_2 => contradiction

/-- There is a plan for all settings that are accepted, for as many units and workers as they
say. -/
theorem Config.make_of_validate {config : Config} (valid : config.validate = .ok ()) :
    GeneratorPlan.make config.totalMessages config.senderWorkers
        (standardTemplates config.messagePoolSize) config.users config.rooms =
      .ok ⟨config.totalMessages, config.senderWorkers,
        (standardTemplates config.messagePoolSize).toArray, config.users, config.rooms⟩ := by
  obtain ⟨_, _, _, plan, planned, _⟩ := of_validate valid
  unfold generatorPlan at planned
  unfold GeneratorPlan.make at planned ⊢
  split at planned
  case isTrue => contradiction
  case isFalse someText =>
    split at planned
    case isTrue => contradiction
    case isFalse someUser =>
      split at planned
      case isTrue => contradiction
      case isFalse someRoom => rw [if_neg someText, if_neg someUser, if_neg someRoom]

theorem Conductor.Goes.ne_error {view : View} {task : TaskId} {state later : RunState}
    {phase next : ConductorPhase} {answer : Option Answer}
    (goes : Goes view task state phase answer later next)
    (valid : state.config.validate = .ok ()) (fault : Fault) : next ≠ .finished (.error fault) := by
  cases goes with
  | refuses starting invalid =>
      rw [valid] at invalid
      contradiction
  | hasNoPlan launching unplanned => exact absurd unplanned (Config.generatorPlan_ne_error valid)
  | looks | looksOn =>
      intro same
      have early := congrArg hasCollected same
      rw [hasCollected_afterLookup] at early
      contradiction
  | _ => exact nofun

namespace MainPhase

/-- A main phase that has not started, beside whatever its ledger holds already. -/
def opening (config : Config) (source : RandomSource) (ledger : Ledger) (shutdown : Bool)
    (view : View) : Situation RunState RunTask where
  common := { RunState.start config shutdown with desk.ledger := ledger }
  tasks := tasks config source
  view := view

def outcome? (situation : Situation RunState RunTask) : Option (Except Fault RunSummary) :=
  match situation.tasks[(0 : Nat)]? with
  | some (.conductor (.finished result)) => some result
  | _ => none

theorem outcome?_eq_some {situation : Situation RunState RunTask} {phase : ConductorPhase}
    (found : situation.tasks[(0 : Nat)]? = some (.conductor phase))
    (result : Except Fault RunSummary) :
    outcome? situation = some result ↔ phase = .finished result := by
  rw [outcome?, found]
  cases phase with
  | finished ended => simp
  | _ => exact ⟨nofun, nofun⟩

variable {config : Config} {source : RandomSource} {ledger : Ledger} {shutdown : Bool}
  {view : View} {fault : Fault} {trace : List (Transition RunState RunTask)}
  {before after situation last : Situation RunState RunTask} {act : Act RunTask}

/-- Nothing but the request to stop and the ledger can have changed since the opening. -/
def Pristine (config : Config) (state : RunState) : Prop :=
  ∃ shutdown ledger, state = { RunState.start config shutdown with desk.ledger := ledger }

theorem Pristine.hears {state : RunState} (pristine : Pristine config state) (ledger : Ledger) :
    Pristine config { state with desk.ledger := ledger } := by
  obtain ⟨shutdown, _, rfl⟩ := pristine
  exact ⟨shutdown, ledger, rfl⟩

theorem Pristine.stops {state : RunState} (pristine : Pristine config state) :
    Pristine config { state with desk.shutdown := true } := by
  obtain ⟨_, ledger, rfl⟩ := pristine
  exact ⟨true, ledger, rfl⟩

theorem Pristine.config_eq {state : RunState} (pristine : Pristine config state) :
    state.config = config := by
  obtain ⟨_, _, rfl⟩ := pristine
  rfl

/-- A run with settings that are refused: its conductor has not started, or has refused
them. -/
structure Refused (config : Config) (fault : Fault) (trace : List (Transition RunState RunTask))
    (situation : Situation RunState RunTask) : Prop where
  pristine : Pristine config situation.common
  stands : (situation.tasks = [.conductor .starting] ∧ stepsOf 0 trace = 0) ∨
    (situation.tasks = [.conductor (.finished (.error fault))] ∧ stepsOf 0 trace ≠ 0)
  quiet : ∀ moment ∈ trace, ∀ id, moment.act.task? = some id →
    moment.act = .move id ∧ moment.after.common = moment.before.common

theorem refused_opening (refused : config.validate = .error fault) :
    Refused config fault [] (opening config source ledger shutdown view) := by
  obtain ⟨defect, found⟩ := Option.isSome_iff_exists.mp (Config.of_validate_error refused).1
  refine ⟨⟨shutdown, ledger, rfl⟩, .inl ⟨?_, rfl⟩, fun moment member => nomatch member⟩
  rw [opening, tasks, found]

namespace Refused

/-- Somebody else's step leaves the tasks alone, and changes the ledger or the request to stop
if it changes anything. -/
theorem idle (refused : Refused config fault trace before)
    (step : mainPhase.Step before act after) (allowed : rules true trace ⟨before, act, after⟩)
    (silent : act.task? = none) : Refused config fault (trace ++ [⟨before, act, after⟩]) after := by
  have others : ∀ id, act.task? ≠ some id := by
    intro id
    rw [silent]
    exact nofun
  have same : after.tasks = before.tasks ∧ Pristine config after.common := by
    cases step with
    | frame text =>
        exact ⟨rfl, refused.pristine.hears (before.common.desk.ledger.onAck before.view.now text).2⟩
    | countReconnect =>
        exact ⟨rfl, refused.pristine.hears before.common.desk.ledger.countReconnection⟩
    | outside common =>
        obtain ⟨_, asked⟩ := allowed
        dsimp only at asked
        rw [asked]
        exact ⟨rfl, refused.pristine.stops⟩
    | shift view => exact ⟨rfl, refused.pristine⟩
    | begin task => exact allowed.elim
    | _ => contradiction
  constructor
  case pristine => exact same.2
  case stands =>
    rw [same.1, stepsOf_append_of_ne (others 0)]
    exact refused.stands
  case quiet =>
    intro moment member id acts
    rcases List.mem_append.mp member with earlier | here
    · exact refused.quiet moment earlier id acts
    · rw [List.mem_singleton.mp here] at acts
      exact absurd acts (others id)

theorem acts (refused : Refused config fault trace before)
    (invalid : config.validate = .error fault) (step : mainPhase.Step before act after)
    {id : TaskId} (isOwn : act.task? = some id) :
    act = .move 0 ∧ after = before.put 0 (before.common, .conductor (.finished (.error fault))) ∧
      before.tasks = [.conductor .starting] := by
  have refuses : ∀ {state later : RunState} {next : ConductorPhase}, state.config = config →
      (later, next) ∈ Conductor.moves before.view 0 state .starting →
      later = state ∧ next = .finished (.error fault) := by
    intro state later next same member
    rw [Conductor.moves, same, invalid] at member
    cases List.mem_singleton.mp member
    exact ⟨rfl, rfl⟩
  cases step with
  | @move other task next found member =>
      rcases refused.stands with ⟨starting, _⟩ | ⟨finished, _⟩
      · rw [starting, List.getElem?_singleton] at found
        split at found
        case isTrue isFirst =>
          subst isFirst
          cases found
          obtain ⟨⟨state, phase⟩, moves, rfl⟩ := List.mem_map.mp member
          obtain ⟨rfl, rfl⟩ := refuses refused.pristine.config_eq moves
          exact ⟨rfl, rfl, starting⟩
        case isFalse => contradiction
      · rw [finished, List.getElem?_singleton] at found
        split at found
        case isTrue =>
          cases found
          contradiction
        case isFalse => contradiction
  | answer found waits returns =>
      have member := List.mem_of_getElem? found
      rcases refused.stands with ⟨starting, _⟩ | ⟨finished, _⟩
      · rw [starting, List.mem_singleton] at member
        subst member
        contradiction
      · rw [finished, List.mem_singleton] at member
        subst member
        contradiction
  | _ => contradiction

theorem step (refused : Refused config fault trace before)
    (invalid : config.validate = .error fault) (step : mainPhase.Step before act after)
    (allowed : rules true trace ⟨before, act, after⟩) :
    Refused config fault (trace ++ [⟨before, act, after⟩]) after := by
  cases isOwn : act.task? with
  | none => exact refused.idle step allowed isOwn
  | some id =>
      obtain ⟨rfl, rfl, starting⟩ := refused.acts invalid step isOwn
      constructor
      case pristine => exact refused.pristine
      case stands =>
        right
        rw [Situation.put, starting, stepsOf_append_of_acts rfl]
        exact ⟨rfl, Nat.succ_ne_zero _⟩
      case quiet =>
        intro moment member other acts
        rcases List.mem_append.mp member with earlier | here
        · exact refused.quiet moment earlier other acts
        · rw [List.mem_singleton.mp here] at acts ⊢
          cases acts
          exact ⟨rfl, rfl⟩

/-- The conductor has ended with the refusal as soon as it has taken a step. -/
theorem outcome (refused : Refused config fault trace situation)
    (result : Except Fault RunSummary) :
    outcome? situation = some result ↔ .error fault = result ∧ stepsOf 0 trace ≠ 0 := by
  rcases refused.stands with ⟨starting, unmoved⟩ | ⟨finished, moved⟩
  · have found : situation.tasks[(0 : Nat)]? = some (.conductor .starting) := by
      rw [starting]
      rfl
    rw [outcome?_eq_some found]
    exact ⟨nofun, fun ended => absurd unmoved ended.2⟩
  · have found : situation.tasks[(0 : Nat)]? = some (.conductor (.finished (.error fault))) := by
      rw [finished]
      rfl
    rw [outcome?_eq_some found, ConductorPhase.finished.injEq]
    exact ⟨fun ended => ⟨ended, moved⟩, And.left⟩

/-- Nobody waits for a connection or for anything else. -/
theorem call?_eq_none (refused : Refused config fault trace situation) :
    ∀ task ∈ situation.tasks, task.call? = none := by
  intro task member
  rcases refused.stands with ⟨starting, _⟩ | ⟨finished, _⟩
  · rw [starting, List.mem_singleton] at member
    rw [member]
    rfl
  · rw [finished, List.mem_singleton] at member
    rw [member]
    rfl

end Refused

theorem refused_of_run (invalid : config.validate = .error fault)
    (run : mainPhase.Run (rules true) (opening config source ledger shutdown view) trace last) :
    Refused config fault trace last := by
  induction run with
  | rest => exact refused_opening invalid
  | step run step allowed induction => exact induction.step invalid step allowed

theorem ledger_of_run (invalid : config.validate = .error fault)
    (run : mainPhase.Run (rules true) (opening config source ledger shutdown view) trace last)
    (silent : ∀ moment ∈ trace, (∀ text, moment.act ≠ .frame text) ∧
      moment.act ≠ .countReconnect) : last.common.desk.ledger = ledger := by
  induction run with
  | rest => rfl
  | @step trace before after act run step allowed induction =>
      have same := induction fun moment member => silent moment (List.mem_append_left _ member)
      have quiet := silent ⟨before, act, after⟩ (by simp)
      rw [← same]
      cases isOwn : act.task? with
      | some id =>
          obtain ⟨_, rfl, _⟩ := (refused_of_run invalid run).acts invalid step isOwn
          rfl
      | none =>
          cases step with
          | frame text => exact absurd rfl (quiet.1 text)
          | countReconnect => exact absurd rfl quiet.2
          | outside common =>
              obtain ⟨_, asked⟩ := allowed
              dsimp only at asked
              rw [asked]
          | shift => rfl
          | begin => rfl
          | _ => contradiction

theorem canGoOn_of_starting (starting : situation.tasks = [.conductor .starting]) :
    mainPhase.CanGoOn situation 0 := by
  have found : situation.tasks[(0 : Nat)]? = some (.conductor .starting) := by
    rw [starting]
    rfl
  refine canGoOn_of_conductor found (.inl ?_)
  rw [Conductor.moves]
  split <;> exact List.cons_ne_nil _ _

variable {plan : GeneratorPlan}

/-- What keeps a run going whose settings are accepted: everybody is there, the lock and the
books are right, and whoever waits for an item will get one. -/
structure Attended (config : Config) (plan : GeneratorPlan)
    (trace : List (Transition RunState RunTask)) (situation : Situation RunState RunTask) :
    Prop where
  staffed : Staffed config 1 situation
  locked : Locked situation
  books : Books situation
  stream : ∃ generator, Stream plan 1 trace situation generator
  capacity : situation.common.desk.queue.capacity = config.queueCapacity

namespace Attended

theorem hears (attended : Attended config plan trace situation) (ledger : Ledger) :
    Attended config plan trace { situation with common.desk.ledger := ledger } := by
  obtain ⟨staffed, locked, books, ⟨generator, stream⟩, capacity⟩ := attended
  constructor
  case staffed =>
    exact ⟨staffed.config_eq, staffed.generator, staffed.only, staffed.first, staffed.standing,
      staffed.conducted, staffed.idle, staffed.enough⟩
  case locked => exact locked
  case books => exact ⟨books.receivers, books.ended, books.sent, books.abandoned, books.interrupted⟩
  case stream =>
    exact ⟨generator, stream.found, stream.only, stream.plan_eq, stream.fed, stream.reported,
      stream.senders⟩
  case capacity => exact capacity

theorem of_start (valid : config.validate = .ok ()) (planned : config.generatorPlan = .ok plan) :
    Attended config plan [] ⟨.start config shutdown, tasks config source, view⟩ := by
  obtain ⟨sound, _⟩ := Config.of_validate valid
  have kept : Kept config plan [RunTask.conductor .starting].length []
      (beginning config plan source [.conductor .starting] shutdown false view) :=
    kept_beginning (by simp [RunTask.worker?]) (by simp [RunTask.generator?])
  have gathered : (⟨.start config shutdown, tasks config source, view⟩ :
      Situation RunState RunTask) =
        gathering config true plan source (List.replicate config.senderWorkers config.retry)
          ⟨config.queueCapacity, .empty, 1, config.senderWorkers⟩ shutdown view := by
    rw [tasks, sound, planned, gathering, List.map_replicate]
    rfl
  have manned : Staffed config (place true) (gathering config true plan source
      (List.replicate config.senderWorkers config.retry)
      ⟨config.queueCapacity, .empty, 1, config.senderWorkers⟩ shutdown view) := by
    apply staffed_gathering
    intro _
    rw [List.length_replicate]
    exact ⟨valid, Nat.le_refl _⟩
  rw [← start_eq_beginning sound planned] at kept
  rw [← gathered] at manned
  refine ⟨manned, ?_, kept.books, kept.stream, rfl⟩
  rw [gathered]
  exact locked_gathering

theorem step (attended : Attended config plan trace before)
    (step : mainPhase.Step before act after) (allowed : rules true trace ⟨before, act, after⟩) :
    Attended config plan (trace ++ [⟨before, act, after⟩]) after := by
  obtain ⟨staffed, locked, books, ⟨generator, stream⟩, capacity⟩ := attended
  have goes := goes_of_step step (discreet_of_rules allowed step)
  have advances := advances_of_step step allowed
  refine ⟨staffed.goes goes, locked.goes goes, books.step advances, stream.step advances, ?_⟩
  rw [← capacity]
  cases advances with
  | conducts acts found conducts => exact congrArg UnitQueue.capacity conducts.desk_eq.1
  | generates acts found advances => exact advances.capacity_eq
  | works acts found advances => exact advances.capacity_eq
  | _ => rfl

/-- As long as a task has not come to its end, some task can go on. -/
theorem exists_canGoOn (attended : Attended config plan trace situation)
    (valid : config.validate = .ok ()) {task : RunTask} (member : task ∈ situation.tasks)
    (atWork : task.isOver = false) : ∃ id, mainPhase.CanGoOn situation id := by
  obtain ⟨staffed, locked, books, ⟨generator, stream⟩, capacity⟩ := attended
  have roomy : 1 ≤ situation.common.desk.queue.capacity := by
    rw [capacity]
    exact (Config.of_validate valid).2.2.1
  refine exists_canGoOn_of_supply locked staffed books ?_ member atWork
  intro id worker launched found receiving
  by_cases empty : situation.common.desk.queue.take = .empty
  · exact .inr ⟨1, canGoOn_of_empty stream launched roomy empty⟩
  · exact .inl (Worker.receive_ne_nil empty)

end Attended

theorem attended_of_run (valid : config.validate = .ok ())
    (planned : config.generatorPlan = .ok plan)
    (run : mainPhase.Run (rules true) (opening config source ledger shutdown view) trace last) :
    Attended config plan trace last := by
  induction run with
  | rest => exact (Attended.of_start valid planned).hears ledger
  | step run step allowed induction => exact induction.step step allowed

theorem found_opening (valid : config.validate = .ok ()) :
    (opening config source ledger shutdown view).tasks[(0 : Nat)]? =
      some (.conductor .starting) := by
  obtain ⟨sound, _, _, plan, planned, _⟩ := Config.of_validate valid
  rw [opening, tasks, sound, planned]
  rfl

theorem config_of_run (valid : config.validate = .ok ())
    (run : mainPhase.Run (rules true) (opening config source ledger shutdown view) trace last) :
    last.common.config = config := by
  obtain ⟨_, drains⟩ := drains_of_run (found_opening valid) rfl run
  exact drains.config_eq

/-- The conductor of a run whose settings are accepted never ends with a fault. -/
theorem faultless_of_run (valid : config.validate = .ok ())
    (run : mainPhase.Run (rules true) (opening config source ledger shutdown view) trace last)
    {phase : ConductorPhase} (found : last.tasks[(0 : Nat)]? = some (.conductor phase))
    (fault : Fault) : phase ≠ .finished (.error fault) := by
  induction run generalizing phase with
  | rest =>
      rw [found_opening valid] at found
      cases found
      exact ConductorPhase.noConfusion
  | @step trace before after act run step allowed induction =>
      have goes := goes_of_step step (discreet_of_rules allowed step)
      rcases goes.conductor found with ⟨_, same⟩ | ⟨own, later, acts, present, conducts, _⟩
      · exact induction same
      · have same := config_of_run valid run
        exact conducts.ne_error (same ▸ valid) fault

/-- The conductor goes down only at a deadline that the clock cannot show. -/
theorem conductor_of_run (valid : config.validate = .ok ())
    (run : mainPhase.Run (rules true) (opening config source ledger shutdown view) trace last) :
    ∃ phase, last.tasks[(0 : Nat)]? = some (.conductor phase) ∧
      (phase = .crashed → deadline? (lastStep 0 trace) config.drainTimeout = none) := by
  obtain ⟨phase, drains⟩ := drains_of_run (found_opening valid) rfl run
  exact ⟨phase, drains.found, drains.falls⟩

/-- A run fails with exactly the fault for which its settings are refused, and then it has
connected to nothing, generated nothing and measured nothing.  Settings that are accepted
give a plan, and the run then ends only with a summary or at a deadline that the clock cannot
show. -/
theorem admission_of_run
    (run : mainPhase.Run (rules true) (opening config source ledger shutdown view) trace last) :
    (∀ fault, outcome? last = some (.error fault) ↔
      config.validate = .error fault ∧ stepsOf 0 trace ≠ 0) ∧
    (∀ fault, config.validate = .error fault →
      (∃ detail, fault = .config detail) ∧
      (stepsOf 0 trace = 0 → mainPhase.CanGoOn last 0) ∧
      (∀ task ∈ last.tasks, task.call? = none) ∧
      (∀ moment ∈ trace, ∀ id, moment.act.task? = some id →
        moment.act = .move id ∧ moment.after.common = moment.before.common) ∧
      last.common.desk.pool = .empty ∧
      last.common.desk.queue.items = [] ∧
      last.common.launched = false ∧ last.common.generated = none ∧
      ((∀ moment ∈ trace, (∀ text, moment.act ≠ .frame text) ∧
        moment.act ≠ .countReconnect) → last.common.desk.ledger = ledger)) ∧
    (config.validate = .ok () →
      (∃ plan, GeneratorPlan.make config.totalMessages config.senderWorkers
        (standardTemplates config.messagePoolSize) config.users config.rooms = .ok plan) ∧
      ∃ phase, last.tasks[(0 : Nat)]? = some (.conductor phase) ∧
        (∀ fault, phase ≠ .finished (.error fault)) ∧
        (phase = .crashed → deadline? (lastStep 0 trace) config.drainTimeout = none) ∧
        ((RunTask.conductor phase).isOver = false → ∃ id, mainPhase.CanGoOn last id)) := by
  refine ⟨?_, ?_, ?_⟩
  · intro fault
    cases settings : config.validate with
    | error refusal =>
        rw [(refused_of_run settings run).outcome, Except.error.injEq, Except.error.injEq]
    | ok _ =>
        obtain ⟨phase, found, _⟩ := conductor_of_run settings run
        have faultless := faultless_of_run settings run found fault
        rw [outcome?_eq_some found]
        exact ⟨fun ended => absurd ended faultless, fun refused => nomatch refused.1⟩
  · intro fault invalid
    have refused := refused_of_run invalid run
    refine ⟨(Config.of_validate_error invalid).2, ?_, refused.call?_eq_none, refused.quiet, ?_⟩
    · intro unmoved
      rcases refused.stands with ⟨starting, _⟩ | ⟨_, moved⟩
      · exact canGoOn_of_starting starting
      · exact absurd unmoved moved
    · obtain ⟨_, _, same⟩ := refused.pristine
      have silently := ledger_of_run invalid run
      rw [same] at silently ⊢
      exact ⟨rfl, rfl, rfl, rfl, silently⟩
  · intro valid
    obtain ⟨_, _, _, plan, planned, _⟩ := Config.of_validate valid
    obtain ⟨phase, found, falls⟩ := conductor_of_run valid run
    refine ⟨⟨_, Config.make_of_validate valid⟩, phase, found, faultless_of_run valid run found,
      falls, ?_⟩
    exact (attended_of_run valid planned run).exists_canGoOn valid (List.mem_of_getElem? found)

/-- Settings that ask for no worker. -/
def unstaffed : Config := { brief with senderWorkers := 0 }

/-- The connection to the room fails at the start and again for each of the three units. -/
def hopelessCourse : List (Cue RunState RunTask) :=
  List.replicate 5 (Cue.move 0 0) ++ [Cue.answer 0 (.failed .notOpen), Cue.move 0 0] ++
    List.replicate 9 (Cue.move 1 0) ++
    List.replicate 7 (Cue.move 2 0) ++ [Cue.answer 2 (.failed .notOpen)] ++
    List.replicate 8 (Cue.move 2 0) ++ [Cue.answer 2 (.failed .notOpen)] ++
    List.replicate 8 (Cue.move 2 0) ++ [Cue.answer 2 (.failed .notOpen)] ++
    List.replicate 3 (Cue.move 2 0) ++
    List.replicate 3 (Cue.move 0 0) ++ [Cue.answer 0 .done]

/-- Whether a run has ended with a summary in which every unit is given up. -/
def endsHopelessly (last : Situation RunState RunTask) : Bool :=
  match outcome? last with
  | some (.ok summary) => summary.sent == 0 && summary.abandoned == 3
  | _ => false

def isOneMove : List (Transition RunState RunTask) → Bool
  | [⟨_, .move id, _⟩] => id == 0
  | _ => false

theorem eq_of_isOneMove (isOne : isOneMove trace = true) :
    ∃ before after, trace = [⟨before, .move 0, after⟩] := by
  unfold isOneMove at isOne
  split at isOne
  case h_1 before id after =>
    rw [beq_iff_eq] at isOne
    exact ⟨before, after, by rw [isOne]⟩
  case h_2 => contradiction

theorem admission_of_run_of_hopeless :
    ∃ source ledger view,
      (∃ trace last,
        mainPhase.Run (rules true) (opening unstaffed source ledger false view) trace last ∧
        outcome? last = some (.error (.config "at least one sender worker is required")) ∧
        last.common.desk.ledger = ledger) ∧
      ∃ trace last summary,
        mainPhase.Run (rules true) (opening brief source ledger false view) trace last ∧
        outcome? last = some (.ok summary) ∧ summary.sent = 0 ∧ summary.abandoned = 3 ∧
        ∃ plan, GeneratorPlan.make 3 1 (standardTemplates 1) ⟨1, 1⟩ ⟨1, 1⟩ = .ok plan := by
  let source : RandomSource := .scripted [] 0
  let view : View := ⟨0, fun _ => true⟩
  refine ⟨source, .fresh, view, ?_, ?_⟩
  · have invalid : unstaffed.validate =
        .error (.config "at least one sender worker is required") := by
      have found : unstaffed.defect? = some .noWorkers := by decide +kernel
      rw [Config.validate, found]
      rfl
    have replayed : (mainPhase.replay (fun _ transition => transition.act.isInner) []
        (opening unstaffed source .fresh false view) [Cue.move 0 0]).any
        (fun ending => isOneMove ending.1) = true := by
      decide +kernel
    obtain ⟨trace, last, run, shown⟩ :=
      System.exists_run_of_replay (rules_of_isInner true) replayed
    obtain ⟨outcomes, refusals, _⟩ := admission_of_run run
    obtain ⟨_, _, _, _, _, _, _, _, silently⟩ := refusals _ invalid
    obtain ⟨before, after, rfl⟩ := eq_of_isOneMove shown
    refine ⟨_, last, run, (outcomes _).mpr ⟨invalid, Nat.one_ne_zero⟩, silently ?_⟩
    intro moment member
    rw [List.mem_singleton.mp member]
    exact ⟨fun _ => nofun, nofun⟩
  · have valid : brief.validate = .ok () := by
      have sound : brief.defect? = none := by decide +kernel
      rw [Config.validate, sound]
    have replayed : (mainPhase.replay (fun _ transition => transition.act.isInner) []
        (opening brief source .fresh false view) hopelessCourse).any
        (fun ending => endsHopelessly ending.2) = true := by
      decide +kernel
    obtain ⟨trace, last, run, shown⟩ :=
      System.exists_run_of_replay (rules_of_isInner true) replayed
    obtain ⟨_, _, accepts⟩ := admission_of_run run
    obtain ⟨planned, _⟩ := accepts valid
    have seen : endsHopelessly last = true := shown
    unfold endsHopelessly at seen
    split at seen
    case h_1 summary ended =>
      simp only [Bool.and_eq_true, beq_iff_eq] at seen
      exact ⟨trace, last, summary, run, ended, seen.1, seen.2, planned⟩
    case h_2 => contradiction

end MainPhase

end RoomLoad
