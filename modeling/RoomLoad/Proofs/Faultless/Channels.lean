import RoomLoad.Proofs.Faultless.Passage
import RoomLoad.Proofs.Faultless.Traffic
import RoomLoad.Proofs.Shutdown.Stopping

/-!
# Every room has its open channel

Before a faultless service a conductor connects once to every room, the channels stay open
until it closes them at the end, and every worker goes straight from one unit to the next.
-/

namespace RoomLoad

namespace MainPhase

variable {stubs : Stubs} {trace : List (Transition RunState RunTask)}
  {transition : Transition RunState RunTask} {before after situation : Situation RunState RunTask}
  {act : Act RunTask} {id : TaskId} {config : Config} {plan : GeneratorPlan}

/-- What a task that goes on relies on: it sees every channel as it is, and its call returns
as its channel says. -/
structure Relies (stubs : Stubs) (trace : List (Transition RunState RunTask))
    (before : Situation RunState RunTask) (id : TaskId) (answer : Option Answer)
    (call : Option Call) : Prop where
  shown : answer = none → (traffic stubs trace).shows before.view = true
  replied : ∀ given made, answer = some given → call = some made →
    (traffic stubs trace).stubs.replies (.ofInstant before.view.now) made given = true
  ended : ∀ given made, answer = some given → call = some made →
    mayEnd (traffic stubs trace) trace before.view.now id made given = true

/-- One step of a main phase before a faultless service. -/
inductive Proceeds (stubs : Stubs) (trace : List (Transition RunState RunTask))
    (before : Situation RunState RunTask) (act : Act RunTask) :
    Situation RunState RunTask → Prop where
  | conducts {id : TaskId} {phase next : ConductorPhase} {later : RunState} :
      act.task? = some id →
      before.tasks[id]? = some (.conductor phase) →
      Conductor.Goes before.view id before.common phase act.answer? later next →
      Relies stubs trace before id act.answer? (Conductor.call? phase) →
      Proceeds stubs trace before act (before.put id (later, .conductor next))
  | generates {id : TaskId} {generator next : Generator} {queue : UnitQueue} :
      act.task? = some id →
      before.tasks[id]? = some (.generator generator) →
      generator.Advances before.common.desk.queue next queue →
      before.common.launched = true →
      Proceeds stubs trace before act
        (before.put id
          ({ before.common with desk.queue := queue, generated := next.report? },
            .generator next))
  | works {id : TaskId} {worker next : Worker} {desk : Desk} :
      act.task? = some id →
      before.tasks[id]? = some (.worker worker) →
      worker.Goes before.view id before.common.desk act.answer? desk next →
      (act.answer? = none → before.common.launched = true) →
      Relies stubs trace before id act.answer? worker.call? →
      Proceeds stubs trace before act
        (before.put id (RunTask.withWorker before.common desk next, .worker next))
  | hears {text : String} :
      act = .frame text →
      (traffic stubs trace).letters.any
        (Letter.isIn (traffic stubs trace).stubs before.view.now text) = true →
      Proceeds stubs trace before act
        { before with common.desk := before.common.desk.receive before.view.now text }
  | counts :
      act = .countReconnect →
      Proceeds stubs trace before act
        { before with common.desk := before.common.desk.countReconnect }
  | shifts {view : View} :
      act = .shift →
      before.view.now ≤ view.now →
      (∀ alarm ∈ alarms stubs trace before, view.now ≤ alarm) →
      Proceeds stubs trace before act { before with view := view }

private theorem relies_of_punctual {task : RunTask}
    (allowed : punctual stubs trace ⟨before, act, after⟩) (acts : act.task? = some id)
    (found : before.tasks[id]? = some task) :
    Relies stubs trace before id act.answer? task.call? := by
  cases act with
  | move other => exact ⟨fun _ => allowed, nofun, nofun⟩
  | answer other given =>
      cases acts
      have answered : ∀ made, task.call? = some made →
          (traffic stubs trace).stubs.replies (.ofInstant before.view.now) made given = true ∧
            mayEnd (traffic stubs trace) trace before.view.now id made given = true := by
        intro made waits
        simpa [punctual, isPunctual, found, waits] using allowed
      refine ⟨nofun, ?_, ?_⟩
      · rintro _ made ⟨⟩ waits
        exact (answered made waits).1
      · rintro _ made ⟨⟩ waits
        exact (answered made waits).2
  | _ => contradiction

theorem rules_of_punctual (trace : List (Transition RunState RunTask))
    (transition : Transition RunState RunTask) (allowed : punctual stubs trace transition) :
    rules false trace transition := by
  obtain ⟨before, act, after⟩ := transition
  cases act with
  | outside | begin => contradiction
  | _ => trivial

/-- Every step before a faultless service is on the list. -/
theorem proceeds_of_step (step : mainPhase.Step before act after)
    (allowed : punctual stubs trace ⟨before, act, after⟩) :
    Proceeds stubs trace before act after := by
  have goes := goes_of_step step (discreet_of_rules (rules_of_punctual _ _ allowed) step)
  cases goes with
  | conducts acts found goes =>
      exact .conducts acts found goes (relies_of_punctual allowed acts found)
  | generates acts found advances launched => exact .generates acts found advances launched
  | works acts found goes launched =>
      exact .works acts found goes launched (relies_of_punctual allowed acts found)
  | idles idle =>
      cases step with
      | move | answer => contradiction
      | outside | begin => contradiction
      | frame text => exact .hears rfl allowed
      | countReconnect => exact .counts rfl
      | shift view =>
          simp only [punctual, isPunctual, Bool.and_eq_true, decide_eq_true_eq,
            List.all_eq_true] at allowed
          exact .shifts rfl allowed.1 allowed.2

/-- What is known of a run from its conductor, its generator and its workers. -/
structure Regular (config : Config) (plan : GeneratorPlan)
    (trace : List (Transition RunState RunTask)) (situation : Situation RunState RunTask) :
    Prop where
  kept : Kept config plan 1 trace situation
  conducted : Conducted config situation
  staffed : Staffed config 1 situation
  locked : Locked situation
  supplies : ∀ (id : TaskId) generator, situation.tasks[id]? = some (.generator generator) →
    Supplies plan id trace generator

theorem Regular.balance (regular : Regular config plan trace situation) (seq : SeqId) :
    situation.common.desk.ledger.correlator.entries seq +
      situation.common.desk.ledger.correlator.recordsOf seq =
        office.sum (Worker.entered seq) situation + (office.history .sent trace).count seq :=
  regular.kept.custody.known seq

variable {source : RandomSource} {view : View} {last : Situation RunState RunTask}

private theorem start_eq_gathering (sound : config.defect? = none)
    (planned : config.generatorPlan = .ok plan) :
    (⟨.start config false, tasks config source, view⟩ : Situation RunState RunTask) =
      gathering config true plan source (List.replicate config.senderWorkers config.retry)
        ⟨config.queueCapacity, .empty, 1, config.senderWorkers⟩ false view := by
  rw [tasks, sound, planned, gathering, List.map_replicate]
  rfl

theorem regular_of_run (valid : config.validate = .ok ())
    (planned : config.generatorPlan = .ok plan) (bounded : config.totalMessages < Text.word64)
    (run : mainPhase.Run (rules false) ⟨.start config false, tasks config source, view⟩
      trace last) :
    Regular config plan trace last := by
  obtain ⟨sound, manned, _, own, isPlan, total, _⟩ := Config.of_validate valid
  rw [isPlan] at planned
  cases planned
  have accounts := run
  rw [start_eq_beginning sound isPlan] at accounts
  obtain ⟨kept, conducted⟩ := conducted_of_run accounts total manned (Nat.le_of_lt bounded)
  rw [start_eq_gathering sound isPlan] at run
  have others : Staffed config 1 last ∧ Locked last ∧
      ∀ (id : TaskId) generator, last.tasks[id]? = some (.generator generator) →
        Supplies plan id trace generator := by
    clear kept conducted accounts
    induction run with
    | rest =>
        refine ⟨?_, locked_gathering, fun id generator => supplies_gathering⟩
        change Staffed config (place true) _
        apply staffed_gathering
        intro _
        rw [List.length_replicate]
        exact ⟨valid, Nat.le_refl _⟩
    | step run step allowed induction =>
        obtain ⟨staffed, locked, supplies⟩ := induction
        have goes := goes_of_step step (discreet_of_rules allowed step)
        refine ⟨staffed.goes goes, locked.goes goes, ?_⟩
        intro id next found
        rcases goes.generator found with ⟨others, same⟩ | ⟨own, _, acts, present, advances, rfl⟩
        · exact (supplies id next same).of_others others
        · exact (supplies id own present).of_acts acts advances
  exact ⟨kept, conducted, others.1, others.2.1, others.2.2⟩

/-- A unit that the generator has handed over, and that was not tried yet. -/
structure Known (config : Config) (trace : List (Transition RunState RunTask))
    (unit : OutboundUnit) : Prop where
  fed : .unit unit ∈ fedBy 1 trace
  untried : unit.attempt = 0
  room : config.rooms.holds unit.room = true

theorem Known.append {unit : OutboundUnit} (known : Known config trace unit) :
    Known config (trace ++ [transition]) unit := by
  refine ⟨?_, known.untried, known.room⟩
  rw [fedBy, List.flatMap_append]
  exact List.mem_append_left _ known.fed

/-- A worker that has tried everything once, and nobody has stopped it. -/
structure Smooth (config : Config) (trace : List (Transition RunState RunTask)) (pool : Pool)
    (worker : Worker) : Prop where
  passes : worker.phase.Passes (Known config trace) pool
  policy_eq : worker.policy = config.retry
  abandoned : worker.report.abandoned = 0
  interrupted : worker.report.interrupted = false

theorem Smooth.append {pool : Pool} {worker : Worker} (smooth : Smooth config trace pool worker) :
    Smooth config (trace ++ [transition]) pool worker :=
  ⟨smooth.passes.mono fun _ => Known.append, smooth.policy_eq, smooth.abandoned,
    smooth.interrupted⟩

/-- A worker that has nothing in hand does not mind what becomes of the pool. -/
theorem Smooth.of_idle {pool later : Pool} {worker : Worker}
    (smooth : Smooth config trace pool worker) (idle : worker.phase.seq? = none) :
    Smooth config trace later worker :=
  ⟨smooth.passes.of_idle idle, smooth.policy_eq, smooth.abandoned, smooth.interrupted⟩

/-- What a generator holds is like what it has handed over. -/
def Holds (config : Config) (generator : Generator) : Prop :=
  ∀ number unit, generator.stage = .holding number unit →
    unit.attempt = 0 ∧ config.rooms.holds unit.room = true

/-- Nothing stands in the way. -/
structure Paved (config : Config) (stubs : Stubs) (trace : List (Transition RunState RunTask))
    (situation : Situation RunState RunTask) (phase : ConductorPhase) : Prop where
  found : situation.tasks[0]? = some (.conductor phase)
  shutdown : situation.common.desk.shutdown = false
  capacity : situation.common.desk.queue.capacity = config.queueCapacity
  paves : Conductor.Paves config situation.common.desk.pool (connects trace) phase
  collected : Conductor.hasCollected phase = true →
    situation.common.generated.isSome = true ∧ config.senderWorkers ≤ situation.common.ended
  named : Conductor.hasCollected phase = true →
    phase = .crashed ∨ (deadline? 0 config.drainTimeout).isSome = true
  echoes : (∀ result, phase ≠ .finished result) → ∀ channel,
    ((traffic stubs trace).stubs channel).Echoes config.drainTimeout
  handed : ∀ room channel, situation.common.desk.pool.channel? room = some channel →
    channel ∈ (traffic stubs trace).handed
  held : ∀ (id : TaskId) generator, situation.tasks[id]? = some (.generator generator) →
    Holds config generator
  queued : ∀ unit, .unit unit ∈ situation.common.desk.queue.items → Known config trace unit
  workers : ∀ (id : TaskId) worker, situation.tasks[id]? = some (.worker worker) →
    Smooth config trace situation.common.desk.pool worker
  abandoned : situation.common.tally.abandoned = 0
  interrupted : situation.common.tally.interrupted = false
  reported : ∀ report, situation.common.generated = some report → report.interrupted = false

variable {phase next : ConductorPhase}

theorem Paved.awaiting (paved : Paved config stubs trace before phase)
    (regular : Regular config plan trace before) {worker later : Worker} {desk : Desk}
    (found : before.tasks[id]? = some (.worker worker))
    (goes : worker.Goes before.view id before.common.desk act.answer? desk later)
    (launched : act.answer? = none → before.common.launched = true) : phase = .awaiting := by
  have begun : before.common.launched = true := by
    cases waits : before.common.launched with
    | true => rfl
    | false =>
        have ready := regular.staffed.idle waits id worker found
        rw [launched (goes.answer_eq_none ready)] at waits
        contradiction
  have prepared := (regular.staffed.standing 0 phase paved.found).2
  rw [begun] at prepared
  have atWork : Conductor.hasCollected phase = false := by
    cases collected : Conductor.hasCollected phase with
    | false => rfl
    | true =>
        have finished := regular.kept.isOver (paved.collected collected).2
          (List.mem_of_getElem? found) rfl
        rw [goes.advances.isOver_eq_false] at finished
        contradiction
  cases phase <;> first | rfl | contradiction

theorem Paved.receivers_ne_zero (paved : Paved config stubs trace before phase)
    (regular : Regular config plan trace before) (manned : 1 ≤ config.senderWorkers)
    {generator : Generator} {number : Nat} {unit : OutboundUnit}
    (found : before.tasks[id]? = some (.generator generator))
    (holding : generator.stage = .holding number unit) :
    before.common.desk.queue.receivers ≠ 0 := by
  intro nobody
  obtain ⟨own, stream⟩ := regular.kept.stream
  obtain rfl := stream.generator_eq found
  have noneAtWork : office.sum Worker.atWork before = 0 :=
    regular.kept.books.receivers.symm.trans nobody
  have together := regular.kept.crew_balance
  have satisfied : office.sum Worker.satisfied before =
      office.sum (Worker.settled fun _ => 1) before := by
    apply Office.sum_congr
    intro task member worker isWorker
    cases task with
    | worker inner =>
        cases isWorker
        obtain ⟨place, present⟩ := List.getElem?_of_mem member
        simp only [Worker.satisfied, Worker.settled,
          (paved.workers place worker present).interrupted, Bool.not_false, Bool.toNat_true]
    | _ => contradiction
  have ended : office.sum Worker.satisfied before ≠ 0 := by omega
  have fed := stream.fed
  rw [holding] at fed
  have noStops := @GeneratorPlan.stops_of_marks plan number 0
  rw [← fed.2.2, List.count_eq_zero] at noStops
  rcases regular.kept.concluded ended with stop | ⟨reported, _⟩
  · apply noStops
    rw [Office.fed]
    exact List.mem_append_left _ stop
  · rw [stream.reported, Generator.report?, holding] at reported
    contradiction

private theorem connects_append_of_task {task next : RunTask} {state : RunState}
    (acts : act.task? = some id) (found : before.tasks[id]? = some task)
    (others : ∀ room, next.call? ≠ some (.connect room)) :
    connects (trace ++ [⟨before, act, before.put id (state, next)⟩]) = connects trace := by
  apply connects_append_of_others
  intro other room begun
  exact others room (calls_of_begins? acts found begun)

private theorem connects_append_of_conducts {state : RunState}
    (acts : act.task? = some id) (found : before.tasks[id]? = some (.conductor phase)) :
    connects (trace ++ [⟨before, act, before.put id (state, .conductor next)⟩]) =
      connects trace ++ (Conductor.connect? next).toList := by
  cases waits : Conductor.connect? next with
  | none =>
      rw [Option.toList_none, List.append_nil]
      apply connects_append_of_task acts found
      intro room calls
      have contrary := Conductor.connect?_eq_some_iff.mpr calls
      rw [waits] at contrary
      contradiction
  | some room =>
      have begun := @begins?_put before act id (.conductor phase) (.conductor next) state acts found
      have calls : (RunTask.conductor next).call? = some (.connect room) :=
        Conductor.connect?_eq_some_iff.mp waits
      rw [calls] at begun
      exact connects_append_of_connect begun

private theorem paved_of_idle (paved : Paved config stubs trace before phase)
    (idle : act.task? = none) (tasks : after.tasks = before.tasks)
    (pool : after.common.desk.pool = before.common.desk.pool)
    (queue : after.common.desk.queue = before.common.desk.queue)
    (shutdown : after.common.desk.shutdown = before.common.desk.shutdown)
    (generated : after.common.generated = before.common.generated)
    (ended : after.common.ended = before.common.ended)
    (tally : after.common.tally = before.common.tally) :
    Paved config stubs (trace ++ [⟨before, act, after⟩]) after phase := by
  have silent : begins? ⟨before, act, after⟩ = none := by simp [begins?, idle]
  have quiet : ends? ⟨before, act, after⟩ = none := by simp [ends?, idle]
  constructor
  case found =>
    rw [tasks]
    exact paved.found
  case shutdown => exact shutdown.trans paved.shutdown
  case capacity =>
    rw [queue]
    exact paved.capacity
  case paves =>
    rw [pool, connects_append_of_others (by simp [silent])]
    exact paved.paves
  case collected =>
    rw [generated, ended]
    exact paved.collected
  case named => exact paved.named
  case echoes =>
    intro unfinished
    rw [traffic_append]
    apply Traffic.echoes_after (paved.echoes unfinished)
    · simp [silent]
    · simp [quiet]
  case handed =>
    intro room channel present
    rw [pool] at present
    rw [traffic_append]
    exact Traffic.mem_handed_after (paved.handed room channel present)
  case held =>
    rw [tasks]
    exact paved.held
  case queued =>
    intro unit member
    rw [queue] at member
    exact (paved.queued unit member).append
  case workers =>
    intro id worker present
    rw [tasks] at present
    rw [pool]
    exact (paved.workers id worker present).append
  case abandoned =>
    rw [tally]
    exact paved.abandoned
  case interrupted =>
    rw [tally]
    exact paved.interrupted
  case reported =>
    rw [generated]
    exact paved.reported

private theorem echoes_of_conducts {later : RunState}
    (paved : Paved config stubs trace before phase) (config_eq : before.common.config = config)
    (acts : act.task? = some id) (present : before.tasks[id]? = some (.conductor phase))
    (goes : Conductor.Goes before.view id before.common phase act.answer? later next)
    (unfinished : ∀ result, next ≠ .finished result) (channel : ChannelId) :
    (((traffic stubs trace).after
      ⟨before, act, before.put id (later, .conductor next)⟩).stubs channel).Echoes
        config.drainTimeout := by
  apply Traffic.echoes_after (paved.echoes goes.ne_finished)
  · intro other channel begun
    exact Conductor.call?_ne_reconnect (calls_of_begins? acts present begun)
  · intro other channels answer closed
    obtain ⟨answered, waits⟩ := called_of_ends? acts present closed
    have paves := paved.paves
    rw [← config_eq] at paves
    obtain ⟨result, finished⟩ := goes.lasting paves answered waits
    exact unfinished result finished

private theorem smooth_of_conducts {later : RunState} {place : TaskId} {worker : Worker}
    (paved : Paved config stubs trace before phase) (regular : Regular config plan trace before)
    (goes : Conductor.Goes before.view id before.common phase act.answer? later next)
    (found : before.tasks[place]? = some (.worker worker)) :
    Smooth config (trace ++ [transition]) later.desk.pool worker := by
  have smooth := paved.workers place worker found
  rcases goes.pool_eq with same | preparing | collected
  · rw [same]
    exact smooth.append
  · have prepared := (regular.staffed.standing 0 phase paved.found).2
    rw [preparing] at prepared
    apply smooth.append.of_idle
    rw [regular.staffed.idle prepared place worker found]
    rfl
  · have finished := regular.kept.isOver (paved.collected collected).2
      (List.mem_of_getElem? found) rfl
    exact smooth.append.of_idle (WorkerPhase.seq?_of_isOver finished)

private theorem paved_of_conducts {own : ConductorPhase} {later : RunState}
    (paved : Paved config stubs trace before phase) (regular : Regular config plan trace before)
    (valid : config.validate = .ok ()) (acts : act.task? = some id)
    (present : before.tasks[id]? = some (.conductor own))
    (goes : Conductor.Goes before.view id before.common own act.answer? later next)
    (relies : Relies stubs trace before id act.answer? (Conductor.call? own)) :
    Paved config stubs (trace ++ [⟨before, act, before.put id (later, .conductor next)⟩])
      (before.put id (later, .conductor next)) next := by
  obtain rfl := regular.staffed.first id own present
  have same := paved.found
  rw [present] at same
  cases same
  obtain ⟨queue, shutdown, generated, ended, tally, _⟩ := goes.advances.desk_eq
  have config_eq := regular.staffed.config_eq
  have yields : ∀ given room, act.answer? = some given →
      Conductor.call? phase = some (.connect room) → ∃ fresh, given = .connected fresh := by
    intro given room answered waits
    have replied := relies.replied given _ answered waits
    cases given with
    | connected fresh => exact ⟨fresh, rfl⟩
    | _ => contradiction
  have others : ∀ {place : TaskId} {task : RunTask}, (∀ phase, task ≠ .conductor phase) →
      (before.put 0 (later, .conductor next)).tasks[place]? = some task →
        before.tasks[place]? = some task := by
    intro place task other found
    rw [Situation.tasks_put present] at found
    split at found
    case isTrue => exact absurd (Option.some.inj found).symm (other next)
    case isFalse => exact found
  constructor
  case found => exact Situation.tasks_put_self present _
  case shutdown => exact shutdown.trans paved.shutdown
  case capacity => exact (congrArg UnitQueue.capacity queue).trans paved.capacity
  case paves =>
    rw [connects_append_of_conducts acts present, ← config_eq]
    apply goes.paves
    · rw [config_eq]
      exact paved.paves
    · rw [config_eq]
      exact valid
    · exact yields
  case collected =>
    intro collected
    show later.generated.isSome = true ∧ config.senderWorkers ≤ later.ended
    rw [generated, ended]
    rcases goes.collected (config_eq ▸ valid) collected with before | now
    · exact paved.collected before
    · rw [config_eq] at now
      exact now
  case named =>
    intro collected
    rw [← config_eq]
    apply goes.named (config_eq ▸ valid) collected
    rw [config_eq]
    exact paved.named
  case echoes =>
    intro unfinished
    rw [traffic_append]
    exact echoes_of_conducts paved config_eq acts present goes unfinished
  case handed =>
    intro room channel found
    rw [traffic_append]
    rcases goes.channels found with before | ⟨other, answered, waits⟩
    · exact Traffic.mem_handed_after (paved.handed room channel before)
    · apply Traffic.mem_handed_of_connected acts
      rw [ends?_put acts present, answered]
      exact congrArg (Option.map _) waits
  case held =>
    intro place generator found
    exact paved.held place generator (others nofun found)
  case queued =>
    intro unit member
    apply Known.append
    apply paved.queued
    rw [← queue]
    exact member
  case workers =>
    intro place worker found
    exact smooth_of_conducts paved regular goes (others nofun found)
  case abandoned => exact (congrArg WorkerReport.abandoned tally).trans paved.abandoned
  case interrupted => exact (congrArg WorkerReport.interrupted tally).trans paved.interrupted
  case reported =>
    intro report found
    exact paved.reported report (generated.symm.trans found)

theorem stays_of_put {task : RunTask} {state : RunState} {next : RunTask}
    (found : before.tasks[0]? = some (.conductor phase)) (present : before.tasks[id]? = some task)
    (other : ∀ phase, task ≠ .conductor phase) :
    (before.put id (state, next)).tasks[0]? = some (.conductor phase) := by
  have apart : id ≠ 0 := by
    rintro rfl
    rw [found] at present
    exact other phase (Option.some.inj present).symm
  rw [Situation.tasks_put_of_ne apart]
  exact found

theorem holds_of_advances {generator later : Generator} {queue other : UnitQueue}
    (advances : generator.Advances queue later other)
    (rooms : generator.plan.rooms = config.rooms) (inhabited : config.rooms.isEmpty = false) :
    Holds config later := by
  intro number unit holding
  cases advances with
  | draws _ _ _ drawn =>
      cases holding
      rw [← drawn]
      refine ⟨rfl, ?_⟩
      rw [← rooms] at inhabited ⊢
      exact RandomSource.holds_ofRange inhabited _
  | _ => contradiction

theorem exists_handed {generator later : Generator} {queue other : UnitQueue}
    (advances : generator.Advances queue later other) :
    ∃ items, other.items = queue.items ++ items ∧
      ∀ unit, .unit unit ∈ items → ∃ number, generator.stage = .holding number unit := by
  cases advances with
  | @hands number own _ holding accepted =>
      refine ⟨[.unit own], UnitQueue.items_of_offer accepted, ?_⟩
      intro unit member
      cases List.mem_singleton.mp member
      exact ⟨number, holding⟩
  | requests _ accepted =>
      refine ⟨[.stop], UnitQueue.items_of_offer accepted, ?_⟩
      intro unit member
      cases List.mem_singleton.mp member
  | _ => exact ⟨[], (List.append_nil _).symm, nofun⟩

theorem uninterrupted_of_advances {generator later : Generator} {queue other : UnitQueue}
    (advances : generator.Advances queue later other)
    (manned : ∀ number unit, generator.stage = .holding number unit → queue.receivers ≠ 0)
    {report : GeneratorReport} (reported : later.report? = some report) :
    report.interrupted = false := by
  cases advances with
  | isLeft holding left =>
      exact absurd (UnitQueue.receivers_of_disconnected left) (manned _ _ holding)
  | isLeftAtStops | ends =>
      cases reported
      rfl
  | _ => contradiction

private theorem paved_of_generates {generator later : Generator} {queue : UnitQueue}
    (paved : Paved config stubs trace before phase) (regular : Regular config plan trace before)
    (rooms : plan.rooms = config.rooms) (inhabited : config.rooms.isEmpty = false)
    (manned : 1 ≤ config.senderWorkers) (acts : act.task? = some id)
    (present : before.tasks[id]? = some (.generator generator))
    (advances : generator.Advances before.common.desk.queue later queue) :
    Paved config stubs
      (trace ++ [⟨before, act, before.put id
        ({ before.common with desk.queue := queue, generated := later.report? },
          .generator later)⟩])
      (before.put id
        ({ before.common with desk.queue := queue, generated := later.report? },
          .generator later)) phase := by
  obtain rfl := regular.staffed.only id generator present
  have planned := (regular.supplies 1 generator present).plan_eq
  obtain ⟨items, appended, handed⟩ := exists_handed advances
  have unchanged : ∀ {state : RunState}, traffic stubs
      (trace ++ [⟨before, act, before.put 1 (state, .generator later)⟩]) = traffic stubs trace := by
    intro state
    rw [traffic_append]
    exact Traffic.after_of_moves acts present rfl rfl
  constructor
  case found => exact stays_of_put paved.found present nofun
  case shutdown => exact paved.shutdown
  case capacity => exact advances.capacity_eq.trans paved.capacity
  case paves =>
    rw [connects_append_of_task acts present]
    · exact paved.paves
    · exact fun _ => nofun
  case collected =>
    intro collected
    obtain ⟨reported, _⟩ := paved.collected collected
    obtain ⟨own, stream⟩ := regular.kept.stream
    rw [stream.reported_of_found present, advances.report?_eq_none] at reported
    contradiction
  case named => exact paved.named
  case echoes =>
    rw [unchanged]
    exact paved.echoes
  case handed =>
    rw [unchanged]
    exact paved.handed
  case held =>
    intro place other found
    rw [Situation.tasks_put present] at found
    split at found
    case isTrue =>
      cases found
      exact holds_of_advances advances (planned ▸ rooms) inhabited
    case isFalse => exact paved.held place other found
  case queued =>
    intro unit member
    have member : .unit unit ∈ queue.items := member
    rw [appended, List.mem_append] at member
    rcases member with waiting | new
    · exact (paved.queued unit waiting).append
    · obtain ⟨number, holding⟩ := handed unit new
      obtain ⟨untried, room⟩ := paved.held 1 generator present number unit holding
      refine ⟨?_, untried, room⟩
      rw [fedBy_append_of_acts acts appended]
      exact List.mem_append_right _ new
  case workers =>
    intro place worker found
    rw [Situation.tasks_put present] at found
    split at found
    case isTrue => cases found
    case isFalse => exact (paved.workers place worker found).append
  case abandoned => exact paved.abandoned
  case interrupted => exact paved.interrupted
  case reported =>
    intro report found
    apply uninterrupted_of_advances advances _ found
    intro number unit holding
    exact paved.receivers_ne_zero regular manned present holding

theorem Paved.strides (paved : Paved config stubs trace before phase)
    (regular : Regular config plan trace before) (valid : config.validate = .ok ())
    {worker later : Worker} {desk : Desk} (found : before.tasks[id]? = some (.worker worker))
    (goes : worker.Goes before.view id before.common.desk act.answer? desk later)
    (launched : act.answer? = none → before.common.launched = true)
    (relies : Relies stubs trace before id act.answer? worker.call?) :
    phase = .awaiting ∧ later.phase.Passes (Known config trace) desk.pool ∧
      worker.Strides (Known config trace) before.view.now before.common.desk act.answer? desk
        later := by
  obtain rfl := paved.awaiting regular found goes launched
  have smooth := paved.workers id worker found
  have echoes := paved.echoes nofun
  obtain ⟨_, covers⟩ := paved.paves
  refine ⟨rfl, goes.strides smooth.passes paved.shutdown paved.queued ?_ ?_ ?_ ?_⟩
  · intro unit known
    rw [known.untried, smooth.policy_eq]
    exact (Config.bounds_of_validate valid).1
  · intro _ unit known
    have room := known.room
    rw [IdRange.holds, Bool.and_eq_true, decide_eq_true_eq, decide_eq_true_eq,
      UInt32.le_iff_toNat_le, UInt32.le_iff_toNat_le] at room
    rw [covers unit.room]
    omega
  · intro moves room channel pooled
    have seen := List.all_eq_true.mp (relies.shown moves) channel (paved.handed room channel pooled)
    rw [beq_iff_eq] at seen
    exact seen.trans (echoes channel).isOpen
  · intro given unit channel answered sending
    have waits : worker.call? = some (.send channel unit.wireText) := by
      rw [Worker.call?, sending]
    exact Stubs.eq_done_of_replies (echoes channel).delivers (echoes channel).isOpen
      (relies.replied given _ answered waits)

private theorem echoes_of_strides {known : OutboundUnit → Prop} {worker later : Worker}
    {desk : Desk} {answer : Option Answer} {state : RunState} {patience : Duration}
    (strides : worker.Strides known before.view.now before.common.desk answer desk later)
    (acts : act.task? = some id) (present : before.tasks[id]? = some (.worker worker))
    (echoes : ∀ channel, ((traffic stubs trace).stubs channel).Echoes patience)
    (channel : ChannelId) :
    (((traffic stubs trace).after
      ⟨before, act, before.put id (state, .worker later)⟩).stubs channel).Echoes patience := by
  obtain ⟨ends, begins⟩ := strides.calls
  apply Traffic.echoes_after echoes
  · intro other channel begun
    have calls : later.call? = some (.reconnect channel) := calls_of_begins? acts present begun
    simp [calls] at begins
  · intro other channels given closed
    have calls : worker.call? = some (.close channels) := (called_of_ends? acts present closed).2
    simp [calls] at ends

private theorem smooth_of_strides {worker later : Worker} {desk : Desk}
    (smooth : Smooth config trace before.common.desk.pool worker)
    (goes : worker.Goes before.view id before.common.desk act.answer? desk later)
    (passes : later.phase.Passes (Known config trace) desk.pool)
    (strides : worker.Strides (Known config trace) before.view.now before.common.desk act.answer?
      desk later) : Smooth config (trace ++ [transition]) desk.pool later := by
  obtain ⟨abandoned, interrupted⟩ := strides.report_eq
  constructor
  case passes => exact passes.mono fun _ => Known.append
  case policy_eq => exact goes.policy_eq.trans smooth.policy_eq
  case abandoned => exact abandoned.trans smooth.abandoned
  case interrupted => exact interrupted.trans smooth.interrupted

private theorem paved_of_works {worker later : Worker} {desk : Desk}
    (paved : Paved config stubs trace before phase) (regular : Regular config plan trace before)
    (valid : config.validate = .ok ()) (acts : act.task? = some id)
    (present : before.tasks[id]? = some (.worker worker))
    (goes : worker.Goes before.view id before.common.desk act.answer? desk later)
    (launched : act.answer? = none → before.common.launched = true)
    (relies : Relies stubs trace before id act.answer? worker.call?) :
    Paved config stubs
      (trace ++ [⟨before, act,
        before.put id (RunTask.withWorker before.common desk later, .worker later)⟩])
      (before.put id (RunTask.withWorker before.common desk later, .worker later)) phase := by
  obtain ⟨rfl, passes, strides⟩ := paved.strides regular valid present goes launched relies
  have smooth := paved.workers id worker present
  obtain ⟨abandoned, interrupted⟩ := strides.report_eq
  rw [smooth.abandoned] at abandoned
  rw [smooth.interrupted] at interrupted
  constructor
  case found => exact stays_of_put paved.found present nofun
  case shutdown => exact goes.advances.shutdown_eq.trans paved.shutdown
  case capacity => exact goes.advances.capacity_eq.trans paved.capacity
  case paves =>
    rw [connects_append_of_task acts present]
    · have paves := paved.paves
      rw [← strides.pool_eq] at paves
      exact paves
    · intro room calls
      have waits : later.call? = some (.connect room) := calls
      have sends := strides.calls.2
      simp [waits] at sends
  case collected => exact nofun
  case named => exact nofun
  case echoes =>
    intro _ channel
    rw [traffic_append]
    exact echoes_of_strides strides acts present (paved.echoes nofun) channel
  case handed =>
    intro room channel pooled
    rw [traffic_append]
    apply Traffic.mem_handed_after
    apply paved.handed room
    rw [← strides.pool_eq]
    exact pooled
  case held =>
    intro place generator found
    rw [Situation.tasks_put present] at found
    split at found
    case isTrue => cases found
    case isFalse => exact paved.held place generator found
  case queued =>
    intro unit member
    apply Known.append
    apply paved.queued
    rw [← goes.advances.items_balance]
    exact List.mem_append_right _ member
  case workers =>
    intro place other found
    show Smooth config _ desk.pool other
    rw [Situation.tasks_put present] at found
    split at found
    case isTrue =>
      cases found
      exact smooth_of_strides smooth goes passes strides
    case isFalse =>
      rw [strides.pool_eq]
      exact (paved.workers place other found).append
  case abandoned =>
    show (RunTask.withWorker before.common desk later).tally.abandoned = 0
    rw [RunTask.withWorker_abandoned, paved.abandoned, Worker.settled, abandoned]
    split <;> rfl
  case interrupted =>
    show (RunTask.withWorker before.common desk later).tally.interrupted = false
    rw [RunTask.withWorker_interrupted, Worker.settled, interrupted]
    refine ⟨paved.interrupted, ?_⟩
    split <;> rfl
  case reported => exact paved.reported

theorem rooms_of_generatorPlan (planned : config.generatorPlan = .ok plan) :
    plan.rooms = config.rooms := by
  unfold Config.generatorPlan GeneratorPlan.make at planned
  split at planned
  case isTrue => contradiction
  case isFalse =>
    split at planned
    case isTrue => contradiction
    case isFalse =>
      split at planned
      case isTrue => contradiction
      case isFalse =>
        cases planned
        rfl

theorem Paved.step (paved : Paved config stubs trace before phase)
    (regular : Regular config plan trace before) (valid : config.validate = .ok ())
    (planned : config.generatorPlan = .ok plan)
    (proceeds : Proceeds stubs trace before act after) :
    ∃ later, Paved config stubs (trace ++ [⟨before, act, after⟩]) after later := by
  cases proceeds with
  | conducts acts present goes relies =>
      exact ⟨_, paved_of_conducts paved regular valid acts present goes relies⟩
  | generates acts present advances =>
      exact ⟨phase, paved_of_generates paved regular (rooms_of_generatorPlan planned)
        (Config.bounds_of_validate valid).2 (Config.of_validate valid).2.1 acts present advances⟩
  | works acts present goes launched relies =>
      exact ⟨phase, paved_of_works paved regular valid acts present goes launched relies⟩
  | hears acts | counts acts | shifts acts =>
      subst acts
      exact ⟨phase, paved_of_idle paved rfl rfl rfl rfl rfl rfl rfl rfl⟩

theorem of_found_start (valid : config.validate = .ok ())
    (planned : config.generatorPlan = .ok plan) {task : RunTask}
    (found : (tasks config source)[id]? = some task) :
    (id = 0 ∧ task = .conductor .starting) ∨ task = .generator (plan.start source) ∨
      task = .worker (.start config.retry) := by
  rw [tasks, (Config.of_validate valid).1, planned] at found
  cases id with
  | zero =>
      cases found
      exact .inl ⟨rfl, rfl⟩
  | succ id =>
      right
      rw [List.getElem?_cons_succ] at found
      rcases List.mem_cons.mp (List.mem_of_getElem? found) with same | member
      · exact .inl same
      · exact .inr (List.eq_of_mem_replicate member)

private theorem paved_start (valid : config.validate = .ok ())
    (planned : config.generatorPlan = .ok plan)
    (echoes : ∀ channel, (stubs channel).Echoes config.drainTimeout) :
    Paved config stubs [] ⟨.start config false, tasks config source, view⟩ .starting := by
  constructor
  case found =>
    show (tasks config source)[0]? = _
    rw [tasks, (Config.of_validate valid).1, planned]
    rfl
  case shutdown => rfl
  case capacity => rfl
  case paves => exact ⟨rfl, rfl⟩
  case collected => exact Bool.noConfusion
  case named => exact Bool.noConfusion
  case echoes => exact fun _ => echoes
  case handed =>
    intro room channel pooled
    contradiction
  case held =>
    intro id generator found
    rcases of_found_start valid planned found with ⟨_, same⟩ | same | same
    · cases same
    · cases same
      exact fun _ _ => GeneratorStage.noConfusion
    · cases same
  case queued =>
    intro unit member
    exact absurd member List.not_mem_nil
  case workers =>
    intro id worker found
    rcases of_found_start valid planned found with ⟨_, same⟩ | same | same
    · cases same
    · cases same
    · cases same
      exact ⟨True.intro, rfl, rfl, rfl⟩
  case abandoned => rfl
  case interrupted => rfl
  case reported =>
    intro report reported
    contradiction

/-- Nothing ever stands in the way. -/
theorem paved_of_run (valid : config.validate = .ok ())
    (planned : config.generatorPlan = .ok plan) (bounded : config.totalMessages < Text.word64)
    (echoes : ∀ channel, (stubs channel).Echoes config.drainTimeout)
    (run : mainPhase.Run (punctual stubs) ⟨.start config false, tasks config source, view⟩
      trace last) :
    Regular config plan trace last ∧ ∃ phase, Paved config stubs trace last phase := by
  refine ⟨regular_of_run valid planned bounded (run.imp rules_of_punctual), ?_⟩
  induction run with
  | rest => exact ⟨_, paved_start valid planned echoes⟩
  | step run step allowed induction =>
      obtain ⟨phase, paved⟩ := induction
      have regular := regular_of_run valid planned bounded (run.imp rules_of_punctual)
      exact paved.step regular valid planned (proceeds_of_step step allowed)

end MainPhase

end RoomLoad
