import RoomLoad.Proofs.Config.Acceptance
import RoomLoad.Proofs.Handoff.Ending

/-!
# The accounts of a run

Once every worker has ended nothing is in hand any more.  The units taken are then those
reported as sent or abandoned, and the units sent are those recorded or still in flight.
If nobody was asked to stop, the units taken are all units of the plan.
-/

namespace RoomLoad

/-- The accounts of a run with some settings close. -/
structure RunSummary.Closes (config : Config) (summary : RunSummary) : Prop where
  total : summary.total = config.totalMessages
  failures : summary.metrics.failure = summary.abandoned
  deliveries : summary.metrics.success + summary.unacknowledged = summary.sent
  taken : summary.sent + summary.abandoned ≤ summary.generated
  generated : summary.generated ≤ summary.total
  complete : summary.interrupted = false →
    summary.generated = summary.total ∧ summary.sent + summary.abandoned = summary.total ∧
      summary.metrics.success + summary.metrics.failure + summary.unacknowledged = summary.total

theorem Office.Custody.length_sent {σ τ : Type} {office : Office σ τ}
    {trace : List (Transition σ τ)} {situation : Situation σ τ}
    (custody : office.Custody trace situation)
    (idle : ∀ seq, office.sum (Worker.entered seq) situation = 0) :
    (office.desk situation.common).ledger.correlator.recorded.length +
      (office.desk situation.common).ledger.correlator.inflight.length =
        (office.history .sent trace).length := by
  generalize isCorrelator : (office.desk situation.common).ledger.correlator = correlator
  have same : (correlator.inflight.map Prod.fst ++
      correlator.recorded.map fun record => record.seq).Perm (office.history .sent trace) := by
    rw [List.perm_iff_count]
    intro seq
    have known := custody.known seq
    rw [idle, Nat.zero_add, isCorrelator] at known
    rw [List.count_append, ← known, Correlator.entries_eq_count, Correlator.recordsOf_eq_count]
  have lengths := same.length_eq
  rw [List.length_append, List.length_map, List.length_map] at lengths
  omega

theorem Office.Custody.length_taken {σ τ : Type} {office : Office σ τ}
    {trace : List (Transition σ τ)} {situation : Situation σ τ}
    (custody : office.Custody trace situation)
    (pending : ∀ seq, office.sum (Worker.pending seq) situation = 0)
    (entered : ∀ seq, office.sum (Worker.entered seq) situation = 0) :
    (office.history .sent trace).length + (office.history .abandoned trace).length =
      (office.takenSeqs trace).length := by
  have same : (office.history .sent trace ++ office.history .abandoned trace).Perm
      (office.takenSeqs trace) := by
    rw [List.perm_iff_count]
    intro seq
    have whole := custody.whole seq
    rw [pending, entered, Nat.zero_add] at whole
    rw [List.count_append, whole]
  rw [← List.length_append]
  exact same.length_eq

namespace MainPhase

variable {stoppable : Bool} {trace : List (Transition RunState RunTask)}
  {before after situation : Situation RunState RunTask} {act : Act RunTask}
  {config : Config} {plan : GeneratorPlan} {producer : TaskId}

theorem Kept.isOver (kept : Kept config plan producer trace situation)
    (allEnded : config.senderWorkers ≤ situation.common.ended) {task : RunTask} {worker : Worker}
    (member : task ∈ situation.tasks) (found : task.worker? = some worker) :
    worker.phase.isOver = true := by
  have together := kept.crew_balance
  have ended := kept.books.ended
  have noneAtWork : office.sum Worker.atWork situation = 0 := by omega
  have idle := Office.eq_zero_of_sum noneAtWork member found
  unfold Worker.atWork at idle
  split at idle
  case isTrue finished => exact finished
  case isFalse => contradiction

theorem Kept.settled_eq (kept : Kept config plan producer trace situation)
    (allEnded : config.senderWorkers ≤ situation.common.ended) (amount : WorkerReport → Nat) :
    office.sum (Worker.settled amount) situation =
      office.sum (fun worker => amount worker.report) situation := by
  apply Office.sum_congr
  intro task member worker found
  rw [Worker.settled, if_pos (kept.isOver allEnded member found)]

theorem Kept.pending_eq_zero (kept : Kept config plan producer trace situation)
    (allEnded : config.senderWorkers ≤ situation.common.ended) (seq : SeqId) :
    office.sum (Worker.pending seq) situation = 0 := by
  apply Office.sum_eq_zero
  intro task member worker found
  simp [Worker.pending, WorkerPhase.seq?_of_isOver (kept.isOver allEnded member found)]

theorem Kept.entered_eq_zero (kept : Kept config plan producer trace situation)
    (allEnded : config.senderWorkers ≤ situation.common.ended) (seq : SeqId) :
    office.sum (Worker.entered seq) situation = 0 := by
  apply Office.sum_eq_zero
  intro task member worker found
  simp [Worker.entered, WorkerPhase.seq?_of_isOver (kept.isOver allEnded member found)]

theorem Kept.tally_sent (kept : Kept config plan producer trace situation)
    (allEnded : config.senderWorkers ≤ situation.common.ended) :
    situation.common.tally.sent = (office.history .sent trace).length := by
  rw [kept.books.sent, kept.settled_eq allEnded]
  exact kept.custody.sentTotal

theorem Kept.tally_abandoned (kept : Kept config plan producer trace situation)
    (allEnded : config.senderWorkers ≤ situation.common.ended) :
    situation.common.tally.abandoned = (office.history .abandoned trace).length := by
  rw [kept.books.abandoned, kept.settled_eq allEnded]
  exact kept.custody.abandonedTotal

theorem Stream.of_reported {generator : Generator} {report : GeneratorReport}
    (stream : Stream plan producer trace situation generator)
    (reported : situation.common.generated = some report) :
    report.produced ≤ plan.total ∧
      office.takenSeqs trace ++ situation.common.desk.queue.seqs =
        plan.seqs.take report.produced ∧
      (report.interrupted = false → report.produced = plan.total) := by
  have fed := stream.fed
  rw [Generator.stage_of_report? (stream.reported ▸ reported)] at fed
  obtain ⟨bound, units, whole⟩ := fed.of_ended
  exact ⟨bound, (office.units_of_fed situation).symm.trans units, whole⟩

/-- No unit waits any more when no unit can come. -/
theorem Exhausted.seqs_eq_nil {generator : Generator} (exhausted : Exhausted trace situation)
    (stream : Stream plan producer trace situation generator) :
    situation.common.desk.queue.seqs = [] := by
  rcases exhausted with stop | ⟨_, nothing⟩
  · obtain ⟨units, stops, _, marks⟩ := stream.fed.exists_marks
    have behind := GeneratorPlan.no_units_behind_stop marks stop
    rw [List.filterMap_map] at behind
    exact behind
  · rw [UnitQueue.seqs, nothing]
    rfl

/-- A run that nobody asked to stop has seen the end of its stream. -/
theorem Kept.exhausted (kept : Kept config plan producer trace situation)
    (manned : 1 ≤ config.senderWorkers)
    (allEnded : config.senderWorkers ≤ situation.common.ended)
    (uninterrupted : situation.common.tally.interrupted = false) :
    Exhausted trace situation := by
  apply kept.concluded
  have apart : office.sum (fun worker => worker.satisfied +
      worker.settled fun report => report.interrupted.toNat) situation =
        situation.common.ended := by
    rw [kept.books.ended]
    apply Office.sum_congr
    intro task member worker found
    simp only [Worker.satisfied, Worker.settled, kept.isOver allEnded member found, if_true]
    cases worker.report.interrupted <;> rfl
  rw [Office.sum_add, kept.books.interrupted uninterrupted] at apart
  omega

theorem Kept.closes (kept : Kept config plan producer trace situation)
    (planned : plan.total = config.totalMessages) (manned : 1 ≤ config.senderWorkers)
    (allEnded : config.senderWorkers ≤ situation.common.ended) {report : GeneratorReport}
    (reported : situation.common.generated = some report) (timedOut : Bool) (now : Instant) :
    (situation.common.summary report timedOut now).Closes config := by
  obtain ⟨generator, stream⟩ := kept.stream
  obtain ⟨bound, seqs, whole⟩ := stream.of_reported reported
  have sent := kept.tally_sent allEnded
  have abandoned := kept.tally_abandoned allEnded
  have deliveries := kept.custody.length_sent (kept.entered_eq_zero allEnded)
  have taken := kept.custody.length_taken (kept.pending_eq_zero allEnded)
    (kept.entered_eq_zero allEnded)
  have total : situation.common.config.totalMessages = plan.total := by
    rw [kept.config_eq, planned]
  have lengths := congrArg List.length seqs
  rw [List.length_append, List.length_take, GeneratorPlan.length_seqs, Nat.min_eq_left bound]
    at lengths
  have failures : situation.common.desk.ledger.metrics.failure = situation.common.tally.abandoned :=
    kept.custody.failures.trans abandoned.symm
  have successes : situation.common.desk.ledger.metrics.success + situation.common.inflight =
      situation.common.tally.sent := by
    have records : situation.common.desk.ledger.metrics.success =
      situation.common.desk.ledger.correlator.recorded.length := kept.custody.successes
    rw [records, sent]
    exact deliveries
  constructor
  case total => exact total.trans planned
  case failures => exact failures
  case deliveries => exact successes
  case taken =>
    show situation.common.tally.sent + situation.common.tally.abandoned ≤ report.produced
    omega
  case generated =>
    show report.produced ≤ situation.common.config.totalMessages
    omega
  case complete =>
    intro uninterrupted
    have parts : (report.interrupted || situation.common.tally.interrupted ||
      situation.common.desk.shutdown) = false := uninterrupted
    simp only [Bool.or_eq_false_iff] at parts
    have produced := whole parts.1.1
    have nothing := (kept.exhausted manned allEnded parts.1.2).seqs_eq_nil stream
    rw [nothing, List.length_nil] at lengths
    refine ⟨produced.trans total.symm, ?_, ?_⟩
    · show situation.common.tally.sent + situation.common.tally.abandoned =
        situation.common.config.totalMessages
      omega
    · show situation.common.desk.ledger.metrics.success +
        situation.common.desk.ledger.metrics.failure + situation.common.inflight =
          situation.common.config.totalMessages
      omega

/-- A conductor winds down only after the generator and the workers have ended, and the
accounts that it ends with close. -/
structure Conducted (config : Config) (situation : Situation RunState RunTask) : Prop where
  windsDown : ∀ (id : TaskId) phase, situation.tasks[id]? = some (.conductor phase) →
    Conductor.isWindingDown phase = true →
      situation.common.generated.isSome = true ∧
        config.senderWorkers ≤ situation.common.ended
  closes : ∀ (id : TaskId) summary,
    situation.tasks[id]? = some (.conductor (.finished (.ok summary))) → summary.Closes config

/-- A step of anything but a conductor undoes nothing that a conductor waits for. -/
private theorem conducted_of_others {id : TaskId} {task : RunTask} {next : RunState × RunTask}
    (conducted : Conducted config before)
    (found : before.tasks[id]? = some task)
    (stays : ∀ phase, next.2 ≠ .conductor phase)
    (generated : before.common.generated.isSome = true → next.1.generated.isSome = true)
    (ended : before.common.ended ≤ next.1.ended) :
    Conducted config (before.put id next) := by
  constructor
  case windsDown =>
    intro other phase foundOther winding
    rw [Situation.tasks_put found] at foundOther
    split at foundOther
    case isTrue => exact absurd (Option.some.inj foundOther) (stays phase)
    case isFalse =>
      obtain ⟨reported, allEnded⟩ := conducted.windsDown other phase foundOther winding
      exact ⟨generated reported, Nat.le_trans allEnded ended⟩
  case closes =>
    intro other summary foundOther
    rw [Situation.tasks_put found] at foundOther
    split at foundOther
    case isTrue => exact absurd (Option.some.inj foundOther) (stays _)
    case isFalse => exact conducted.closes other summary foundOther

private theorem conducted_of_conducts {id : TaskId} {phase next : ConductorPhase}
    {later : RunState} (conducted : Conducted config before)
    (kept : Kept config plan producer trace before)
    (planned : plan.total = config.totalMessages) (manned : 1 ≤ config.senderWorkers)
    (found : before.tasks[id]? = some (.conductor phase))
    (conducts : Conductor.Advances before.view.now before.common phase later next) :
    Conducted config (before.put id (later, .conductor next)) := by
  obtain ⟨_, _, generated, ended, _⟩ := conducts.desk_eq
  constructor
  case windsDown =>
    intro other own foundOther winding
    rw [Situation.tasks_put found] at foundOther
    show later.generated.isSome = true ∧ config.senderWorkers ≤ later.ended
    rw [generated, ended]
    split at foundOther
    case isTrue =>
      cases foundOther
      cases conducts with
      | prepares pool _ preparing =>
          rw [Conductor.isWindingDown_of_isPreparing preparing] at winding
          contradiction
      | refuses => contradiction
      | launches => contradiction
      | collects awaiting reported allEnded =>
          rw [kept.config_eq] at allEnded
          exact ⟨reported, allEnded⟩
      | falls => contradiction
      | windsDown pool before after => exact conducted.windsDown id phase found before
      | finishes => contradiction
    case isFalse => exact conducted.windsDown other own foundOther winding
  case closes =>
    intro other summary foundOther
    rw [Situation.tasks_put found] at foundOther
    split at foundOther
    case isTrue =>
      cases foundOther
      cases conducts with
      | prepares pool _ preparing => contradiction
      | windsDown pool _ winding => contradiction
      | @finishes channels timedOut _ closing same =>
          have winding : Conductor.isWindingDown phase = true := by
            rw [closing]
            rfl
          obtain ⟨reported, allEnded⟩ := conducted.windsDown id phase found winding
          obtain ⟨report, isReport⟩ := Option.isSome_iff_exists.mp reported
          rw [isReport, same]
          have closes := kept.closes planned manned allEnded isReport timedOut before.view.now
          exact ⟨closes.total, closes.failures, closes.deliveries, closes.taken,
            closes.generated, closes.complete⟩
    case isFalse => exact conducted.closes other summary foundOther

theorem Conducted.step (conducted : Conducted config before)
    (kept : Kept config plan producer trace before)
    (planned : plan.total = config.totalMessages) (manned : 1 ≤ config.senderWorkers)
    (advances : Advances stoppable before act after) : Conducted config after := by
  cases advances with
  | conducts acts found conducts =>
      exact conducted_of_conducts conducted kept planned manned found conducts
  | generates acts found advances =>
      refine conducted_of_others conducted found (fun _ => RunTask.noConfusion) ?_ (Nat.le_refl _)
      intro reported
      obtain ⟨generator, stream⟩ := kept.stream
      rw [stream.reported_of_found found, advances.report?_eq_none] at reported
      contradiction
  | works acts found advances =>
      refine conducted_of_others conducted found (fun _ => RunTask.noConfusion) id ?_
      rw [RunTask.withWorker_ended]
      exact Nat.le_add_right _ _
  | hears => exact ⟨conducted.windsDown, conducted.closes⟩
  | stops => exact ⟨conducted.windsDown, conducted.closes⟩
  | shifts => exact ⟨conducted.windsDown, conducted.closes⟩

private theorem conducted_beginning {source : RandomSource} {shutdown : Bool} {view : View} :
    Conducted config
      (beginning config plan source [.conductor .starting] shutdown false view) := by
  have starts : ∀ (id : TaskId) phase,
      (beginning config plan source [.conductor .starting] shutdown false view).tasks[id]? =
        some (.conductor phase) → phase = .starting := by
    intro id phase found
    have member := List.mem_of_getElem? found
    simp only [beginning, List.cons_append, List.nil_append, List.mem_cons,
      RunTask.conductor.injEq, reduceCtorEq, List.mem_replicate, and_false, or_false] at member
    exact member
  constructor
  case windsDown =>
    intro id phase found winding
    rw [starts id phase found] at winding
    contradiction
  case closes =>
    intro id summary found
    have contrary := starts id _ found
    contradiction

theorem conducted_of_run {source : RandomSource} {shutdown : Bool} {view : View}
    {last : Situation RunState RunTask}
    (run : mainPhase.Run (rules stoppable)
      (beginning config plan source [.conductor .starting] shutdown false view) trace last)
    (planned : plan.total = config.totalMessages) (manned : 1 ≤ config.senderWorkers)
    (bounded : config.totalMessages ≤ Text.word64) :
    Kept config plan 1 trace last ∧ Conducted config last := by
  rw [← planned] at bounded
  induction run with
  | rest =>
      have kept : Kept config plan [RunTask.conductor .starting].length []
          (beginning config plan source [.conductor .starting] shutdown false view) :=
        kept_beginning (by simp [RunTask.worker?]) (by simp [RunTask.generator?])
      exact ⟨kept, conducted_beginning⟩
  | step run step allowed induction =>
      obtain ⟨kept, conducted⟩ := induction
      have advances := advances_of_step step allowed
      exact ⟨kept.step bounded advances, conducted.step kept planned manned advances⟩

def summary? (situation : Situation RunState RunTask) : Option RunSummary :=
  match situation.tasks.head? with
  | some (.conductor (.finished (.ok summary))) => some summary
  | _ => none

end MainPhase

theorem Config.of_validate {config : Config} (valid : config.validate = .ok ()) :
    config.defect? = none ∧ 1 ≤ config.senderWorkers ∧ 1 ≤ config.queueCapacity ∧
      ∃ plan, config.generatorPlan = .ok plan ∧ plan.total = config.totalMessages ∧
        plan.sentinels = config.senderWorkers := by
  have accepted := validate_eq_ok_iff.mp valid
  refine ⟨defect?_eq_none_iff.mpr accepted, accepted.manned, accepted.roomy, ?_⟩
  have someTemplates : (standardTemplates config.messagePoolSize).isEmpty = false := by
    rw [List.isEmpty_eq_false_iff, ← List.length_pos_iff, standardTemplates, List.length_map,
      List.length_range]
    exact accepted.someTemplate
  refine ⟨⟨config.totalMessages, config.senderWorkers,
    (standardTemplates config.messagePoolSize).toArray, config.users, config.rooms⟩, ?_, rfl, rfl⟩
  rw [generatorPlan, GeneratorPlan.make, someTemplates, accepted.someUser, accepted.someRoom]
  rfl

theorem Config.bounds_of_validate {config : Config} (valid : config.validate = .ok ()) :
    1 ≤ config.retry.maxAttempts ∧ config.rooms.isEmpty = false :=
  have accepted := validate_eq_ok_iff.mp valid
  ⟨accepted.persistent, accepted.someRoom⟩

namespace MainPhase

theorem start_eq_beginning {config : Config} {plan : GeneratorPlan} {source : RandomSource}
    {shutdown : Bool} {view : View} (sound : config.defect? = none)
    (planned : config.generatorPlan = .ok plan) :
    (⟨.start config shutdown, tasks config source, view⟩ : Situation RunState RunTask) =
      beginning config plan source [.conductor .starting] shutdown false view := by
  rw [tasks, sound, planned]
  rfl

/-- Whatever settings a run was given that are accepted, however its connections behave,
whenever frames arrive and whenever it is asked to stop: if it ends with a summary, the
accounts of the summary close.  The number of units is a 64-bit word. -/
theorem closes_of_run {config : Config} {source : RandomSource} {shutdown : Bool} {view : View}
    {trace : List (Transition RunState RunTask)} {last : Situation RunState RunTask}
    {summary : RunSummary}
    (valid : config.validate = .ok ())
    (bounded : config.totalMessages < Text.word64)
    (run : mainPhase.Run (rules true) ⟨.start config shutdown, tasks config source, view⟩
      trace last)
    (ended : summary? last = some summary) :
    summary.total = config.totalMessages ∧
    summary.metrics.failure = summary.abandoned ∧
    summary.metrics.success + summary.unacknowledged = summary.sent ∧
    summary.sent + summary.abandoned ≤ summary.generated ∧
    summary.generated ≤ summary.total ∧
    (summary.interrupted = false →
      summary.generated = summary.total ∧
      summary.sent + summary.abandoned = summary.total ∧
      summary.metrics.success + summary.metrics.failure + summary.unacknowledged =
        summary.total) := by
  obtain ⟨sound, manned, _, plan, isPlan, planned, _⟩ := Config.of_validate valid
  rw [start_eq_beginning sound isPlan] at run
  obtain ⟨_, conducted⟩ := conducted_of_run run planned manned (Nat.le_of_lt bounded)
  have closes : summary.Closes config := by
    unfold summary? at ended
    split at ended
    case h_1 own found =>
      cases ended
      rw [List.head?_eq_getElem?] at found
      exact conducted.closes 0 summary found
    case h_2 => contradiction
  exact ⟨closes.total, closes.failures, closes.deliveries, closes.taken, closes.generated,
    closes.complete⟩

/-- Three units for one worker with one try each, and no patience at the end. -/
def brief : Config :=
  { Config.standard with
    totalMessages := 3
    senderWorkers := 1
    queueCapacity := 4
    retry := ⟨1, .zero, .zero⟩
    rooms := ⟨1, 1⟩
    users := ⟨1, 1⟩
    messagePoolSize := 1
    drainTimeout := .zero }

/-- The first unit is acknowledged during its send, the second send fails, and the third
unit is never acknowledged. -/
def briefCourse : List (Cue RunState RunTask) :=
  List.replicate 5 (Cue.move 0 0) ++ [Cue.answer 0 (.connected 7), Cue.move 0 0] ++
    List.replicate 9 (Cue.move 1 0) ++
    List.replicate 6 (Cue.move 2 0) ++
    [Cue.frame "\x7b\"data\":\x7b\"message\":\"seq:0|\"\x7d\x7d", Cue.answer 2 .done] ++
    List.replicate 6 (Cue.move 2 0) ++
    [Cue.answer 2 (.failed .notOpen), Cue.move 2 0, Cue.move 2 0] ++
    List.replicate 6 (Cue.move 2 0) ++ [Cue.answer 2 .done, Cue.move 2 0, Cue.move 2 0] ++
    List.replicate 3 (Cue.move 0 0) ++ [Cue.answer 0 .done]

def endsBriefly (last : Situation RunState RunTask) : Bool :=
  (summary? last).any fun summary =>
    summary.metrics.success == 1 && summary.abandoned == 1 && summary.unacknowledged == 1 &&
      !summary.interrupted

theorem closes_of_run_of_brief :
    ∃ source view trace last summary,
      mainPhase.Run (rules true) ⟨.start brief false, tasks brief source, view⟩ trace last ∧
      summary? last = some summary ∧
      summary.metrics.success = 1 ∧ summary.metrics.failure = 1 ∧
      summary.unacknowledged = 1 ∧ summary.sent = 2 ∧ summary.generated = 3 := by
  let source : RandomSource := .scripted [] 0
  let view : View := ⟨0, fun _ => true⟩
  have sound : brief.defect? = none := by decide +kernel
  have valid : brief.validate = .ok () := by
    rw [Config.validate, sound]
  have bounded : brief.totalMessages < Text.word64 := by decide
  have replayed : (mainPhase.replay (fun _ transition => transition.act.isInner) []
      ⟨.start brief false, tasks brief source, view⟩ briefCourse).any
      (fun ending => endsBriefly ending.2) = true := by
    decide +kernel
  obtain ⟨trace, last, run, shown⟩ :=
    System.exists_run_of_replay (rules_of_isInner true) replayed
  have seen : endsBriefly last = true := shown
  cases ended : summary? last with
  | none =>
      rw [endsBriefly, ended] at seen
      contradiction
  | some summary =>
      simp only [endsBriefly, ended, Option.any_some, Bool.and_eq_true, beq_iff_eq,
        Bool.not_eq_true'] at seen
      obtain ⟨⟨⟨success, abandoned⟩, unacknowledged⟩, uninterrupted⟩ := seen
      obtain ⟨total, failures, deliveries, _, _, complete⟩ :=
        closes_of_run valid bounded run ended
      obtain ⟨generated, _, _⟩ := complete uninterrupted
      refine ⟨source, view, trace, last, summary, run, ended, success, ?_, unacknowledged, ?_, ?_⟩
      · rw [failures, abandoned]
      · rw [← deliveries, success, unacknowledged]
      · rw [generated, total]
        rfl

end MainPhase

end RoomLoad
