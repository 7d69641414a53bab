import RoomLoad.Proofs.Delivery.Custody
import RoomLoad.Proofs.Handoff.Steps

/-!
# The stream of units in a main phase

There is one generator, which alone puts items into the queue, and the workers alone
take them out.  What was taken and what still waits is therefore, at any time, what the
generator has fed into the queue.
-/

namespace RoomLoad

namespace MainPhase

variable {stoppable : Bool} {trace : List (Transition RunState RunTask)}
  {before after : Situation RunState RunTask} {act : Act RunTask}

theorem worked_of_others {id : TaskId} {task : RunTask} {next : RunState × RunTask}
    (acts : act.task? = some id) (found : before.tasks[id]? = some task)
    (other : task.worker? = none) :
    office.worked? ⟨before, act, before.put id next⟩ = none := by
  simp [Office.worked?, acts, found, office, other]

theorem worked_of_works {id : TaskId} {worker next : Worker} {state : RunState}
    (acts : act.task? = some id) (found : before.tasks[id]? = some (.worker worker)) :
    office.worked? ⟨before, act, before.put id (state, .worker next)⟩ =
      some (id, worker, next) := by
  have later : (before.put id (state, .worker next)).tasks[id]? = some (.worker next) :=
    Situation.tasks_put_self found _
  simp [Office.worked?, acts, found, later, office, RunTask.worker?]

theorem worked_of_idle (acts : act.task? = none) :
    office.worked? ⟨before, act, after⟩ = none := by
  simp [Office.worked?, acts]

private theorem change_of_others {id : TaskId} {task : RunTask} {next : RunState × RunTask}
    (acts : act.task? = some id) (found : before.tasks[id]? = some task)
    (other : task.worker? = none) (stays : next.2.worker? = none)
    (hears : before.common.desk.ledger.Hears next.1.desk.ledger) :
    office.Change ⟨before, act, before.put id next⟩ := by
  refine .others (worked_of_others acts found other) hears ?_
  intro measure
  have sums := office.sum_put found next measure
  have noneBefore : office.worker? task = none := other
  have noneAfter : office.worker? next.2 = none := stays
  rw [noneBefore, noneAfter] at sums
  exact sums

theorem change_of_advances (advances : Advances stoppable before act after) :
    office.Change ⟨before, act, after⟩ := by
  cases advances with
  | conducts acts found conducts =>
      obtain ⟨_, _, _, _, _, _, correlator, success, failure⟩ := conducts.desk_eq
      refine change_of_others acts found rfl rfl (.drops ?_ ?_ success failure)
      · rw [correlator]
      · rw [correlator]
  | generates acts found =>
      exact change_of_others acts found rfl rfl (.drops rfl rfl rfl rfl)
  | works acts found advances =>
      refine .works (worked_of_works acts found) advances ?_
      intro measure
      exact office.sum_put found _ measure
  | hears acts hears => exact .others (worked_of_idle acts) hears fun _ => rfl
  | stops acts => exact .others (worked_of_idle acts) (.drops rfl rfl rfl rfl) fun _ => rfl
  | shifts acts => exact .others (worked_of_idle acts) (.drops rfl rfl rfl rfl) fun _ => rfl

/-- The items taken and waiting are those that the only generator has fed into the
queue, and it holds the only sender until it ends. -/
structure Stream (plan : GeneratorPlan) (producer : TaskId)
    (trace : List (Transition RunState RunTask)) (situation : Situation RunState RunTask)
    (generator : Generator) : Prop where
  found : situation.tasks[producer]? = some (.generator generator)
  only : ∀ id other, situation.tasks[id]? = some (.generator other) → id = producer
  plan_eq : generator.plan = plan
  fed : plan.Fed (office.fed trace situation) generator.stage
  reported : situation.common.generated = generator.report?
  senders : situation.common.desk.queue.senders = if generator.report?.isSome then 0 else 1

variable {plan : GeneratorPlan} {producer : TaskId} {generator : Generator}

theorem Stream.generator_eq (stream : Stream plan producer trace before generator)
    {id : TaskId} {own : Generator} (found : before.tasks[id]? = some (.generator own)) :
    own = generator := by
  have here := stream.only id own found
  rw [here, stream.found] at found
  cases found
  rfl

theorem Stream.reported_of_found (stream : Stream plan producer trace before generator)
    {id : TaskId} {own : Generator} (found : before.tasks[id]? = some (.generator own)) :
    before.common.generated = own.report? := by
  rw [stream.generator_eq found]
  exact stream.reported

theorem Stream.reported_of_senders (stream : Stream plan producer trace before generator)
    (noSender : before.common.desk.queue.senders = 0) :
    before.common.generated.isSome = true := by
  have senders := stream.senders
  rw [noSender] at senders
  rw [stream.reported]
  split at senders
  case isTrue ended => exact ended
  case isFalse => contradiction

/-- A task that is no generator leaves the stream alone if it feeds nothing. -/
private theorem stream_of_others {id : TaskId} {task : RunTask} {next : RunState × RunTask}
    {act : Act RunTask}
    (stream : Stream plan producer trace before generator)
    (found : before.tasks[id]? = some task)
    (other : task.generator? = none)
    (stays : next.2.generator? = none)
    (reported : next.1.generated = before.common.generated)
    (senders : next.1.desk.queue.senders = before.common.desk.queue.senders)
    (same : office.fed (trace ++ [⟨before, act, before.put id next⟩]) (before.put id next) =
      office.fed trace before) :
    Stream plan producer (trace ++ [⟨before, act, before.put id next⟩]) (before.put id next)
      generator := by
  have apart : id ≠ producer := by
    rintro rfl
    rw [stream.found] at found
    cases found
    contradiction
  constructor
  case found =>
    rw [Situation.tasks_put_of_ne apart]
    exact stream.found
  case only =>
    intro own generator foundOwn
    rw [Situation.tasks_put found] at foundOwn
    split at foundOwn
    case isTrue =>
      rw [Option.some.inj foundOwn] at stays
      contradiction
    case isFalse => exact stream.only own generator foundOwn
  case plan_eq => exact stream.plan_eq
  case fed =>
    rw [same]
    exact stream.fed
  case reported => exact reported.trans stream.reported
  case senders => exact senders.trans stream.senders

private theorem stream_of_idle
    (stream : Stream plan producer trace before generator)
    (idle : office.worked? ⟨before, act, after⟩ = none)
    (tasks : after.tasks = before.tasks)
    (queue : after.common.desk.queue = before.common.desk.queue)
    (generated : after.common.generated = before.common.generated) :
    Stream plan producer (trace ++ [⟨before, act, after⟩]) after generator := by
  constructor
  case found =>
    rw [tasks]
    exact stream.found
  case only =>
    rw [tasks]
    exact stream.only
  case plan_eq => exact stream.plan_eq
  case fed =>
    rw [Office.fed_append_of_others idle (congrArg UnitQueue.items queue)]
    exact stream.fed
  case reported =>
    rw [generated]
    exact stream.reported
  case senders =>
    rw [queue]
    exact stream.senders

private theorem stream_of_generates {id : TaskId} {own next : Generator} {queue : UnitQueue}
    (stream : Stream plan producer trace before generator)
    (acts : act.task? = some id)
    (found : before.tasks[id]? = some (.generator own))
    (advances : own.Advances before.common.desk.queue next queue) :
    Stream plan producer
      (trace ++ [⟨before, act, before.put id
        ({ before.common with desk.queue := queue, generated := next.report? },
          .generator next)⟩])
      (before.put id
        ({ before.common with desk.queue := queue, generated := next.report? },
          .generator next)) next := by
  have here : id = producer := stream.only id own found
  subst here
  have same : own = generator := stream.generator_eq found
  subst same
  constructor
  case found => exact Situation.tasks_put_self found _
  case only =>
    intro other generator foundOther
    rw [Situation.tasks_put found] at foundOther
    split at foundOther
    case isTrue same => exact same.symm
    case isFalse => exact stream.only other generator foundOther
  case plan_eq =>
    rw [advances.plan_eq]
    exact stream.plan_eq
  case fed =>
    rw [Office.fed, Office.history_append_of_others _ (worked_of_others acts found rfl)]
    rw [← stream.plan_eq]
    apply advances.fed
    rw [stream.plan_eq]
    exact stream.fed
  case reported => rfl
  case senders =>
    apply advances.senders_eq
    rw [stream.senders, advances.report?_eq_none]
    rfl

theorem Stream.step (stream : Stream plan producer trace before generator)
    (advances : Advances stoppable before act after) :
    ∃ later, Stream plan producer (trace ++ [⟨before, act, after⟩]) after later := by
  cases advances with
  | conducts acts found conducts =>
      obtain ⟨queue, _, generated, _⟩ := conducts.desk_eq
      refine ⟨generator, stream_of_others stream found rfl rfl
        generated (congrArg UnitQueue.senders queue) ?_⟩
      exact Office.fed_append_of_others (worked_of_others acts found rfl)
        (congrArg UnitQueue.items queue)
  | generates acts found advances => exact ⟨_, stream_of_generates stream acts found advances⟩
  | works acts found advances =>
      refine ⟨generator, stream_of_others stream found rfl rfl
        rfl ?_ ?_⟩
      · exact advances.senders_eq
      · exact Office.fed_append_of_works (worked_of_works acts found) advances
  | hears acts => exact ⟨generator, stream_of_idle stream (worked_of_idle acts) rfl rfl rfl⟩
  | stops acts => exact ⟨generator, stream_of_idle stream (worked_of_idle acts) rfl rfl rfl⟩
  | shifts acts => exact ⟨generator, stream_of_idle stream (worked_of_idle acts) rfl rfl rfl⟩

theorem Stream.seqs_eq (stream : Stream plan producer trace before generator) :
    ∃ units, units ≤ plan.total ∧
      office.takenSeqs trace ++ before.common.desk.queue.seqs = plan.seqs.take units := by
  obtain ⟨units, stops, enough, marks⟩ := stream.fed.exists_marks
  refine ⟨units, enough, ?_⟩
  calc
    office.takenSeqs trace ++ before.common.desk.queue.seqs
        = (office.fed trace before).filterMap id := (office.units_of_fed before).symm
    _ = plan.seqs.take units := by rw [marks, GeneratorPlan.units_of_marks]

theorem Stream.nodup_seqs (stream : Stream plan producer trace before generator)
    (bounded : plan.total ≤ Text.word64) :
    (office.takenSeqs trace).Nodup := by
  obtain ⟨units, _, seqs⟩ := stream.seqs_eq
  have distinct : (plan.seqs.take units).Nodup :=
    (plan.nodup_seqs bounded).sublist (List.take_sublist _ _)
  rw [← seqs] at distinct
  exact (List.nodup_append.mp distinct).1

end MainPhase

end RoomLoad
