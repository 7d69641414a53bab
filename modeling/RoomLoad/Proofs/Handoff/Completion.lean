import RoomLoad.Proofs.Handoff.Ending
import RoomLoad.Proofs.Handoff.Locking

/-!
# The hand-off runs to its end

A generator and its workers share a queue, and nobody asks them to stop.  As many
requests to stop are taken as workers have ended.  A worker that is left therefore has
a request still to come, and the generator always has somebody to take what it makes.
-/

namespace RoomLoad

namespace UnitQueue

variable {queue : UnitQueue} {envelope : Envelope}

theorem receivers_of_disconnected (disconnected : queue.offer envelope = .disconnected) :
    queue.receivers = 0 := by
  unfold offer at disconnected
  split at disconnected
  case isTrue nobody => exact nobody
  case isFalse => split at disconnected <;> contradiction

theorem length_of_full (full : queue.offer envelope = .full) :
    queue.capacity ≤ queue.items.length := by
  unfold offer at full
  split at full
  case isTrue => contradiction
  case isFalse =>
    split at full
    case isTrue => contradiction
    case isFalse noRoom =>
      rw [items, ← Fifo.size_eq_length]
      exact Nat.le_of_not_lt noRoom

end UnitQueue

namespace Worker.Advances

variable {now : Instant} {desk later : Desk} {worker next : Worker}

/-- A worker that nobody asks to stop takes units until it takes a request to stop. -/
theorem takes_calmly (advances : Advances now desk worker later next)
    (calm : desk.shutdown = false) (supplied : desk.queue.take ≠ .disconnected) :
    ∃ units : List OutboundUnit, (Sight.taken desk worker later next).toList =
      units.map .unit ++ if next.phase.isOver then [.stop] else [] := by
  cases advances with
  | goesOn _ atWork => exact ⟨[], by simp [Sight.taken, atWork]⟩
  | @takes unit queue receiving taken =>
      have shorter := UnitQueue.items_of_take taken
      exact ⟨[unit], by simp [Sight.taken, shorter, WorkerPhase.isOver]⟩
  | endsAtStop receiving taken =>
      have shorter := UnitQueue.items_of_take taken
      exact ⟨[], by simp [Sight.taken, shorter, WorkerPhase.isOver]⟩
  | endsAtHangUp receiving ended => exact absurd ended supplied
  | endsAtShutdown idle shutdown =>
      rw [calm] at shutdown
      contradiction
  | abandonsAtShutdown resting shutdown =>
      rw [calm] at shutdown
      contradiction
  | _ => exact ⟨[], by simp [Sight.taken, WorkerPhase.isOver, deliver]⟩

theorem stops_calmly (advances : Advances now desk worker later next)
    (calm : desk.shutdown = false) (supplied : desk.queue.take ≠ .disconnected) :
    ((Sight.taken desk worker later next).toList.map Envelope.seq?).count none =
      next.settled fun _ => 1 := by
  obtain ⟨units, taken⟩ := advances.takes_calmly calm supplied
  have noStops : (units.map fun unit => (Envelope.unit unit).seq?).count none = 0 := by
    simp [List.count_eq_zero]
  rw [taken, List.map_append, List.map_map, List.count_append, settled]
  split
  case isTrue => exact congrArg (· + 1) noStops
  case isFalse => exact noStops

end Worker.Advances

theorem Generator.Advances.capacity_eq {queue later : UnitQueue} {generator next : Generator}
    (advances : generator.Advances queue next later) : later.capacity = queue.capacity := by
  cases advances with
  | hands holding accepted => exact (UnitQueue.frame_of_offer accepted).2.2
  | requests stopping accepted => exact (UnitQueue.frame_of_offer accepted).2.2
  | _ => rfl

namespace MainPhase

/-- What a hand-off keeps that nobody disturbs. -/
structure Calm (config : Config) (situation : Situation RunState RunTask) : Prop where
  shutdown : situation.common.desk.shutdown = false
  launched : situation.common.launched = true
  capacity : situation.common.desk.queue.capacity = config.queueCapacity
  unconducted : ∀ (id : TaskId) phase, situation.tasks[id]? ≠ some (.conductor phase)

variable {trace : List (Transition RunState RunTask)}
  {before after situation : Situation RunState RunTask} {act : Act RunTask} {config : Config}
  {plan : GeneratorPlan} {producer : TaskId}

private theorem calm_of_put {id : TaskId} {task : RunTask} {next : RunState × RunTask}
    (calm : Calm config before) (found : before.tasks[id]? = some task)
    (stays : ∀ phase, next.2 ≠ .conductor phase)
    (shutdown : next.1.desk.shutdown = before.common.desk.shutdown)
    (launched : next.1.launched = before.common.launched)
    (capacity : next.1.desk.queue.capacity = before.common.desk.queue.capacity) :
    Calm config (before.put id next) := by
  constructor
  case shutdown => exact shutdown.trans calm.shutdown
  case launched => exact launched.trans calm.launched
  case capacity => exact capacity.trans calm.capacity
  case unconducted =>
    intro other phase foundOther
    rw [Situation.tasks_put found] at foundOther
    split at foundOther
    case isTrue => exact stays phase (Option.some.inj foundOther)
    case isFalse => exact calm.unconducted other phase foundOther

theorem Calm.step (calm : Calm config before) (advances : Advances false before act after) :
    Calm config after := by
  cases advances with
  | conducts acts found => exact absurd found (calm.unconducted _ _)
  | generates acts found advances =>
      exact calm_of_put calm found (fun _ => RunTask.noConfusion) rfl rfl advances.capacity_eq
  | works acts found advances =>
      exact calm_of_put calm found (fun _ => RunTask.noConfusion) advances.shutdown_eq rfl
        advances.capacity_eq
  | hears => exact ⟨calm.shutdown, calm.launched, calm.capacity, calm.unconducted⟩
  | stops acts stoppable => contradiction
  | shifts => exact ⟨calm.shutdown, calm.launched, calm.capacity, calm.unconducted⟩

/-- As many requests to stop were taken as workers have ended, and the generator ends only
after it has fed everything. -/
structure Sated (plan : GeneratorPlan) (trace : List (Transition RunState RunTask))
    (situation : Situation RunState RunTask) : Prop where
  stops : ((office.history .taken trace).map Envelope.seq?).count none =
    office.sum (Worker.settled fun _ => 1) situation
  whole : situation.common.generated.isSome = true →
    office.fed trace situation = plan.marks plan.total plan.sentinels

/-- A worker that is left has a request to stop still to come. -/
theorem Kept.settled_lt (kept : Kept config plan producer trace situation) {id : TaskId}
    {worker : Worker} (found : situation.tasks[id]? = some (.worker worker))
    (atWork : worker.phase.isOver = false) :
    office.sum (Worker.settled fun _ => 1) situation < config.senderWorkers := by
  have together := kept.crew_balance
  have one : worker.atWork = 1 := by
    rw [Worker.atWork, atWork]
    rfl
  have present : worker.atWork ≤ office.sum Worker.atWork situation :=
    Office.le_sum (List.mem_of_getElem? found) rfl Worker.atWork
  omega

/-- The queue holds something for every worker that is left once the generator has
ended. -/
theorem Sated.items_ne_nil (sated : Sated plan trace situation)
    (kept : Kept config plan producer trace situation)
    (stops : plan.sentinels = config.senderWorkers) {id : TaskId} {worker : Worker}
    (found : situation.tasks[id]? = some (.worker worker))
    (atWork : worker.phase.isOver = false)
    (ended : situation.common.generated.isSome = true) :
    situation.common.desk.queue.items ≠ [] := by
  intro nothing
  have all := sated.whole ended
  have waiting : (office.desk situation.common).queue.items = [] := nothing
  rw [Office.fed, waiting, List.map_nil, List.append_nil] at all
  have taken := sated.stops
  rw [all, GeneratorPlan.stops_of_marks] at taken
  have left := kept.settled_lt found atWork
  omega

theorem stops_le_of_fed {fed : List (Option SeqId)} (marks : office.fed trace situation = fed) :
    ((office.history .taken trace).map Envelope.seq?).count none ≤ fed.count none := by
  rw [← marks, Office.fed, List.count_append]
  exact Nat.le_add_right _ _

/-- As long as a generator has something to hand over, somebody is left to take it. -/
private theorem manned_of_fed {units stopsFed : Nat}
    (sated : Sated plan trace before)
    (kept : Kept config plan producer trace before)
    (marks : office.fed trace before = plan.marks units stopsFed)
    (missing : stopsFed < config.senderWorkers) :
    before.common.desk.queue.receivers ≠ 0 := by
  have taken := stops_le_of_fed marks
  rw [sated.stops, GeneratorPlan.stops_of_marks] at taken
  have together := kept.crew_balance
  rw [kept.books.receivers]
  omega

private theorem whole_of_generates {generator next : Generator} {queue : UnitQueue}
    (sated : Sated plan trace before)
    (kept : Kept config plan producer trace before)
    (manned : 1 ≤ config.senderWorkers) (stops : plan.sentinels = config.senderWorkers)
    (stream : Stream plan producer trace before generator)
    (advances : generator.Advances before.common.desk.queue next queue)
    (ended : next.report?.isSome = true) :
    office.fed trace before = plan.marks plan.total plan.sentinels ∧
      queue.items = before.common.desk.queue.items := by
  have fed := stream.fed
  cases advances with
  | isLeft holding left =>
      rw [holding] at fed
      have nobody := UnitQueue.receivers_of_disconnected left
      exact absurd nobody (manned_of_fed sated kept fed.2.2 manned)
  | isLeftAtStops stopping left =>
      rw [stopping] at fed
      have nobody := UnitQueue.receivers_of_disconnected left
      exact absurd nobody (manned_of_fed sated kept fed.2 (by omega))
  | ends stopping =>
      rw [stopping] at fed
      exact ⟨fed.2, rfl⟩
  | _ => contradiction

/-- A worker that is left never finds the queue given up. -/
theorem Sated.supplied (sated : Sated plan trace situation)
    (kept : Kept config plan producer trace situation)
    (stops : plan.sentinels = config.senderWorkers) {id : TaskId} {worker : Worker}
    (found : situation.tasks[id]? = some (.worker worker))
    (atWork : worker.phase.isOver = false) :
    situation.common.desk.queue.take ≠ .disconnected := by
  intro disconnected
  obtain ⟨nothing, noSender⟩ := UnitQueue.of_disconnected disconnected
  obtain ⟨generator, stream⟩ := kept.stream
  exact sated.items_ne_nil kept stops found atWork (stream.reported_of_senders noSender) nothing

private theorem sated_of_idle (sated : Sated plan trace before)
    (idle : office.worked? ⟨before, act, after⟩ = none)
    (tasks : after.tasks = before.tasks)
    (queue : after.common.desk.queue = before.common.desk.queue)
    (generated : after.common.generated = before.common.generated) :
    Sated plan (trace ++ [⟨before, act, after⟩]) after := by
  constructor
  case stops =>
    rw [Office.history_append_of_others _ idle, Office.sum, tasks]
    exact sated.stops
  case whole =>
    intro ended
    rw [Office.fed_append_of_others idle (congrArg UnitQueue.items queue)]
    exact sated.whole (generated ▸ ended)

theorem Sated.step (sated : Sated plan trace before)
    (kept : Kept config plan producer trace before) (calm : Calm config before)
    (manned : 1 ≤ config.senderWorkers) (stops : plan.sentinels = config.senderWorkers)
    (advances : Advances false before act after) :
    Sated plan (trace ++ [⟨before, act, after⟩]) after := by
  cases advances with
  | conducts acts found => exact absurd found (calm.unconducted _ _)
  | generates acts found advances =>
      constructor
      case stops =>
        rw [Office.history_append_of_others _ (worked_of_others acts found rfl), sated.stops]
        symm
        exact office.sum_put found _ _
      case whole =>
        intro ended
        obtain ⟨own, stream⟩ := kept.stream
        have same := stream.generator_eq found
        subst same
        obtain ⟨whole, items⟩ :=
          whole_of_generates sated kept manned stops stream advances ended
        refine (Office.fed_append_of_others (worked_of_others acts found rfl) ?_).trans whole
        exact items
  | @works id worker next desk acts found advances =>
      constructor
      case stops =>
        have taken := advances.stops_calmly calm.shutdown
          (sated.supplied kept stops found advances.isOver_eq_false)
        have sums : office.sum (Worker.settled fun _ => 1)
            (before.put id (RunTask.withWorker before.common desk next, .worker next)) +
              worker.settled (fun _ => 1) =
            office.sum (Worker.settled fun _ => 1) before + next.settled fun _ => 1 :=
          office.sum_put found _ _
        rw [advances.settled_eq_zero] at sums
        rw [Office.history_append_of_works _ (worked_of_works acts found), List.map_append,
          List.count_append, sated.stops]
        exact (congrArg (office.sum _ before + ·) taken).trans sums.symm
      case whole =>
        intro ended
        refine (Office.fed_append_of_works (worked_of_works acts found) ?_).trans
          (sated.whole ended)
        exact advances
  | hears acts => exact sated_of_idle sated (worked_of_idle acts) rfl rfl rfl
  | stops acts stoppable => contradiction
  | shifts acts => exact sated_of_idle sated (worked_of_idle acts) rfl rfl rfl

/-- Every worker has taken units, and behind them a request to stop exactly if it has
ended. -/
def Portioned (trace : List (Transition RunState RunTask))
    (situation : Situation RunState RunTask) : Prop :=
  ∀ (id : TaskId) worker, situation.tasks[id]? = some (.worker worker) →
    ∃ units : List OutboundUnit, office.takes id trace =
      units.map .unit ++ if worker.phase.isOver then [.stop] else []

theorem Portioned.step (portioned : Portioned trace before) (sated : Sated plan trace before)
    (kept : Kept config plan producer trace before) (calm : Calm config before)
    (stops : plan.sentinels = config.senderWorkers)
    (advances : Advances false before act after) :
    Portioned (trace ++ [⟨before, act, after⟩]) after := by
  cases advances with
  | conducts acts found => exact absurd found (calm.unconducted _ _)
  | generates acts found advances =>
      intro other worker foundOther
      rw [Office.takes_append_of_others (worked_of_others acts found rfl)]
      rw [Situation.tasks_put found] at foundOther
      split at foundOther
      case isTrue => cases foundOther
      case isFalse => exact portioned other worker foundOther
  | @works id worker next desk acts found advances =>
      intro other own foundOther
      rw [Office.takes_append_of_works (worked_of_works acts found)]
      rw [Situation.tasks_put found] at foundOther
      split at foundOther
      case isTrue same =>
        subst same
        cases foundOther
        obtain ⟨earlier, before⟩ := portioned id worker found
        obtain ⟨units, taken⟩ := advances.takes_calmly calm.shutdown
          (sated.supplied kept stops found advances.isOver_eq_false)
        refine ⟨earlier ++ units, ?_⟩
        rw [if_pos rfl, before, advances.isOver_eq_false, if_neg Bool.false_ne_true,
          List.append_nil, List.map_append, List.append_assoc]
        exact congrArg (earlier.map Envelope.unit ++ ·) taken
      case isFalse different =>
        rw [if_neg different, List.append_nil]
        exact portioned other own foundOther
  | hears acts =>
      intro other worker foundOther
      rw [Office.takes_append_of_others (worked_of_idle acts)]
      exact portioned other worker foundOther
  | stops acts stoppable => contradiction
  | shifts acts =>
      intro other worker foundOther
      rw [Office.takes_append_of_others (worked_of_idle acts)]
      exact portioned other worker foundOther

end MainPhase

end RoomLoad
