import RoomLoad.Proofs.Handoff.Staff

/-!
# No hand-off gets stuck

A worker that cannot go on by itself waits for a call to return, for its turn at the lock
or for an item.  Whoever has the lock can go on, an item comes as long as the generator
can go on, and the generator is held up only by a full queue, from which a worker that
waits for an item can take one.
-/

namespace RoomLoad

namespace MainPhase

variable {trace : List (Transition RunState RunTask)} {situation : Situation RunState RunTask}
  {config : Config} {plan : GeneratorPlan} {producer : TaskId}

/-- Nobody is missing from a hand-off without a conductor. -/
private theorem staffed_of_calm (calm : Calm config situation)
    (kept : Kept config plan producer trace situation) : Staffed config producer situation := by
  obtain ⟨generator, stream⟩ := kept.stream
  constructor
  case config_eq => exact kept.config_eq
  case generator => exact ⟨generator, stream.found, stream.reported⟩
  case only => exact stream.only
  case first => exact fun id phase found => absurd found (calm.unconducted id phase)
  case standing => exact fun id phase found => absurd found (calm.unconducted id phase)
  case conducted =>
    intro waits
    rw [calm.launched] at waits
    contradiction
  case idle =>
    intro waits
    rw [calm.launched] at waits
    contradiction
  case enough => exact fun id phase found => absurd found (calm.unconducted id phase)

theorem canGoOn_of_empty {generator : Generator}
    (stream : Stream plan producer trace situation generator)
    (launched : situation.common.launched = true)
    (roomy : 1 ≤ situation.common.desk.queue.capacity)
    (empty : situation.common.desk.queue.take = .empty) :
    mainPhase.CanGoOn situation producer := by
  obtain ⟨nothing, sender⟩ := UnitQueue.of_empty empty
  have notEnded : generator.report? = none := by
    cases reported : generator.report? with
    | none => rfl
    | some report =>
        have senders := stream.senders
        rw [reported] at senders
        exact absurd senders sender
  apply canGoOn_of_generator launched stream.found notEnded
  rw [nothing]
  exact .inr roomy

/-- As long as a task has not come to its end, some task can go on. -/
theorem exists_canGoOn (locked : Locked situation) (calm : Calm config situation)
    (kept : Kept config plan producer trace situation) (roomy : 1 ≤ config.queueCapacity)
    {task : RunTask} (member : task ∈ situation.tasks) (atWork : task.isOver = false) :
    ∃ id, mainPhase.CanGoOn situation id := by
  obtain ⟨generator, stream⟩ := kept.stream
  refine exists_canGoOn_of_supply locked (staffed_of_calm calm kept) kept.books ?_ member atWork
  intro id worker launched found receiving
  by_cases empty : situation.common.desk.queue.take = .empty
  · rw [← calm.capacity] at roomy
    exact .inr ⟨producer, canGoOn_of_empty stream launched roomy empty⟩
  · exact .inl (Worker.receive_ne_nil empty)

/-- All that a hand-off keeps that nobody disturbs. -/
structure Handed (config : Config) (plan : GeneratorPlan)
    (trace : List (Transition RunState RunTask)) (situation : Situation RunState RunTask) :
    Prop where
  kept : Kept config plan 0 trace situation
  calm : Calm config situation
  sated : Sated plan trace situation
  portioned : Portioned trace situation
  locked : Locked situation

variable {source : RandomSource} {view : View} {last : Situation RunState RunTask}

private theorem eq_of_mem_beginning {task : RunTask}
    (member : task ∈ (beginning config plan source [] false true view).tasks) :
    task = .generator (plan.start source) ∨ task = .worker (.start config.retry) := by
  rcases List.mem_cons.mp member with same | behind
  · exact .inl same
  · exact .inr (List.eq_of_mem_replicate behind)

private theorem handed_beginning :
    Handed config plan [] (beginning config plan source [] false true view) := by
  have kept : Kept config plan ([] : List RunTask).length []
      (beginning config plan source [] false true view) :=
    kept_beginning (by simp) (by simp)
  constructor
  case kept => exact kept
  case calm =>
    refine ⟨rfl, rfl, rfl, ?_⟩
    intro id phase found
    rcases eq_of_mem_beginning (List.mem_of_getElem? found) with same | same <;> cases same
  case sated =>
    constructor
    case stops => exact kept.books.ended
    case whole =>
      intro ended
      contradiction
  case portioned =>
    intro id worker found
    rcases eq_of_mem_beginning (List.mem_of_getElem? found) with same | same
    · cases same
    · cases same
      exact ⟨[], rfl⟩
  case locked =>
    apply CreationLock.serves_of_away
    intro task member
    rcases eq_of_mem_beginning member with rfl | rfl
    · rfl
    · rfl

theorem handed_of_run
    (run : mainPhase.Run (rules false) (beginning config plan source [] false true view) trace last)
    (manned : 1 ≤ config.senderWorkers) (stops : plan.sentinels = config.senderWorkers)
    (bounded : plan.total ≤ Text.word64) :
    Handed config plan trace last := by
  induction run with
  | rest => exact handed_beginning
  | step run step allowed handed =>
      have advances := advances_of_step step allowed
      constructor
      case kept => exact handed.kept.step bounded advances
      case calm => exact handed.calm.step advances
      case sated => exact handed.sated.step handed.kept handed.calm manned stops advances
      case portioned =>
        exact handed.portioned.step handed.sated handed.kept handed.calm stops advances
      case locked => exact handed.locked.step step allowed

/-- Once every task has come to its end, everything was taken. -/
theorem Handed.complete (handed : Handed config plan trace last)
    (manned : 1 ≤ config.senderWorkers) (stops : plan.sentinels = config.senderWorkers)
    (finished : ∀ task ∈ last.tasks, task.isOver = true) :
    (office.history .taken trace).map Envelope.seq? = plan.marks plan.total plan.sentinels ∧
      last.common.desk.queue.items = [] ∧ last.common.generated = some ⟨plan.total, false⟩ := by
  obtain ⟨generator, stream⟩ := handed.kept.stream
  have ended : last.common.generated.isSome = true := by
    rw [stream.reported]
    exact finished _ (List.mem_of_getElem? stream.found)
  have noneLeft : office.sum Worker.atWork last = 0 := by
    apply Office.sum_eq_zero
    intro task member worker isWorker
    cases task with
    | worker own =>
        cases isWorker
        have ownOver : worker.phase.isOver = true := finished _ member
        rw [Worker.atWork, ownOver]
        rfl
    | _ => contradiction
  have together := handed.kept.crew_balance
  have stopped := handed.sated.stops
  have whole : (office.history .taken trace).map Envelope.seq? ++
      last.common.desk.queue.items.map Envelope.seq? = plan.marks plan.total plan.sentinels :=
    handed.sated.whole ended
  have stop : none ∈ (office.history .taken trace).map Envelope.seq? := by
    rw [← List.count_pos_iff]
    omega
  have nothing : last.common.desk.queue.items.map Envelope.seq? = [] := by
    apply GeneratorPlan.eq_nil_of_nothing (GeneratorPlan.no_units_behind_stop whole stop)
    have counts := congrArg (List.count none) whole
    rw [List.count_append, GeneratorPlan.stops_of_marks] at counts
    omega
  have items := List.map_eq_nil_iff.mp nothing
  refine ⟨?_, items, ?_⟩
  · rw [nothing, List.append_nil] at whole
    exact whole
  · obtain ⟨report, reported⟩ := Option.isSome_iff_exists.mp ended
    have fed := stream.fed
    have all : office.fed trace last = plan.marks plan.total plan.sentinels := whole
    rw [Generator.stage_of_report? (stream.reported ▸ reported), all] at fed
    rcases fed with ⟨_, _, marks⟩ | ⟨same, _⟩
    · have counts := congrArg (List.count none) marks
      rw [GeneratorPlan.stops_of_marks, GeneratorPlan.stops_of_marks] at counts
      omega
    · rw [reported, same]

/-- Each unit of a plan was dequeued once, by one worker, when all that was planned was
taken. -/
theorem exists_dequeue (bounded : plan.total ≤ Text.word64)
    (taken : (office.history .taken trace).map Envelope.seq? =
      plan.marks plan.total plan.sentinels) {number : Nat} (inPlan : number < plan.total) :
    ∃ id unit, (office.deeds .taken trace).filter
      (fun deed => deed.2.seq? == some (UInt64.ofNat number)) = [(id, .unit unit)] := by
  have once : ((office.deeds .taken trace).filter
      fun deed => deed.2.seq? == some (UInt64.ofNat number)).length = 1 := by
    rw [← List.countP_eq_length_filter, ← plan.count_marks bounded inPlan, ← taken,
      Office.history, List.map_map, List.count_eq_countP, List.countP_map]
    rfl
  obtain ⟨⟨id, envelope⟩, only⟩ := List.length_eq_one_iff.mp once
  have member : (id, envelope) ∈ (office.deeds .taken trace).filter
      fun deed => deed.2.seq? == some (UInt64.ofNat number) := by
    rw [only]
    exact List.mem_singleton.mpr rfl
  have numbered := (List.mem_filter.mp member).2
  cases envelope with
  | unit unit => exact ⟨id, unit, only⟩
  | stop => contradiction

/-- Nothing is lost or taken twice between a generator and its workers, and they cannot
get stuck, whatever the order of their steps: what is taken is always the beginning of all
units and then all requests to stop; every worker takes units, and behind them one request
to stop exactly if it has ended; some task can go on until all have ended, and no worker
waits for an item that does not come.  At the end every unit was taken by one worker. -/
theorem handoff_of_run
    (manned : 1 ≤ config.senderWorkers) (roomy : 1 ≤ config.queueCapacity)
    (stops : plan.sentinels = config.senderWorkers) (bounded : plan.total ≤ Text.word64)
    (run : mainPhase.Run (rules false) (beginning config plan source [] false true view)
      trace last) :
    (office.history .taken trace).map Envelope.seq? <+:
      plan.seqs.map some ++ List.replicate config.senderWorkers none ∧
    (∀ (id : TaskId) worker, last.tasks[id]? = some (.worker worker) →
      ∃ units : List OutboundUnit, office.takes id trace =
        units.map .unit ++ if worker.phase.isOver then [.stop] else []) ∧
    ((∃ task ∈ last.tasks, task.isOver = false) → ∃ id, mainPhase.CanGoOn last id) ∧
    (∀ (id : TaskId) worker, last.tasks[id]? = some (.worker worker) →
      worker.phase.isOver = false → last.common.generated.isSome = true →
        last.common.desk.queue.items ≠ []) ∧
    ((∀ task ∈ last.tasks, task.isOver = true) →
      (office.history .taken trace).map Envelope.seq? =
        plan.seqs.map some ++ List.replicate config.senderWorkers none ∧
      last.common.desk.queue.items = [] ∧
      last.common.generated = some ⟨plan.total, false⟩ ∧
      ∀ number < plan.total, ∃ id unit, (office.deeds .taken trace).filter
        (fun deed => deed.2.seq? == some (UInt64.ofNat number)) = [(id, .unit unit)]) := by
  have handed := handed_of_run run manned stops bounded
  have planned : plan.marks plan.total plan.sentinels =
      plan.seqs.map some ++ List.replicate config.senderWorkers none := by
    rw [GeneratorPlan.marks, stops,
      List.take_of_length_le (Nat.le_of_eq GeneratorPlan.length_seqs)]
  rw [← planned]
  refine ⟨?_, handed.portioned, ?_, ?_, ?_⟩
  · obtain ⟨generator, stream⟩ := handed.kept.stream
    exact (List.prefix_append _ _).trans stream.fed.isPrefix
  · rintro ⟨task, member, atWork⟩
    exact exists_canGoOn handed.locked handed.calm handed.kept roomy member atWork
  · intro id worker found atWork ended
    exact handed.sated.items_ne_nil handed.kept stops found atWork ended
  · intro finished
    obtain ⟨taken, nothing, reported⟩ := handed.complete manned stops finished
    refine ⟨taken, nothing, reported, ?_⟩
    intro number inPlan
    exact exists_dequeue bounded taken inPlan

/-- One unit and two requests to stop. -/
def shortPlan : GeneratorPlan := ⟨1, 2, #["Message-1"], ⟨1, 1⟩, ⟨1, 1⟩⟩

/-- Two workers behind a queue with one place. -/
def narrow : Config :=
  { Config.standard with senderWorkers := 2, queueCapacity := 1 }

/-- The second worker is told to stop while the first one still delivers the unit. -/
def narrowCourse : List (Cue RunState RunTask) :=
  List.replicate 2 (Cue.move 0 0) ++ List.replicate 2 (Cue.move 1 0) ++
    List.replicate 2 (Cue.move 0 0) ++ List.replicate 2 (Cue.move 2 0) ++
    List.replicate 2 (Cue.move 0 0) ++ List.replicate 5 (Cue.move 1 0) ++
    [Cue.answer 1 (.connected 0), Cue.move 1 0, Cue.move 1 0, Cue.answer 1 .done, Cue.move 1 0,
      Cue.move 1 0]

theorem handoff_of_run_of_narrow :
    ∃ source view trace last,
      mainPhase.Run (rules false) (beginning narrow shortPlan source [] false true view)
        trace last ∧
      1 ≤ narrow.senderWorkers ∧ 1 ≤ narrow.queueCapacity ∧
      shortPlan.sentinels = narrow.senderWorkers ∧ shortPlan.total ≤ Text.word64 ∧
      (office.history .taken trace).map Envelope.seq? = [some 0, none, none] ∧
      last.common.desk.queue.items = [] ∧ last.common.generated = some ⟨1, false⟩ := by
  let source : RandomSource := .scripted [] 0
  let view : View := ⟨0, fun _ => true⟩
  have replayed : (mainPhase.replay (fun _ transition => transition.act.isInner) []
      (beginning narrow shortPlan source [] false true view) narrowCourse).any
      (fun ending => ending.2.tasks.all RunTask.isOver) = true := by
    decide +kernel
  obtain ⟨trace, last, run, shown⟩ :=
    System.exists_run_of_replay (rules_of_isInner false) replayed
  have finished : ∀ task ∈ last.tasks, task.isOver = true := List.all_eq_true.mp shown
  obtain ⟨_, _, _, _, atEnd⟩ := handoff_of_run (by decide) (by decide) rfl (by decide) run
  obtain ⟨taken, nothing, reported, _⟩ := atEnd finished
  exact ⟨source, view, trace, last, run, by decide, by decide, rfl, by decide, taken, nothing,
    reported⟩

end MainPhase

end RoomLoad
