import RoomLoad.Proofs.Shutdown.Winding

/-!
# A run that is asked to stop comes to its end

Workers stop promptly, each with every unit that it took on its account once; a generator
that nobody takes anything from any more reports what it has handed over; and nobody waits
forever.  The queue may hold anything at the beginning, and others may fill it as well.
-/

namespace RoomLoad

namespace MainPhase

variable {trace : List (Transition RunState RunTask)} {transition : Transition RunState RunTask}
  {before after situation : Situation RunState RunTask} {act : Act RunTask} {config : Config}
  {plan : GeneratorPlan} {producer id : TaskId}

/-- The account of a worker: what it took it has in hand, has sent or has abandoned. -/
structure Balanced (id : TaskId) (trace : List (Transition RunState RunTask)) (worker : Worker) :
    Prop where
  whole : ∀ seq, worker.pending seq + worker.entered seq +
    (office.own .sent id trace).count seq + (office.own .abandoned id trace).count seq =
      ((office.own .taken id trace).filterMap Envelope.seq?).count seq
  failed : office.own .failed id trace = office.own .abandoned id trace
  sent : worker.report.sent = (office.own .sent id trace).length
  abandoned : worker.report.abandoned = (office.own .abandoned id trace).length

theorem balanced_start (policy : RetryPolicy) : Balanced id [] (.start policy) := by
  constructor
  case whole =>
    intro seq
    simp [Office.own, Office.deeds, Worker.start, Worker.pending, Worker.entered]
  case failed => rfl
  case sent => rfl
  case abandoned => rfl

theorem Balanced.of_others {worker : Worker} (balanced : Balanced id trace worker)
    (others : transition.act.task? ≠ some id) : Balanced id (trace ++ [transition]) worker := by
  have same : ∀ {α : Type} (sight : Sight α),
      office.own sight id (trace ++ [transition]) = office.own sight id trace :=
    fun sight => Office.own_append_of_ne sight others
  constructor
  case whole => simpa only [same] using balanced.whole
  case failed => simpa only [same] using balanced.failed
  case sent => simpa only [same] using balanced.sent
  case abandoned => simpa only [same] using balanced.abandoned

theorem Balanced.of_works {worker next : Worker} {now : Instant}
    (balanced : Balanced id trace worker)
    (works : office.worked? transition = some (id, worker, next))
    (advances : worker.Advances now transition.before.common.desk transition.after.common.desk
      next) : Balanced id (trace ++ [transition]) next := by
  have grown : ∀ {α : Type} (sight : Sight α), office.own sight id (trace ++ [transition]) =
      office.own sight id trace ++
        (sight transition.before.common.desk worker transition.after.common.desk next).toList := by
    intro α sight
    rw [Office.own_append_of_works sight works, if_pos rfl]
    rfl
  constructor
  case whole =>
    intro seq
    have whole := balanced.whole seq
    have units := advances.units_balance seq
    simp only [grown, List.count_append, List.filterMap_append]
    omega
  case failed => rw [grown, grown, balanced.failed, advances.failed_eq_abandoned]
  case sent => rw [grown, List.length_append, ← balanced.sent, advances.report_sent]
  case abandoned => rw [grown, List.length_append, ← balanced.abandoned, advances.report_abandoned]

theorem Balanced.disposed {worker : Worker} (balanced : Balanced id trace worker)
    (finished : worker.phase.isOver = true) :
    (office.own .sent id trace ++ office.own .abandoned id trace).Perm
      ((office.own .taken id trace).filterMap Envelope.seq?) := by
  rw [List.perm_iff_count]
  intro seq
  have whole := balanced.whole seq
  have nothing := WorkerPhase.seq?_of_isOver finished
  simp only [Worker.pending, Worker.entered, nothing, reduceCtorEq, and_false, if_false] at whole
  rw [List.count_append]
  omega

/-- What is left for a conductor to do, together with what it has done since the run was
asked to stop. -/
def Concludes (config : Config) (id : TaskId) (trace : List (Transition RunState RunTask))
    (phase : ConductorPhase) : Prop :=
  stepsOf id (sinceStop trace) + Conductor.stepsLeft config phase ≤
    12 + 6 * (config.rooms.high.toNat - config.rooms.low.toNat)

/-- What is kept throughout a run that may be asked to stop. -/
structure Orderly (config : Config) (plan : GeneratorPlan) (producer : TaskId)
    (trace : List (Transition RunState RunTask)) (situation : Situation RunState RunTask) :
    Prop where
  locked : Locked situation
  staffed : Staffed config producer situation
  books : Books situation
  prompt : Prompt trace situation
  balanced : ∀ (id : TaskId) worker, situation.tasks[id]? = some (.worker worker) →
    Balanced id trace worker
  failures : situation.common.desk.ledger.metrics.failure =
    (office.history .abandoned trace).length
  supplies : ∀ (id : TaskId) generator, situation.tasks[id]? = some (.generator generator) →
    Supplies plan id trace generator
  concludes : ∀ (id : TaskId) phase, situation.tasks[id]? = some (.conductor phase) →
    Concludes config id trace phase

private theorem failures_of_goes
    (failures : before.common.desk.ledger.metrics.failure =
      (office.history .abandoned trace).length)
    (goes : Goes before act after) :
    after.common.desk.ledger.metrics.failure =
      (office.history .abandoned (trace ++ [⟨before, act, after⟩])).length := by
  cases goes with
  | idles idle frames =>
      rw [Office.history_append_of_others _ (worked_of_idle idle), frames.failures]
      exact failures
  | conducts acts found goes =>
      rw [Office.history_append_of_others _ (worked_of_others acts found rfl)]
      exact goes.advances.desk_eq.2.2.2.2.2.2.2.2.trans failures
  | generates acts found =>
      rw [Office.history_append_of_others _ (worked_of_others acts found rfl)]
      exact failures
  | works acts found goes =>
      rw [Office.history_append_of_works _ (worked_of_works acts found), List.length_append,
        ← failures]
      exact goes.advances.metrics_failure

private theorem Concludes.of_acts {phase next : ConductorPhase} {later : RunState}
    (concludes : Concludes config id trace phase) (prompt : Prompt trace before)
    (same : before.common.config = config) (acts : act.task? = some id)
    (goes : Conductor.Goes before.view id before.common phase act.answer? later next) :
    Concludes config id (trace ++ [⟨before, act, after⟩]) next := by
  unfold Concludes at concludes ⊢
  have less := goes.stepsLeft_lt
  rw [same] at less
  -- a drain may look and sleep any number of times, but only until the run is asked to stop
  cases asked : before.common.desk.shutdown with
  | false =>
      rw [prompt.calm asked, stepsOf, List.countP_nil] at concludes
      rw [sinceStop_append_of_calm asked, prompt.calm asked, stepsOf, List.countP_nil]
      rcases less with fewer | ⟨deadline, _, _, _, rfl⟩
      · omega
      · rw [Conductor.stepsLeft]
        omega
  | true =>
      rw [sinceStop_append_of_asked asked, stepsOf_append_of_acts acts]
      rcases less with fewer | ⟨_, _, calm, _⟩
      · omega
      · rw [asked] at calm
        contradiction

private theorem Concludes.of_others {phase : ConductorPhase}
    (concludes : Concludes config id trace phase)
    (others : transition.act.task? ≠ some id) :
    Concludes config id (trace ++ [transition]) phase := by
  unfold Concludes at concludes ⊢
  cases asked : transition.before.common.desk.shutdown with
  | false =>
      rw [sinceStop_append_of_calm asked]
      exact concludes
  | true =>
      rw [sinceStop_append_of_asked asked, stepsOf_append_of_ne others]
      exact concludes

theorem Orderly.step (orderly : Orderly config plan producer trace before)
    (step : mainPhase.Step before act after) (allowed : bustle trace ⟨before, act, after⟩) :
    Orderly config plan producer (trace ++ [⟨before, act, after⟩]) after := by
  have goes := goes_of_step step (discreet_of_bustle allowed step)
  constructor
  case locked => exact orderly.locked.goes goes
  case staffed => exact orderly.staffed.goes goes
  case books => exact orderly.books.goes goes
  case prompt => exact orderly.prompt.step step allowed
  case balanced =>
    intro id next found
    rcases goes.worker found with ⟨others, same⟩ | ⟨worker, desk, acts, present, works, rfl⟩
    · exact (orderly.balanced id next same).of_others others
    · exact (orderly.balanced id worker present).of_works (worked_of_works acts present)
        works.advances
  case failures => exact failures_of_goes orderly.failures goes
  case supplies =>
    intro id next found
    rcases goes.generator found with ⟨others, same⟩ | ⟨own, queue, acts, present, advances, rfl⟩
    · exact (orderly.supplies id next same).of_others others
    · exact (orderly.supplies id own present).of_acts acts advances
  case concludes =>
    intro id next found
    rcases goes.conductor found with ⟨others, same⟩ | ⟨own, later, acts, present, conducts, rfl⟩
    · exact (orderly.concludes id next same).of_others others
    · exact (orderly.concludes id own present).of_acts orderly.prompt
        orderly.staffed.config_eq acts conducts

/-- Workers and a generator before a queue, and a conductor if they are to wait for one. -/
def gathering (config : Config) (conducted : Bool) (plan : GeneratorPlan)
    (source : RandomSource) (policies : List RetryPolicy) (queue : UnitQueue) (shutdown : Bool)
    (view : View) : Situation RunState RunTask where
  common := { RunState.start config shutdown with
    desk := .fresh queue shutdown
    launched := !conducted }
  tasks := (if conducted then [.conductor .starting] else []) ++
    .generator (plan.start source) :: policies.map fun policy => .worker (.start policy)
  view := view

def place (conducted : Bool) : TaskId := if conducted then 1 else 0

variable {conducted shutdown : Bool} {source : RandomSource} {policies : List RetryPolicy}
  {queue : UnitQueue} {view : View} {last : Situation RunState RunTask}

private theorem of_found_gathering {task : RunTask}
    (found : (gathering config conducted plan source policies queue shutdown view).tasks[id]? =
      some task) :
    (conducted = true ∧ id = 0 ∧ task = .conductor .starting) ∨
      (id = place conducted ∧ task = .generator (plan.start source)) ∨
      ∃ policy ∈ policies, task = .worker (.start policy) := by
  have behind : ∀ offset : Nat,
      (policies.map fun policy => RunTask.worker (.start policy))[offset]? = some task →
        ∃ policy ∈ policies, task = .worker (.start policy) := by
    intro offset present
    obtain ⟨policy, member, rfl⟩ := List.mem_map.mp (List.mem_of_getElem? present)
    exact ⟨policy, member, rfl⟩
  cases conducted with
  | false =>
      cases id with
      | zero =>
          cases found
          exact .inr (.inl ⟨rfl, rfl⟩)
      | succ id => exact .inr (.inr (behind id found))
  | true =>
      cases id with
      | zero =>
          cases found
          exact .inl ⟨rfl, rfl, rfl⟩
      | succ id =>
          cases id with
          | zero =>
              cases found
              exact .inr (.inl ⟨rfl, rfl⟩)
          | succ id => exact .inr (.inr (behind id found))

private theorem sum_gathering (measure : Worker → Nat) :
    office.sum measure (gathering config conducted plan source policies queue shutdown view) =
      total (fun policy => measure (.start policy)) policies := by
  have crew : total (fun task => (office.worker? task).elim 0 measure)
      (policies.map fun policy => RunTask.worker (.start policy)) =
        total (fun policy => measure (.start policy)) policies :=
    total_map _ _ policies
  rw [Office.sum, gathering, total_append, total, crew]
  cases conducted <;> simp [total, office, RunTask.worker?]

theorem staffed_gathering
    (manned : conducted = true →
      config.validate = .ok () ∧ config.senderWorkers ≤ policies.length) :
    Staffed config (place conducted)
      (gathering config conducted plan source policies queue shutdown view) := by
  constructor
  case config_eq => rfl
  case generator =>
    refine ⟨plan.start source, ?_, rfl⟩
    cases conducted <;> rfl
  case only =>
    intro id generator found
    rcases of_found_gathering found with ⟨_, _, same⟩ | ⟨here, _⟩ | ⟨_, _, same⟩
    · contradiction
    · exact here
    · contradiction
  case first =>
    intro id phase found
    rcases of_found_gathering found with ⟨_, first, _⟩ | ⟨_, same⟩ | ⟨_, _, same⟩
    · exact first
    · contradiction
    · contradiction
  case standing =>
    intro id phase found
    rcases of_found_gathering found with ⟨rfl, _, same⟩ | ⟨_, same⟩ | ⟨_, _, same⟩
    · cases same
      exact ⟨(manned rfl).1, rfl⟩
    · contradiction
    · contradiction
  case conducted =>
    intro waits
    cases conducted with
    | false => contradiction
    | true => exact ⟨.starting, rfl⟩
  case idle =>
    intro _ id worker found
    rcases of_found_gathering found with ⟨_, _, same⟩ | ⟨_, same⟩ | ⟨_, _, same⟩
    · contradiction
    · contradiction
    · cases same
      rfl
  case enough =>
    intro id phase found
    rcases of_found_gathering found with ⟨rfl, _, _⟩ | ⟨_, same⟩ | ⟨_, _, same⟩
    · rw [sum_gathering, total_const, Nat.mul_one]
      exact (manned rfl).2
    · contradiction
    · contradiction

theorem locked_gathering :
    Locked (gathering config conducted plan source policies queue shutdown view) := by
  apply CreationLock.serves_of_away
  intro task member
  obtain ⟨id, found⟩ := List.mem_iff_getElem?.mp member
  rcases of_found_gathering found with ⟨_, _, rfl⟩ | ⟨_, rfl⟩ | ⟨_, _, rfl⟩
  · rfl
  · rfl
  · rfl

theorem supplies_gathering {generator : Generator}
    (found : (gathering config conducted plan source policies queue shutdown view).tasks[id]? =
      some (.generator generator)) : Supplies plan id [] generator := by
  rcases of_found_gathering found with ⟨_, _, same⟩ | ⟨_, same⟩ | ⟨_, _, same⟩
  · contradiction
  · cases same
    exact supplies_start
  · contradiction

private theorem orderly_gathering
    (patient : ∀ policy ∈ policies,
      0 < policy.base.nanos ∧ policy.base.nanos ≤ policy.cap.nanos)
    (receivers : queue.receivers = policies.length)
    (manned : conducted = true →
      config.validate = .ok () ∧ config.senderWorkers ≤ policies.length) :
    Orderly config plan (place conducted) []
      (gathering config conducted plan source policies queue shutdown view) := by
  have start : ∀ (id : TaskId) worker,
      (gathering config conducted plan source policies queue shutdown view).tasks[id]? =
        some (.worker worker) → ∃ policy ∈ policies, worker = .start policy := by
    intro id worker found
    rcases of_found_gathering found with ⟨_, _, same⟩ | ⟨_, same⟩ | ⟨policy, member, same⟩
    · contradiction
    · contradiction
    · cases same
      exact ⟨policy, member, rfl⟩
  have idle : ∀ (measure : Worker → Nat), (∀ policy, measure (.start policy) = 0) →
      office.sum measure
        (gathering config conducted plan source policies queue shutdown view) = 0 := by
    intro measure nothing
    rw [sum_gathering, total_eq_zero_iff]
    exact fun policy _ => nothing policy
  constructor
  case locked => exact locked_gathering
  case staffed => exact staffed_gathering manned
  case books =>
    constructor
    case receivers =>
      rw [sum_gathering]
      exact receivers.trans ((Nat.mul_one _).symm.trans (total_const 1 policies).symm)
    case ended => exact (idle _ fun _ => rfl).symm
    case sent => exact (idle _ fun _ => rfl).symm
    case abandoned => exact (idle _ fun _ => rfl).symm
    case interrupted => exact fun _ => idle _ fun _ => rfl
  case prompt =>
    constructor
    case calm => exact fun _ => rfl
    case within => exact fun id worker _ => within_of_nil rfl worker
    case patient =>
      intro id worker found
      obtain ⟨policy, member, rfl⟩ := start id worker found
      exact patient policy member
  case balanced =>
    intro id worker found
    obtain ⟨policy, _, rfl⟩ := start id worker found
    exact balanced_start policy
  case failures => rfl
  case supplies => exact fun id generator => supplies_gathering
  case concludes =>
    intro id phase found
    rcases of_found_gathering found with ⟨_, _, same⟩ | ⟨_, same⟩ | ⟨_, _, same⟩
    · cases same
      exact Nat.le_of_eq (Nat.zero_add _)
    · contradiction
    · contradiction

theorem orderly_of_run
    (patient : ∀ policy ∈ policies,
      0 < policy.base.nanos ∧ policy.base.nanos ≤ policy.cap.nanos)
    (receivers : queue.receivers = policies.length)
    (manned : conducted = true →
      config.validate = .ok () ∧ config.senderWorkers ≤ policies.length)
    (run : mainPhase.Run bustle
      (gathering config conducted plan source policies queue shutdown view) trace last) :
    Orderly config plan (place conducted) trace last := by
  induction run with
  | rest => exact orderly_gathering patient receivers manned
  | step run step allowed orderly => exact orderly.step step allowed

/-- Nobody is left to take anything, and the generator comes to its end with what it has
handed over. -/
structure Deserted (producer : TaskId) (earlier : Nat) (number : Nat)
    (trace : List (Transition RunState RunTask)) (situation : Situation RunState RunTask) :
    Prop where
  launched : situation.common.launched = true
  receivers : situation.common.desk.queue.receivers = 0
  winds : ∃ generator, situation.tasks[producer]? = some (.generator generator) ∧
    stepsOf producer trace + generator.lastSteps ≤ earlier + 2 ∧
      (generator.next? = some number ∨ generator.report? = some ⟨number, true⟩)

theorem Goes.receivers_le (goes : Goes before act after) :
    after.common.desk.queue.receivers ≤ before.common.desk.queue.receivers := by
  cases goes with
  | idles acts frames => exact Nat.le_of_eq frames.receivers
  | conducts acts found goes =>
      exact Nat.le_of_eq (congrArg UnitQueue.receivers goes.advances.desk_eq.1)
  | generates acts found advances => exact Nat.le_of_eq advances.receivers_eq
  | works acts found goes =>
      have receivers := goes.advances.receivers_eq
      split at receivers
      case isTrue => exact Nat.le_trans (Nat.le_of_eq receivers) (Nat.sub_le _ _)
      case isFalse => exact Nat.le_of_eq receivers

theorem Deserted.goes {earlier number : Nat}
    (deserted : Deserted producer earlier number trace before)
    (staffed : Staffed config producer after) (goes : Goes before act after) :
    Deserted producer earlier number (trace ++ [⟨before, act, after⟩]) after := by
  obtain ⟨generator, found, steps, left⟩ := deserted.winds
  constructor
  case launched => exact goes.launched_stays deserted.launched
  case receivers =>
    have fewer := goes.receivers_le
    rw [deserted.receivers] at fewer
    exact Nat.le_zero.mp fewer
  case winds =>
    obtain ⟨next, later, _⟩ := staffed.generator
    refine ⟨next, later, ?_⟩
    rcases goes.generator later with ⟨others, same⟩ | ⟨own, queue, acts, present, advances, rfl⟩
    · rw [found] at same
      cases same
      rw [stepsOf_append_of_ne others]
      exact ⟨steps, left⟩
    · rw [found] at present
      cases present
      rcases left with more | reported
      · obtain ⟨fewer, ends⟩ := advances.winds_up deserted.receivers more
        rw [stepsOf_append_of_acts acts]
        exact ⟨by omega, ends⟩
      · rw [advances.report?_eq_none] at reported
        contradiction

private theorem Orderly.launched (orderly : Orderly config plan producer trace situation)
    (finished : ∀ (id : TaskId) worker, situation.tasks[id]? = some (.worker worker) →
      worker.phase.isOver = true) : situation.common.launched = true := by
  cases waits : situation.common.launched with
  | true => rfl
  | false =>
      obtain ⟨phase, found⟩ := orderly.staffed.conducted waits
      have enough := orderly.staffed.enough 0 phase found
      have manned := (Config.of_validate (orderly.staffed.standing 0 phase found).1).2.1
      have none : office.sum (fun _ => 1) situation = 0 := by
        apply Office.sum_eq_zero
        intro task member worker isWorker
        obtain ⟨id, present⟩ := List.getElem?_of_mem member
        cases task with
        | worker own =>
            cases isWorker
            have done := finished id worker present
            rw [orderly.staffed.idle waits id worker present] at done
            contradiction
        | _ => contradiction
      omega

theorem Orderly.receivers_eq (orderly : Orderly config plan producer trace situation)
    (finished : ∀ (id : TaskId) worker, situation.tasks[id]? = some (.worker worker) →
      worker.phase.isOver = true) : situation.common.desk.queue.receivers = 0 := by
  rw [orderly.books.receivers]
  apply Office.sum_eq_zero
  intro task member worker isWorker
  obtain ⟨id, present⟩ := List.getElem?_of_mem member
  cases task with
  | worker own =>
      cases isWorker
      rw [Worker.atWork, finished id worker present]
      rfl
  | _ => contradiction

/-- From a moment at which all workers have come to their ends, a generator that has a unit
left takes two more steps at most, and reports what it has handed over. -/
private theorem winds_up_of_run {start : Situation RunState RunTask}
    (orderly : ∀ {trace last}, mainPhase.Run bustle start trace last →
      Orderly config plan producer trace last)
    (run : mainPhase.Run bustle start trace last)
    {earlier later : List (Transition RunState RunTask)} (parts : trace = earlier ++ later)
    (finished : ∀ (id : TaskId) worker,
      (System.reached start earlier).tasks[id]? = some (.worker worker) →
        worker.phase.isOver = true)
    {generator : Generator} {number : Nat}
    (found : (System.reached start earlier).tasks[id]? = some (.generator generator))
    (left : generator.next? = some number) :
    mainPhase.CanGoOn (System.reached start earlier) id ∧
      number = ((fedBy id earlier).filterMap Envelope.seq?).length ∧
      ∃ own, last.tasks[id]? = some (.generator own) ∧ stepsOf id later + own.lastSteps ≤ 2 ∧
        (own.next? = some number ∨ own.report? = some ⟨number, true⟩) := by
  have here := orderly (run.part parts)
  have launched := here.launched finished
  have receivers := here.receivers_eq finished
  obtain rfl := here.staffed.only id generator found
  have atWork : generator.report? = none := by
    unfold Generator.next? at left
    unfold Generator.report?
    split at left
    case h_1 making => rw [making]
    case h_2 holding => rw [holding]
    case h_3 => contradiction
  have begins : Deserted id (stepsOf id earlier) number earlier
      (System.reached start earlier) := by
    refine ⟨launched, receivers, generator, found, Nat.add_le_add_left ?_ _, .inl left⟩
    unfold Generator.lastSteps
    split <;> decide
  -- the invariant holds from the middle of the run on, so the induction starts there
  have ends : Deserted id (stepsOf id earlier) number trace last := by
    refine System.Run.since ?_ run parts begins
    intro trace before act after run step allowed deserted
    exact deserted.goes (orderly (.step run step allowed)).staffed
      (goes_of_step step (discreet_of_bustle allowed step))
  obtain ⟨own, foundLater, steps, result⟩ := ends.winds
  refine ⟨canGoOn_of_generator launched found atWork (.inl receivers),
    (here.supplies id generator found).length_of_next? left, own, foundLater, ?_, result⟩
  have apart : stepsOf id trace = stepsOf id earlier + stepsOf id later := by
    rw [parts, stepsOf, List.countP_append, stepsOf, stepsOf]
  omega

/-- Whatever a queue holds, however channels behave and whenever a run is asked to stop:
every worker takes one more item and begins one more try at most, takes a bounded number of
steps, and when it ends it has sent or abandoned each unit that it took; the metrics count as
failures what was abandoned.  A generator reports what the queue has accepted from it, and
after all workers have ended it stops within two steps if it has a unit left.  After the
request to stop somebody can go on until everybody has ended. -/
theorem stops_of_run
    (patient : ∀ policy ∈ policies,
      0 < policy.base.nanos ∧ policy.base.nanos ≤ policy.cap.nanos)
    (receivers : queue.receivers = policies.length)
    (manned : conducted = true →
      config.validate = .ok () ∧ config.senderWorkers ≤ policies.length)
    (run : mainPhase.Run bustle
      (gathering config conducted plan source policies queue shutdown view) trace last) :
    (∀ (id : TaskId) worker, last.tasks[id]? = some (.worker worker) →
      (office.own .taken id (sinceStop trace)).length ≤ 1 ∧
      (office.own .tried id (sinceStop trace)).length ≤ 1 ∧
      (office.own .transmitted id (sinceStop trace)).length ≤ 1 ∧
      stepsOf id (sinceStop trace) ≤ 18 ∧
      (worker.phase.isOver = true →
        (office.own .sent id trace ++ office.own .abandoned id trace).Perm
          ((office.own .taken id trace).filterMap Envelope.seq?) ∧
        office.own .failed id trace = office.own .abandoned id trace ∧
        worker.report.sent = (office.own .sent id trace).length ∧
        worker.report.abandoned = (office.own .abandoned id trace).length)) ∧
    last.common.desk.ledger.metrics.failure = (office.history .abandoned trace).length ∧
    (∀ (id : TaskId) generator, last.tasks[id]? = some (.generator generator) →
      stepsOf id trace ≤ 2 * plan.total + plan.sentinels + 2 ∧
      ∀ report, generator.report? = some report →
        report.produced = ((fedBy id trace).filterMap Envelope.seq?).length) ∧
    (∀ (id : TaskId) phase, last.tasks[id]? = some (.conductor phase) →
      stepsOf id (sinceStop trace) ≤
        12 + 6 * (config.rooms.high.toNat - config.rooms.low.toNat)) ∧
    (∀ earlier later, trace = earlier ++ later →
      let moment := System.reached
        (gathering config conducted plan source policies queue shutdown view) earlier
      (∀ (id : TaskId) worker, moment.tasks[id]? = some (.worker worker) →
        worker.phase.isOver = true) →
      ∀ (id : TaskId) generator number, moment.tasks[id]? = some (.generator generator) →
        generator.next? = some number →
          mainPhase.CanGoOn moment id ∧
          number = ((fedBy id earlier).filterMap Envelope.seq?).length ∧
          ∃ own, last.tasks[id]? = some (.generator own) ∧
            stepsOf id later + own.lastSteps ≤ 2 ∧
            (own.next? = some number ∨ own.report? = some ⟨number, true⟩)) ∧
    (last.common.desk.shutdown = true → (∃ task ∈ last.tasks, task.isOver = false) →
      ∃ id, mainPhase.CanGoOn last id) := by
  have orderly := orderly_of_run patient receivers manned run
  refine ⟨?_, orderly.failures, ?_, ?_, ?_, ?_⟩
  · intro id worker found
    obtain ⟨takes, tries, sends, steps⟩ := orderly.prompt.within id worker found
    have balanced := orderly.balanced id worker found
    refine ⟨by omega, by omega, by omega, by omega, ?_⟩
    intro finished
    exact ⟨balanced.disposed finished, balanced.failed, balanced.sent, balanced.abandoned⟩
  · intro id generator found
    have supplies := orderly.supplies id generator found
    have steps := supplies.steps
    exact ⟨by omega, fun report => supplies.length_of_report?⟩
  · intro id phase found
    have concludes : _ ≤ _ := orderly.concludes id phase found
    omega
  · intro earlier later parts moment finished id generator number found left
    exact winds_up_of_run (fun run => orderly_of_run patient receivers manned run) run parts
      finished found left
  · rintro asked ⟨task, member, atWork⟩
    apply exists_canGoOn_of_supply orderly.locked orderly.staffed orderly.books _ member atWork
    intro id worker _ _ _
    exact .inl (Worker.receive_ne_nil_of_shutdown asked)

/-- Three units for one worker with three tries each, behind a queue with one place. -/
def cramped : Config :=
  { brief with
    queueCapacity := 1
    retry := ⟨3, .ofMillis 100, .ofSecs 1⟩ }

def crampedPlan : GeneratorPlan := ⟨3, 1, #["Message-1"], ⟨1, 1⟩, ⟨1, 1⟩⟩

/-- The worker rests after a send that has failed, and the generator finds the queue full. -/
def beforeStop : List (Cue RunState RunTask) :=
  List.replicate 5 (Cue.move 0 0) ++ [Cue.answer 0 (.connected 7), Cue.move 0 0] ++
    List.replicate 2 (Cue.move 1 0) ++ List.replicate 6 (Cue.move 2 0) ++
    List.replicate 3 (Cue.move 1 0) ++ [Cue.answer 2 (.failed .notOpen), Cue.move 2 0, Cue.move 2 0]

/-- The worker goes on with another try, rests again and ends. -/
def upToEnd : List (Cue RunState RunTask) :=
  [Cue.answer 2 .done] ++ List.replicate 4 (Cue.move 2 0) ++ [Cue.answer 2 (.failed .notOpen)] ++
    List.replicate 3 (Cue.move 2 0)

/-- The generator finds nobody left, and the conductor concludes the run. -/
def behindEnd : List (Cue RunState RunTask) :=
  [Cue.move 1 0] ++ List.replicate 3 (Cue.move 0 0) ++ [Cue.answer 0 .done]

def askToStop (state : RunState) : RunState := { state with desk.shutdown := true }

/-- What may come to pass in a replay: anything that a task does by itself, and an answer if
its task has not been asked to stop. -/
def bustles (trace : List (Transition RunState RunTask))
    (transition : Transition RunState RunTask) : Bool :=
  match transition.act with
  | .answer id _ => (wasAsked id trace && sleeps transition.before id) == false
  | act => act.isInner

theorem bustle_of_bustles (trace : List (Transition RunState RunTask))
    (transition : Transition RunState RunTask) (allowed : bustles trace transition = true) :
    bustle trace transition := by
  unfold bustles at allowed
  unfold bustle
  split at allowed
  case h_1 id answer acts =>
    rw [acts]
    exact beq_iff_eq.mp allowed
  case h_2 others =>
    obtain ⟨notOutside, notBegin⟩ := Act.ne_of_isInner allowed
    split
    case h_1 outside => exact absurd outside notOutside
    case h_2 task begins => exact absurd begins (notBegin task)
    case h_3 id answer acts => exact absurd acts (others id answer)
    case h_4 => trivial

/-- Whether the worker has tried its unit once more and has ended, and the generator has a
unit left. -/
def showsDesertion (trace : List (Transition RunState RunTask))
    (moment : Situation RunState RunTask) : Bool :=
  moment.tasks.all (fun task => task.worker?.all fun worker => worker.phase.isOver) &&
    (moment.tasks[1]?.bind RunTask.generator?).any (fun own => own.next? == some 2) &&
    office.own .tried 2 (sinceStop trace) == [0] && office.history .abandoned trace == [0]

theorem stops_of_run_of_cramped :
    ∃ source view earlier later last own,
      mainPhase.Run bustle
        (gathering cramped true crampedPlan source [cramped.retry] ⟨1, .empty, 1, 1⟩ false view)
        (earlier ++ later) last ∧
      (∀ policy ∈ [cramped.retry],
        0 < policy.base.nanos ∧ policy.base.nanos ≤ policy.cap.nanos) ∧
      cramped.validate = .ok () ∧
      office.own .tried 2 (sinceStop (earlier ++ later)) = [0] ∧
      last.common.desk.ledger.metrics.failure = 1 ∧
      ((fedBy 1 earlier).filterMap Envelope.seq?).length = 2 ∧
      last.tasks[1]? = some (.generator own) ∧
      stepsOf 1 later + own.lastSteps ≤ 2 ∧
      (own.next? = some 2 ∨ own.report? = some ⟨2, true⟩) := by
  let source : RandomSource := .scripted [] 0
  let view : View := ⟨0, fun _ => true⟩
  let start :=
    gathering cramped true crampedPlan source [cramped.retry] ⟨1, .empty, 1, 1⟩ false view
  have sound : cramped.defect? = none := by decide +kernel
  have valid : cramped.validate = .ok () := by
    rw [Config.validate, sound]
  have patient : ∀ policy ∈ [cramped.retry],
      0 < policy.base.nanos ∧ policy.base.nanos ≤ policy.cap.nanos := by decide
  have stoppable : ∀ trace before, bustle trace (System.interference askToStop before) :=
    fun _ _ => Happens.stop
  have replayed : (mainPhase.replayAround bustles start beforeStop askToStop
      (upToEnd ++ behindEnd)).any
      (fun ending =>
        showsDesertion ending.1 (System.reached start (ending.1.take 31))) = true := by
    decide +kernel
  obtain ⟨trace, last, run, shown⟩ :=
    System.exists_run_of_replayAround bustle_of_bustles stoppable replayed
  have seen : showsDesertion trace (System.reached start (trace.take 31)) = true := shown
  simp only [showsDesertion, Bool.and_eq_true, beq_iff_eq] at seen
  obtain ⟨⟨⟨finished, left⟩, tried⟩, abandoned⟩ := seen
  obtain ⟨own, found, more⟩ := (Option.any_eq_true _ _).mp left
  obtain ⟨task, present, isGenerator⟩ := Option.bind_eq_some_iff.mp found
  have producing : task = .generator own := by
    cases task with
    | generator generator =>
        cases isGenerator
        rfl
    | _ => contradiction
  obtain ⟨_, failures, _, _, winding, _⟩ :=
    stops_of_run patient rfl (fun _ => ⟨valid, Nat.le_refl 1⟩) run
  have done : ∀ (id : TaskId) worker, (System.reached start (trace.take 31)).tasks[id]? =
      some (.worker worker) → worker.phase.isOver = true := by
    intro id worker here
    exact List.all_eq_true.mp finished _ (List.mem_of_getElem? here)
  obtain ⟨_, handed, next, later, steps, ends⟩ :=
    winding _ _ (List.take_append_drop 31 trace).symm done 1 own 2 (producing ▸ present)
      (beq_iff_eq.mp more)
  refine ⟨source, view, trace.take 31, trace.drop 31, last, next, ?_, patient, valid, ?_, ?_,
    handed.symm, later, steps, ends⟩
  · rw [List.take_append_drop]
    exact run
  · rw [List.take_append_drop]
    exact tried
  · rw [failures, abandoned]
    rfl

end MainPhase

end RoomLoad
