import Mathlib.Data.List.Perm.Subperm
import RoomLoad.Proofs.Faultless.Return

/-!
# How much is done before a faultless service

Every unit costs its worker seven steps, and every frame that comes makes a record.  A
conductor that waits for echoes lets an interval pass before it looks again, and it looks
only as long as it has patience.  So the steps that tasks take and the frames that come
are bounded by the settings.
-/

namespace RoomLoad

namespace Office

variable {σ τ : Type} {office : Office σ τ} {situation : Situation σ τ}
  {trace : List (Transition σ τ)}

theorem sum_le_mul {measure bound : Worker → Nat} (factor : Nat)
    (within : ∀ worker, measure worker ≤ factor * bound worker) :
    office.sum measure situation ≤ factor * office.sum bound situation := by
  rw [sum, sum]
  induction situation.tasks with
  | nil => exact Nat.zero_le _
  | cons first rest induction =>
      rw [total, total, Nat.mul_add]
      apply Nat.add_le_add _ induction
      cases office.worker? first with
      | none => exact Nat.zero_le _
      | some worker => exact within worker

theorem Custody.lengths_le (custody : office.Custody trace situation) :
    (office.history .sent trace).length ≤ (office.takenSeqs trace).length ∧
      (office.desk situation.common).ledger.correlator.recorded.length ≤
        (office.takenSeqs trace).length := by
  constructor
  · apply List.Subperm.length_le
    rw [List.subperm_ext_iff]
    intro seq _
    have whole := custody.whole seq
    omega
  · rw [← List.length_map (fun record : LatencyRecord => record.seq)]
    apply List.Subperm.length_le
    rw [List.subperm_ext_iff]
    intro seq _
    have whole := custody.whole seq
    have known := custody.known seq
    rw [← Correlator.recordsOf_eq_count]
    omega

end Office

namespace Conductor

/-- A conductor has looked for echoes as often as intervals have passed since it has begun
to wait for them. -/
def Polls (config : Config) (now rested rounds : Nat) : ConductorPhase → Prop
  | .draining deadline => ∃ begun, deadline = begun + config.drainTimeout.nanos ∧
      begun + rounds * config.drainPollInterval.nanos ≤ now
  | .pausing deadline _ => ∃ begun, deadline = begun + config.drainTimeout.nanos ∧
      begun + rounds * config.drainPollInterval.nanos ≤ rested + config.drainPollInterval.nanos
  | .clearing _ => True
  | .closing _ _ => True
  | .finished _ => True
  | _ => rounds = 0

variable {view : View} {task : TaskId} {state later : RunState} {phase next : ConductorPhase}
  {answer : Option Answer}

theorem Polls.eq_zero {config : Config} {now rested rounds : Nat}
    (polls : Polls config now rested rounds phase) (early : hasCollected phase = false) :
    rounds = 0 := by
  cases phase <;> first | exact polls | contradiction

theorem polls_of_early {config : Config} {now rested : Nat} (early : hasCollected phase = false) :
    Polls config now rested 0 phase := by
  cases phase <;> first | rfl | contradiction

/-- The next look comes an interval later. -/
theorem Polls.pauses {config : Config} {now rested rounds : Nat} {deadline : Instant}
    (polls : Polls config now rested rounds (.draining deadline)) (early : now < deadline) :
    (rounds + 1) * config.drainPollInterval.nanos <
        config.drainTimeout.nanos + config.drainPollInterval.nanos ∧
      Polls config now now (rounds + 1) (.pausing deadline config.drainPollInterval) := by
  obtain ⟨begun, rfl, passed⟩ := polls
  rw [Nat.succ_mul]
  constructor
  · exact Nat.add_lt_add_right (Nat.lt_of_add_lt_add_left (Nat.lt_of_le_of_lt passed early)) _
  · refine ⟨begun, rfl, ?_⟩
    rw [Nat.succ_mul, ← Nat.add_assoc]
    exact Nat.add_le_add_right passed _

theorem Polls.mono {config : Config} {now later rested rounds : Nat}
    (polls : Polls config now rested rounds phase) (after : now ≤ later) :
    Polls config later rested rounds phase := by
  cases phase with
  | draining deadline =>
      obtain ⟨begun, isDeadline, passed⟩ := polls
      exact ⟨begun, isDeadline, Nat.le_trans passed after⟩
  | _ => exact polls

private theorem polls_of_goes {rested rounds : Nat}
    (goes : Goes view task state phase answer later next)
    (polls : Polls state.config view.now rested rounds phase)
    (fewer : stepsLeft state.config next < stepsLeft state.config phase)
    (onTime : ∀ deadline interval, phase = .pausing deadline interval →
      view.now = rested + state.config.drainPollInterval.nanos) :
    Polls state.config view.now view.now rounds next := by
  cases goes with
  | begins here | launches here =>
      subst here
      cases polls.eq_zero rfl
      exact polls_of_early rfl
  | looks here | looksOn here =>
      subst here
      cases polls.eq_zero rfl
      exact polls_of_early hasCollected_afterLookup
  | collects here _ _ named =>
      subst here
      cases polls.eq_zero rfl
      refine ⟨view.now, eq_add_of_deadline? named, ?_⟩
      rw [Nat.zero_mul]
      exact Nat.le_refl _
  | falls here =>
      subst here
      exact polls
  | pauses here =>
      subst here
      simp [stepsLeft] at fewer
  | wakes here =>
      subst here
      obtain ⟨begun, isDeadline, passed⟩ := polls
      refine ⟨begun, isDeadline, ?_⟩
      rw [onTime _ _ rfl]
      exact passed
  | refuses | hasNoPlan | isDrained | timesOut | clears | finishes => trivial

/-- Every step of a conductor brings it closer to its end, except that it looks for echoes
once for every interval that it has patience for. -/
theorem Goes.polls {rested rounds : Nat} (goes : Goes view task state phase answer later next)
    (polls : Polls state.config view.now rested rounds phase)
    (few : rounds * state.config.drainPollInterval.nanos <
      state.config.drainTimeout.nanos + state.config.drainPollInterval.nanos)
    (onTime : ∀ deadline interval, phase = .pausing deadline interval →
      view.now = rested + state.config.drainPollInterval.nanos) :
    ∃ more, more * state.config.drainPollInterval.nanos <
        state.config.drainTimeout.nanos + state.config.drainPollInterval.nanos ∧
      Polls state.config view.now view.now more next ∧
      stepsLeft state.config next + 1 + 2 * rounds ≤ stepsLeft state.config phase + 2 * more := by
  rcases goes.stepsLeft_lt with fewer | ⟨deadline, rfl, _, early, rfl⟩
  · exact ⟨rounds, few, polls_of_goes goes polls fewer onTime, by omega⟩
  · obtain ⟨again, next⟩ := polls.pauses early
    refine ⟨rounds + 1, again, next, ?_⟩
    rw [stepsLeft, stepsLeft]
    omega

end Conductor

namespace MainPhase

variable {stubs : Stubs} {trace : List (Transition RunState RunTask)}
  {transition : Transition RunState RunTask} {before after situation : Situation RunState RunTask}
  {act : Act RunTask} {id : TaskId} {config : Config} {plan : GeneratorPlan}
  {phase next : ConductorPhase}

/-- How many steps tasks have taken and how many frames have come. -/
def workIn (trace : List (Transition RunState RunTask)) : Nat :=
  trace.countP fun transition => transition.act.isWork

theorem workIn_append_of_work (work : transition.act.isWork = true) :
    workIn (trace ++ [transition]) = workIn trace + 1 := by
  simp [workIn, List.countP_append, work]

theorem workIn_append_of_idle (idle : transition.act.isWork = false) :
    workIn (trace ++ [transition]) = workIn trace := by
  simp [workIn, List.countP_append, idle]

theorem isWork_of_acts (acts : act.task? = some id) : act.isWork = true := by
  cases act <;> first | rfl | contradiction

/-- What has been done is accounted for: by the units that the workers have sent, by the
steps of the conductor and the generator, and by the records. -/
structure Spent (config : Config) (trace : List (Transition RunState RunTask))
    (situation : Situation RunState RunTask) (phase : ConductorPhase) : Prop where
  work : workIn trace =
    office.sum (fun worker => 7 * worker.report.sent + worker.phase.pace) situation +
      stepsOf 0 trace + stepsOf 1 trace + situation.common.desk.ledger.correlator.recorded.length
  rounds : ∃ rounds, rounds * config.drainPollInterval.nanos <
      config.drainTimeout.nanos + config.drainPollInterval.nanos ∧
    Conductor.Polls config situation.view.now (lastStep 0 trace) rounds phase ∧
    stepsOf 0 trace + Conductor.stepsLeft config phase ≤
      12 + 6 * (config.rooms.high.toNat - config.rooms.low.toNat) + 2 * rounds

private theorem rounds_of_others (spent : Spent config trace before phase)
    (others : transition.act.task? ≠ some 0) (later : before.view.now ≤ after.view.now) :
    ∃ rounds, rounds * config.drainPollInterval.nanos <
        config.drainTimeout.nanos + config.drainPollInterval.nanos ∧
      Conductor.Polls config after.view.now (lastStep 0 (trace ++ [transition])) rounds phase ∧
      stepsOf 0 (trace ++ [transition]) + Conductor.stepsLeft config phase ≤
        12 + 6 * (config.rooms.high.toNat - config.rooms.low.toNat) + 2 * rounds := by
  obtain ⟨rounds, few, polls, steps⟩ := spent.rounds
  rw [lastStep_append_of_ne others, stepsOf_append_of_ne others]
  exact ⟨rounds, few, polls.mono later, steps⟩

private theorem spent_of_conducts {later : RunState} (spent : Spent config trace before phase)
    (staffed : Staffed config 1 before) (acts : act.task? = some 0)
    (found : before.tasks[0]? = some (.conductor phase))
    (goes : Conductor.Goes before.view 0 before.common phase act.answer? later next)
    (onTime : ∀ deadline interval, phase = .pausing deadline interval →
      before.view.now = lastStep 0 trace + config.drainPollInterval.nanos) :
    Spent config (trace ++ [⟨before, act, before.put 0 (later, .conductor next)⟩])
      (before.put 0 (later, .conductor next)) next := by
  have others : act.task? ≠ some 1 := by
    rw [acts]
    exact nofun
  have records : later.desk.ledger.correlator = before.common.desk.ledger.correlator :=
    goes.advances.desk_eq.2.2.2.2.2.2.1
  constructor
  case work =>
    have sums := office.sum_put found (later, .conductor next)
      fun worker => 7 * worker.report.sent + worker.phase.pace
    rw [workIn_append_of_work (isWork_of_acts acts), spent.work, stepsOf_append_of_acts acts,
      stepsOf_append_of_ne others]
    show _ = _ + later.desk.ledger.correlator.recorded.length
    rw [records]
    simp only [office, RunTask.worker?, Option.elim_none] at sums ⊢
    omega
  case rounds =>
    obtain ⟨rounds, few, polls, steps⟩ := spent.rounds
    rw [← staffed.config_eq] at few polls onTime ⊢
    obtain ⟨more, fewMore, pollsMore, left⟩ := goes.polls polls few onTime
    rw [lastStep_append_of_acts acts, stepsOf_append_of_acts acts]
    refine ⟨more, fewMore, pollsMore, ?_⟩
    rw [← staffed.config_eq] at steps
    omega

private theorem spent_of_generates {generator later : Generator} {state : RunState}
    (spent : Spent config trace before phase) (acts : act.task? = some 1)
    (found : before.tasks[1]? = some (.generator generator))
    (same : state.desk.ledger = before.common.desk.ledger) :
    Spent config (trace ++ [⟨before, act, before.put 1 (state, .generator later)⟩])
      (before.put 1 (state, .generator later)) phase := by
  have others : act.task? ≠ some 0 := by
    rw [acts]
    exact nofun
  constructor
  case work =>
    have sums := office.sum_put found (state, .generator later)
      fun worker => 7 * worker.report.sent + worker.phase.pace
    rw [workIn_append_of_work (isWork_of_acts acts), spent.work, stepsOf_append_of_ne others,
      stepsOf_append_of_acts acts]
    show _ = _ + state.desk.ledger.correlator.recorded.length
    rw [same]
    simp only [office, RunTask.worker?, Option.elim_none] at sums ⊢
    omega
  case rounds => exact rounds_of_others spent others (Nat.le_refl _)

private theorem spent_of_works {known : OutboundUnit → Prop} {worker later : Worker} {desk : Desk}
    (spent : Spent config trace before phase) (acts : act.task? = some id)
    (apart : id ≠ 0 ∧ id ≠ 1) (found : before.tasks[id]? = some (.worker worker))
    (strides : worker.Strides known before.view.now before.common.desk act.answer? desk later)
    (records : desk.ledger.correlator.recorded = before.common.desk.ledger.correlator.recorded) :
    Spent config
      (trace ++ [⟨before, act,
        before.put id (RunTask.withWorker before.common desk later, .worker later)⟩])
      (before.put id (RunTask.withWorker before.common desk later, .worker later)) phase := by
  have others : ∀ other, other ≠ id → act.task? ≠ some other := by
    intro other different
    rw [acts]
    exact fun same => different (Option.some.inj same).symm
  have steps := strides.steps_eq
  constructor
  case work =>
    have sums := office.sum_put found (RunTask.withWorker before.common desk later, .worker later)
      fun worker => 7 * worker.report.sent + worker.phase.pace
    rw [workIn_append_of_work (isWork_of_acts acts), spent.work,
      stepsOf_append_of_ne (others 0 apart.1.symm), stepsOf_append_of_ne (others 1 apart.2.symm)]
    show _ = _ + desk.ledger.correlator.recorded.length
    rw [records]
    simp only [office, RunTask.worker?, Option.elim_some] at sums ⊢
    omega
  case rounds => exact rounds_of_others spent (others 0 apart.1.symm) (Nat.le_refl _)

private theorem spent_of_hears {text : String} (spent : Spent config trace before phase)
    (echoed : Echoed config stubs trace before phase)
    (listens : ∀ channel, (stubs channel).script.listens = true)
    (heard : (traffic stubs trace).letters.any
      (Letter.isIn (traffic stubs trace).stubs before.view.now text) = true) :
    Spent config
      (trace ++ [⟨before, .frame text,
        { before with common.desk := before.common.desk.receive before.view.now text }⟩])
      { before with common.desk := before.common.desk.receive before.view.now text } phase := by
  obtain ⟨seq, entry, read, found, _⟩ := echoed.exists_entry listens heard
  have others : ∀ other, (.frame text : Act RunTask).task? ≠ some other := by
    intro other acts
    contradiction
  have longer :
      (before.common.desk.receive before.view.now text).ledger.correlator.recorded.length =
        before.common.desk.ledger.correlator.recorded.length + 1 := by
    rw [Desk.receive, correlator_onAck]
    simp only [Correlator.onAck, read, found, List.length_cons]
    rfl
  constructor
  case work =>
    rw [workIn_append_of_work rfl, stepsOf_append_of_ne (others 0), stepsOf_append_of_ne (others 1),
      longer, spent.work]
    exact Nat.add_assoc _ _ _
  case rounds => exact rounds_of_others spent (others 0) (Nat.le_refl _)

private theorem spent_of_idle (spent : Spent config trace before phase)
    (idle : act.task? = none) (noWork : act.isWork = false) (tasks : after.tasks = before.tasks)
    (records : after.common.desk.ledger.correlator = before.common.desk.ledger.correlator)
    (later : before.view.now ≤ after.view.now) :
    Spent config (trace ++ [⟨before, act, after⟩]) after phase := by
  have others : ∀ other, act.task? ≠ some other := by
    intro other
    rw [idle]
    exact nofun
  constructor
  case work =>
    rw [workIn_append_of_idle noWork, stepsOf_append_of_ne (others 0),
      stepsOf_append_of_ne (others 1), records, Office.sum, tasks]
    exact spent.work
  case rounds => exact rounds_of_others spent (others 0) later

private theorem wakes_on_time {deadline : Instant} {interval : Duration} {later : RunState}
    (echoed : Echoed config stubs trace before (.pausing deadline interval))
    (goes : Conductor.Goes before.view 0 before.common (.pausing deadline interval) act.answer?
      later next)
    (relies : Relies stubs trace before 0 act.answer? (some (.sleep interval))) :
    before.view.now = lastStep 0 trace + config.drainPollInterval.nanos := by
  generalize act.answer? = answer at goes relies
  cases goes with
  | wakes here =>
      have done := relies.ended .done _ rfl rfl
      rw [← echoed.awaits.2.1]
      exact (beq_iff_eq.mp done).symm
  | _ => contradiction

private theorem Spent.step (spent : Spent config trace before phase)
    (untroubled : Untroubled config plan stubs trace before phase)
    (valid : config.validate = .ok ())
    (listens : ∀ channel, (stubs channel).script.listens = true)
    (proceeds : Proceeds stubs trace before act after)
    (found : after.tasks[0]? = some (.conductor next)) :
    Spent config (trace ++ [⟨before, act, after⟩]) after next := by
  obtain ⟨regular, paved, echoed⟩ := untroubled
  cases proceeds with
  | conducts acts present goes relies =>
      obtain rfl := regular.staffed.first _ _ present
      cases paved.found.symm.trans present
      rw [Situation.tasks_put_self present] at found
      cases found
      refine spent_of_conducts spent regular.staffed acts present goes ?_
      rintro deadline interval rfl
      exact wakes_on_time echoed goes relies
  | generates acts present =>
      obtain rfl := regular.staffed.only _ _ present
      rw [stays_of_put paved.found present nofun] at found
      cases found
      exact spent_of_generates spent acts present rfl
  | works acts present goes launched relies =>
      rw [stays_of_put paved.found present nofun] at found
      cases found
      obtain ⟨_, _, strides⟩ := paved.strides regular valid present goes launched relies
      refine spent_of_works spent acts ⟨?_, ?_⟩ present strides goes.advances.recorded_eq
      · rintro rfl
        cases paved.found.symm.trans present
      · rintro rfl
        obtain ⟨generator, isGenerator, _⟩ := regular.staffed.generator
        cases isGenerator.symm.trans present
  | hears acts heard =>
      subst acts
      cases paved.found.symm.trans found
      exact spent_of_hears spent echoed listens heard
  | counts acts =>
      subst acts
      cases paved.found.symm.trans found
      exact spent_of_idle spent rfl rfl rfl rfl (Nat.le_refl _)
  | shifts acts later =>
      subst acts
      cases paved.found.symm.trans found
      exact spent_of_idle spent rfl rfl rfl rfl later

variable {source : RandomSource} {view : View} {last : Situation RunState RunTask}

private theorem spent_start (valid : config.validate = .ok ())
    (planned : config.generatorPlan = .ok plan) (patient : 0 < config.drainPollInterval.nanos) :
    Spent config [] ⟨.start config false, tasks config source, view⟩ .starting := by
  constructor
  case work =>
    have nothing : office.sum (fun worker => 7 * worker.report.sent + worker.phase.pace)
        ⟨.start config false, tasks config source, view⟩ = 0 := by
      apply Office.sum_eq_zero
      intro task member worker isWorker
      obtain ⟨id, found⟩ := List.getElem?_of_mem member
      rcases of_found_start valid planned found with ⟨_, rfl⟩ | rfl | rfl
      · contradiction
      · contradiction
      · cases isWorker
        rfl
    rw [nothing]
    rfl
  case rounds =>
    refine ⟨0, ?_, rfl, Nat.le_of_eq (Nat.zero_add _)⟩
    rw [Nat.zero_mul]
    exact Nat.add_pos_right _ patient

theorem spent_of_run (valid : config.validate = .ok ())
    (planned : config.generatorPlan = .ok plan) (patient : 0 < config.drainPollInterval.nanos)
    (bounded : config.totalMessages < Text.word64)
    (inTime : ∀ channel, (stubs channel).Echoes config.drainTimeout)
    (run : mainPhase.Run (punctual stubs) ⟨.start config false, tasks config source, view⟩
      trace last)
    (found : last.tasks[0]? = some (.conductor phase)) : Spent config trace last phase := by
  induction run generalizing phase with
  | rest =>
      rcases of_found_start valid planned found with ⟨_, same⟩ | same | same
      · cases same
        exact spent_start valid planned patient
      · cases same
      · cases same
  | step run step allowed induction =>
      obtain ⟨own, untroubled⟩ := untroubled_of_run valid planned bounded inTime run
      exact (induction untroubled.paved.found).step untroubled valid
        (fun channel => (inTime channel).listens) (proceeds_of_step step allowed) found

/-- All that tasks do and all frames that come before a faultless service are bounded. -/
theorem workIn_le_of_run (valid : config.validate = .ok ())
    (patient : 0 < config.drainPollInterval.nanos) (bounded : config.totalMessages < Text.word64)
    (inTime : ∀ channel, (stubs channel).Echoes config.drainTimeout)
    (run : mainPhase.Run (punctual stubs) ⟨.start config false, tasks config source, view⟩
      trace last) :
    workIn trace ≤ 10 * config.totalMessages + 7 * config.senderWorkers +
      6 * (config.rooms.high.toNat - config.rooms.low.toNat) +
      2 * (config.drainTimeout.nanos / config.drainPollInterval.nanos) + 16 := by
  obtain ⟨_, _, _, plan, planned, total, stops⟩ := Config.of_validate valid
  obtain ⟨phase, regular, paved, _⟩ := untroubled_of_run valid planned bounded inTime run
  have spent := spent_of_run valid planned patient bounded inTime run paved.found
  obtain ⟨generator, stream⟩ := regular.kept.stream
  obtain ⟨units, enough, seqs⟩ := stream.seqs_eq
  obtain ⟨sent, recorded⟩ := regular.kept.custody.lengths_le
  have taken := congrArg List.length seqs
  rw [List.length_append, List.length_take, GeneratorPlan.length_seqs] at taken
  have steps := (regular.supplies 1 generator stream.found).steps
  obtain ⟨rounds, few, _, left⟩ := spent.rounds
  have fewRounds : rounds ≤ config.drainTimeout.nanos / config.drainPollInterval.nanos + 1 := by
    rw [← Nat.add_div_right _ patient, Nat.le_div_iff_mul_le patient]
    exact Nat.le_of_lt few
  have workers : office.sum (fun worker => 7 * worker.report.sent + worker.phase.pace) last ≤
      7 * (office.history .sent trace).length + 6 * config.senderWorkers := by
    rw [Office.sum_add, ← regular.kept.custody.sentTotal, ← regular.kept.crew]
    exact Nat.add_le_add (Office.sum_le_mul 7 fun _ => Nat.le_refl _)
      (Office.sum_le_mul 6 fun worker => worker.phase.pace_le)
  have work := spent.work
  have records : last.common.desk.ledger.correlator.recorded.length ≤
    (office.takenSeqs trace).length := recorded
  omega

end MainPhase

end RoomLoad
