import RoomLoad.Proofs.Drain.Timing

/-!
# What the outcome of a drain means

When the conductor drains every worker has come to its end, so nothing is entered as in
flight any more.  A drain that is over without having timed out therefore leaves nothing
outstanding, unless the run was asked to stop, and that is what the summary tells.
-/

namespace RoomLoad

theorem Ledger.Hears.inflight_eq_nil {ledger later : Ledger} (hears : ledger.Hears later)
    (none : ledger.correlator.inflight = []) : later.correlator.inflight = [] := by
  cases hears with
  | drops inflight => exact inflight.trans none
  | records present =>
      rw [Correlator.entries, none] at present
      contradiction

namespace Conductor

/-- What a drain leaves behind that has not timed out. -/
def Leaves (state : RunState) : ConductorPhase → Prop
  | .clearing timedOut => timedOut = false → state.inflight = 0 ∨ state.desk.shutdown = true
  | .closing _ timedOut => timedOut = false → state.inflight = 0 ∨ state.desk.shutdown = true
  | .finished (.ok summary) => summary.drainTimedOut = false → summary.interrupted = false →
      summary.unacknowledged = 0
  | _ => True

variable {view : View} {task : TaskId} {state later : RunState} {phase next : ConductorPhase}
  {answer : Option Answer}

theorem leaves_of_apart (apart : hasCollected phase = false) : Leaves state phase := by
  cases phase <;> trivial

theorem Leaves.mono (leaves : Leaves state phase)
    (inflight : isWindingDown phase = true → state.inflight = 0 → later.inflight = 0)
    (shutdown : state.desk.shutdown = true → later.desk.shutdown = true) : Leaves later phase := by
  cases phase with
  | clearing timedOut | closing channels timedOut =>
      intro notTimedOut
      rcases leaves notTimedOut with none | asked
      · exact .inl (inflight rfl none)
      · exact .inr (shutdown asked)
  | finished result => cases result <;> exact leaves
  | _ => trivial

theorem Goes.leaves (goes : Goes view task state phase answer later next)
    (leaves : Leaves state phase) : Leaves later next := by
  cases goes with
  | looks | looksOn => exact leaves_of_apart hasCollected_afterLookup
  | isDrained _ drained => exact fun _ => drained
  | timesOut => exact Bool.noConfusion
  | clears here =>
      subst here
      exact leaves
  | finishes here same =>
      subst here same
      intro notTimedOut uninterrupted
      rcases leaves notTimedOut with none | asked
      · exact none
      · have parts : (_ || state.desk.shutdown) = false := uninterrupted
        rw [asked, Bool.or_true] at parts
        contradiction
  | _ => trivial

end Conductor

namespace MainPhase

variable {stoppable : Bool} {trace : List (Transition RunState RunTask)}
  {before after start last : Situation RunState RunTask} {act : Act RunTask}
  {phase next : ConductorPhase} {config : Config} {plan : GeneratorPlan} {producer : TaskId}

/-- While a conductor winds down nothing is entered as in flight. -/
private theorem inflight_eq_zero (advances : Advances stoppable before act after)
    (kept : Kept config plan producer trace before)
    (allEnded : config.senderWorkers ≤ before.common.ended)
    (none : before.common.inflight = 0) : after.common.inflight = 0 := by
  cases advances with
  | conducts _ _ conducts =>
      have same : _ = before.common.desk.ledger.correlator :=
        conducts.desk_eq.2.2.2.2.2.2.1
      exact (congrArg (fun correlator => correlator.inflight.length) same).trans none
  | works _ found works =>
      have ended := kept.isOver allEnded (List.mem_of_getElem? found) rfl
      rw [works.isOver_eq_false] at ended
      contradiction
  | hears _ hears =>
      have empty := List.length_eq_zero_iff.mp none
      exact List.length_eq_zero_iff.mpr (hears.inflight_eq_nil empty)
  | generates | stops | shifts => exact none

private theorem shutdown_eq_true (advances : Advances stoppable before act after)
    (asked : before.common.desk.shutdown = true) : after.common.desk.shutdown = true := by
  cases advances with
  | conducts _ _ conducts => exact conducts.desk_eq.2.1.trans asked
  | works _ _ works => exact works.shutdown_eq.trans asked
  | stops => rfl
  | generates | hears | shifts => exact asked

variable {source : RandomSource} {shutdown : Bool} {view : View}

private theorem leaves_of_run
    (run : mainPhase.Run (rules stoppable)
      (beginning config plan source [.conductor .starting] shutdown false view) trace last)
    (planned : plan.total = config.totalMessages) (manned : 1 ≤ config.senderWorkers)
    (bounded : config.totalMessages ≤ Text.word64)
    (found : last.tasks[0]? = some (.conductor phase)) : Conductor.Leaves last.common phase := by
  induction run generalizing phase with
  | rest =>
      cases found
      trivial
  | step run step allowed induction =>
      obtain ⟨kept, conducted⟩ := conducted_of_run run planned manned bounded
      have advances := advances_of_step step allowed
      have goes := goes_of_step step (discreet_of_rules allowed step)
      rcases goes.conductor found with ⟨_, present⟩ | ⟨own, later, _, present, conducts, rfl⟩
      -- others may still hear echoes, but all workers have ended, so nothing new is in flight
      · apply (induction present).mono
        · intro winding
          exact inflight_eq_zero advances kept (conducted.windsDown 0 phase present winding).2
        · exact shutdown_eq_true advances
      · exact conducts.leaves (induction present)

private theorem found_of_summary? {summary : RunSummary} (ended : summary? last = some summary) :
    last.tasks[0]? = some (.conductor (.finished (.ok summary))) := by
  unfold summary? at ended
  split at ended
  case h_1 own found =>
    cases ended
    rw [← List.head?_eq_getElem?]
    exact found
  case h_2 => contradiction

/-- A run that was neither interrupted nor timed out leaves nothing unacknowledged. -/
private theorem acknowledged_of_run {summary : RunSummary} (valid : config.validate = .ok ())
    (bounded : config.totalMessages < Text.word64)
    (run : mainPhase.Run (rules stoppable) ⟨.start config shutdown, tasks config source, view⟩
      trace last)
    (ended : summary? last = some summary) (uninterrupted : summary.interrupted = false)
    (notTimedOut : summary.drainTimedOut = false) :
    summary.unacknowledged = 0 ∧
      summary.metrics.success + summary.metrics.failure = summary.total := by
  obtain ⟨sound, manned, _, plan, isPlan, planned, _⟩ := Config.of_validate valid
  rw [start_eq_beginning sound isPlan] at run
  have found := found_of_summary? ended
  have leaves := leaves_of_run run planned manned (Nat.le_of_lt bounded) found
  have none : summary.unacknowledged = 0 := leaves notTimedOut uninterrupted
  obtain ⟨_, conducted⟩ := conducted_of_run run planned manned (Nat.le_of_lt bounded)
  obtain ⟨_, _, complete⟩ := (conducted.closes 0 summary found).complete uninterrupted
  rw [none, Nat.add_zero] at complete
  exact ⟨none, complete⟩

/-- Whatever is in flight when the conductor begins to wait, its drain times out only at a look
that, at the deadline or later, sees something in flight and no request to stop; it ends without
a time-out only at a look that sees nothing in flight or a request.  With timers that go off when
they are due a drain is over no more than an interval after its deadline, and until then the run
can go on.  A summary of a run that was neither interrupted nor timed out tells that every unit
was acknowledged or abandoned.  A conductor goes down only when the clock cannot name the
deadline. -/
theorem drained_of_run (found : start.tasks[0]? = some (.conductor phase))
    (early : Conductor.hasCollected phase = false)
    (run : mainPhase.Run (rules true) start trace last) :
    ∃ next, last.tasks[0]? = some (.conductor next) ∧
      (next = .crashed →
        deadline? (lastStep 0 trace) start.common.config.drainTimeout = none) ∧
      (∀ drain, drain? trace = some drain →
        deadline? drain.begun start.common.config.drainTimeout =
            some (drain.begun + start.common.config.drainTimeout.nanos) ∧
          drain.looks.length ≤ drain.sleeps.length + 1) ∧
      (∀ timedOut, Conductor.timedOut? next = some timedOut →
        ∃ drain earlier final, drain? trace = some drain ∧ drain.looks = earlier ++ [final] ∧
          drain.sleeps = List.replicate earlier.length start.common.config.drainPollInterval ∧
          (∀ look ∈ earlier, look.inflight ≠ 0 ∧ look.shutdown = false ∧
            look.moment < drain.begun + start.common.config.drainTimeout.nanos) ∧
          (timedOut = true → final.inflight ≠ 0 ∧ final.shutdown = false ∧
            drain.begun + start.common.config.drainTimeout.nanos ≤ final.moment) ∧
          (timedOut = false → final.inflight = 0 ∨ final.shutdown = true)) ∧
      (0 < start.common.config.drainPollInterval.nanos → mainPhase.Run timely start trace last →
        ∀ drain, drain? trace = some drain →
          (∀ (index : Nat) look, drain.looks[index]? = some look →
            look.moment = drain.begun + index * start.common.config.drainPollInterval.nanos) ∧
          drain.sleeps.length ≤
            (start.common.config.drainTimeout.nanos +
              start.common.config.drainPollInterval.nanos - 1) /
                start.common.config.drainPollInterval.nanos ∧
          (∀ look ∈ drain.looks, look.moment ≤
            drain.begun + start.common.config.drainTimeout.nanos +
              start.common.config.drainPollInterval.nanos) ∧
          (Conductor.timedOut? next = none →
            last.view.now ≤ drain.begun + start.common.config.drainTimeout.nanos +
              start.common.config.drainPollInterval.nanos ∧
            ∃ seen act after, act.task? = some 0 ∧
              mainPhase.Run timely start
                (trace ++ [⟨last, .shift, { last with view := seen }⟩] ++
                  [⟨{ last with view := seen }, act, after⟩]) after)) ∧
      (∀ config source shutdown view,
        start = ⟨.start config shutdown, tasks config source, view⟩ →
        config.validate = .ok () → config.totalMessages < Text.word64 →
        ∀ summary, summary? last = some summary → summary.interrupted = false →
          summary.drainTimedOut = false →
          summary.unacknowledged = 0 ∧
            summary.metrics.success + summary.metrics.failure = summary.total) := by
  obtain ⟨next, drains⟩ := drains_of_run found early run
  -- two parts are read off the looks of the drain, one needs timers, and one a run from its start
  refine ⟨next, drains.found, drains.falls, fun _ => drains.of_drain, ?_, ?_, ?_⟩
  · intro timedOut isOver
    obtain ⟨drain, earlier, final, isDrain, looks, sleeps, reasons, ends⟩ := drains.of_over isOver
    refine ⟨drain, earlier, final, isDrain, looks, sleeps, reasons, ?_, ?_⟩
    · rintro rfl
      obtain ⟨⟨inflight, calm⟩, late⟩ := ends
      exact ⟨inflight, calm, late⟩
    · rintro rfl
      exact ends
  · intro patient timelyRun drain isDrain
    obtain ⟨other, timed⟩ := timed_of_run found early timelyRun
    cases drains.found.symm.trans timed.drains.found
    obtain ⟨paced, few, soon, now⟩ := timed.within patient isDrain
    refine ⟨paced, few, soon, fun going => ⟨now going, timed.exists_further timelyRun ?_ going⟩⟩
    cases begun : Conductor.hasBegun next with
    | true => rfl
    | false =>
        have none := drains.stands.eq_none begun
        rw [isDrain] at none
        contradiction
  · rintro config source shutdown view rfl valid bounded summary ended
    exact acknowledged_of_run valid bounded run ended

/-- One unit, and patience for two intervals at the end. -/
def unhurried : Config :=
  { brief with
    totalMessages := 1
    drainTimeout := .ofMillis 20
    drainPollInterval := .ofMillis 10 }

/-- The conductor looks three times for the echo of the only unit, the last time at its
deadline. -/
def lateCourse (echoes : Bool) : List (Cue RunState RunTask) :=
  let unit : OutboundUnit := ⟨0, 1, "user1", "Message-1", 1, .text, .ofInstant 0, 0⟩
  let echo : Cue RunState RunTask := .frame (AckFrame.echo unit.payload (.ofInstant 0)).wireText
  List.flatten
    [List.replicate 5 (.move 0 0), [.answer 0 (.connected 0), .move 0 0],
      List.replicate 5 (.move 1 0),
      List.replicate 6 (.move 2 0), [.answer 2 .done, .move 2 0, .move 2 0],
      [.move 0 0, .move 0 0, .shift ⟨10000000, fun _ => true⟩, .answer 0 .done, .move 0 0],
      if echoes then [.shift ⟨15000000, fun _ => true⟩, echo] else [],
      [.shift ⟨20000000, fun _ => true⟩, .answer 0 .done, .move 0 0, .move 0 0, .answer 0 .done]]

/-- Whether a run has ended by itself after two sleeps. -/
def endsLate (timedOut : Bool)
    (ending : List (Transition RunState RunTask) × Situation RunState RunTask) : Bool :=
  ((summary? ending.2).any fun summary =>
    summary.drainTimedOut == timedOut && !summary.interrupted) &&
  (drain? ending.1).any fun drain => drain.sleeps.length == 2

theorem timely_of_isTimely (trace : List (Transition RunState RunTask))
    (transition : Transition RunState RunTask)
    (allowed : (transition.act.isInner && isTimely trace transition) = true) :
    timely trace transition := by
  obtain ⟨inner, inTime⟩ := Bool.and_eq_true_iff.mp allowed
  exact ⟨rules_of_isInner true trace transition inner, inTime⟩

theorem drained_of_run_of_late :
    ∃ start : Situation RunState RunTask,
      (∃ trace last drain final, mainPhase.Run timely start trace last ∧
        drain? trace = some drain ∧ final ∈ drain.looks ∧ drain.sleeps.length = 2 ∧
        final.moment = drain.begun + 20000000 ∧ final.inflight ≠ 0) ∧
      ∃ trace last drain final summary, mainPhase.Run timely start trace last ∧
        drain? trace = some drain ∧ final ∈ drain.looks ∧ drain.sleeps.length = 2 ∧
        final.moment = drain.begun + 20000000 ∧ summary? last = some summary ∧
        summary.unacknowledged = 0 ∧
        summary.metrics.success + summary.metrics.failure = summary.total := by
  let source : RandomSource := .scripted [] 0
  let view : View := ⟨0, fun _ => true⟩
  let start : Situation RunState RunTask :=
    ⟨.start unhurried false, tasks unhurried source, view⟩
  have sound : unhurried.defect? = none := by decide +kernel
  have valid : unhurried.validate = .ok () := by
    rw [Config.validate, sound]
  have bounded : unhurried.totalMessages < Text.word64 := by decide
  have interval : start.common.config.drainPollInterval.nanos = 10000000 := by decide
  have patient : 0 < start.common.config.drainPollInterval.nanos := by
    rw [interval]
    decide
  have found : start.tasks[0]? = some (.conductor .starting) := by
    obtain ⟨_, _, _, plan, isPlan, _⟩ := Config.of_validate valid
    have same : start = beginning unhurried plan source [.conductor .starting] false false view :=
      start_eq_beginning sound isPlan
    rw [same]
    rfl
  have replayed : ∀ echoes, (mainPhase.replay
      (fun trace transition => transition.act.isInner && isTimely trace transition) [] start
      (lateCourse echoes)).any (endsLate !echoes) = true := by
    decide +kernel
  have drained : ∀ echoes, ∃ trace last drain final summary,
      mainPhase.Run timely start trace last ∧ drain? trace = some drain ∧
      final ∈ drain.looks ∧ drain.sleeps.length = 2 ∧ final.moment = drain.begun + 20000000 ∧
      summary? last = some summary ∧ (echoes = false → final.inflight ≠ 0) ∧
      (echoes = true → summary.unacknowledged = 0 ∧
        summary.metrics.success + summary.metrics.failure = summary.total) := by
    intro echoes
    obtain ⟨trace, last, run, shown⟩ :=
      System.exists_run_of_replay timely_of_isTimely (replayed echoes)
    simp only [endsLate, Bool.and_eq_true, Option.any_eq_true, beq_iff_eq,
      Bool.not_eq_true'] at shown
    obtain ⟨⟨summary, ended, timedOut, uninterrupted⟩, drain, isDrain, sleeps⟩ := shown
    obtain ⟨next, isNext, _, _, outcome, inTime, acknowledged⟩ :=
      drained_of_run found rfl (run.imp fun _ _ allowed => allowed.1)
    cases (found_of_summary? ended).symm.trans isNext
    obtain ⟨_, earlier, final, same, looks, rests, _, late, _⟩ := outcome _ rfl
    cases isDrain.symm.trans same
    have count : earlier.length = 2 := by
      rw [rests, List.length_replicate] at sleeps
      exact sleeps
    have moment := (inTime patient run drain isDrain).1 2 final (by simp [looks, ← count])
    rw [interval] at moment
    refine ⟨trace, last, drain, final, summary, run, isDrain, by simp [looks], sleeps, moment,
      ended, ?_, ?_⟩
    · rintro rfl
      exact (late timedOut).1
    · rintro rfl
      exact acknowledged unhurried source false view rfl valid bounded summary ended
        uninterrupted timedOut
  obtain ⟨trace, last, drain, final, _, run, isDrain, member, sleeps, moment, _, late, _⟩ :=
    drained false
  obtain ⟨other, ending, kept, look, summary, again, isKept, seen, rests, whenSeen, ended, _,
    acknowledged⟩ := drained true
  exact ⟨start,
    ⟨trace, last, drain, final, run, isDrain, member, sleeps, moment, late rfl⟩,
    other, ending, kept, look, summary, again, isKept, seen, rests, whenSeen, ended,
    acknowledged rfl⟩

end MainPhase

end RoomLoad
