import RoomLoad.Proofs.Handoff.Staff
import RoomLoad.Proofs.Shutdown.Promptness

/-!
# How generators and conductors come to their ends

A generator takes a bounded number of steps, and when nobody is left to take what it makes
it ends at its next attempt to hand something over.  A conductor that is asked to stop
finishes what it is about and no longer waits for acknowledgements.
-/

namespace RoomLoad

namespace Generator

/-- How many steps are still taken at most. -/
def stepsLeft (generator : Generator) : Nat :=
  match generator.stage with
  | .making number => 2 * (generator.plan.total - number) + generator.plan.sentinels + 2
  | .holding number _ => 2 * (generator.plan.total - number) + generator.plan.sentinels + 1
  | .stopping left => left + 1
  | .ended _ => 0

/-- The number of the unit that comes next, if there is one. -/
def next? (generator : Generator) : Option Nat :=
  match generator.stage with
  | .making number => if number < generator.plan.total then some number else none
  | .holding number _ => some number
  | _ => none

/-- How many steps are still taken at most when nobody is left to take a unit. -/
def lastSteps (generator : Generator) : Nat :=
  match generator.stage with
  | .making _ => 2
  | .holding _ _ => 1
  | _ => 0

variable {queue later : UnitQueue} {generator next : Generator}

theorem Advances.stepsLeft_lt (advances : generator.Advances queue next later)
    {fed : List (Option SeqId)} (isFed : generator.plan.Fed fed generator.stage) :
    next.stepsLeft < generator.stepsLeft := by
  cases advances with
  | draws making => simp [stepsLeft, making]
  | turns making =>
      simp only [stepsLeft, making]
      omega
  | hands holding =>
      rw [holding] at isFed
      have more := isFed.1
      simp only [stepsLeft, holding]
      omega
  | isLeft holding => simp [stepsLeft, holding]
  | requests stopping => simp [stepsLeft, stopping]
  | isLeftAtStops stopping => simp [stepsLeft, stopping]
  | ends stopping => simp [stepsLeft, stopping]

/-- When nobody is left to take it, the next unit is the last that was made. -/
theorem Advances.winds_up (advances : generator.Advances queue next later) {number : Nat}
    (nobody : queue.receivers = 0) (left : generator.next? = some number) :
    next.lastSteps < generator.lastSteps ∧
      (next.next? = some number ∨ next.report? = some ⟨number, true⟩) := by
  have noOffer : ∀ envelope, queue.offer envelope = .disconnected := by
    intro envelope
    rw [UnitQueue.offer, if_pos nobody]
  cases advances with
  | draws making more =>
      simp only [next?, making, more, if_true, Option.some.injEq] at left
      simp [lastSteps, next?, making, left]
  | turns making done =>
      simp only [next?, making, Nat.not_lt.mpr done, if_false] at left
      contradiction
  | hands holding accepted =>
      rw [noOffer] at accepted
      contradiction
  | isLeft holding =>
      simp only [next?, holding, Option.some.injEq] at left
      simp [lastSteps, report?, holding, left]
  | requests stopping | isLeftAtStops stopping | ends stopping =>
      simp only [next?, stopping] at left
      contradiction

end Generator

namespace Conductor

/-- How many steps are still taken at most by a conductor that is asked to stop. -/
def stepsLeft (config : Config) : ConductorPhase → Nat
  | .starting => 12 + 6 * (config.rooms.high.toNat - config.rooms.low.toNat)
  | .prewarming room lookup => 5 + 6 * (config.rooms.high.toNat - room) + lookup.stepsLeft
  | .launching => 5
  | .awaiting => 4
  | .pausing _ _ => 4
  | .draining _ => 3
  | .clearing _ => 2
  | .closing _ _ => 1
  | .finished _ => 0
  | .crashed => 0

variable {view : View} {task : TaskId} {state later : RunState} {phase next : ConductorPhase}
  {answer : Option Answer}

theorem stepsLeft_afterLookup (config : Config) (room : Nat)
    (progress : Progress Lookup Lookup.Result) :
    stepsLeft config (afterLookup config room progress) ≤
      5 + 6 * (config.rooms.high.toNat - room) + Lookup.stepsAfter progress := by
  cases progress with
  | going lookup => exact Nat.le_refl _
  | ended result =>
      rw [afterLookup, nextRoom]
      split
      case isTrue more =>
        simp only [stepsLeft, Lookup.stepsLeft, Lookup.stepsAfter]
        omega
      case isFalse =>
        simp only [stepsLeft]
        omega

/-- A conductor has less and less left to do, unless it waits for acknowledgements. -/
theorem Goes.stepsLeft_lt (goes : Goes view task state phase answer later next) :
    stepsLeft state.config next < stepsLeft state.config phase ∨
      ∃ deadline, phase = .draining deadline ∧ state.desk.shutdown = false ∧
        view.now < deadline ∧ next = .pausing deadline state.config.drainPollInterval := by
  cases goes with
  | @pauses deadline draining _ calm early => exact .inr ⟨deadline, draining, calm, early, rfl⟩
  | looks prewarming moved =>
      left
      have fewer := Lookup.stepsAfter_of_move? moved
      rw [prewarming, stepsLeft]
      exact Nat.lt_of_le_of_lt (stepsLeft_afterLookup _ _ _) (Nat.add_lt_add_left fewer _)
  | @looksOn room lookup call answer prewarming waits returns =>
      left
      have fewer : Lookup.stepsAfter
          (lookup.resume (UInt32.ofNat room) state.desk.pool answer).2 < lookup.stepsLeft :=
        Lookup.stepsAfter_resume waits returns
      rw [prewarming, stepsLeft]
      exact Nat.lt_of_le_of_lt (stepsLeft_afterLookup _ _ _) (Nat.add_lt_add_left fewer _)
  | begins starting =>
      left
      simp only [starting, stepsLeft, Lookup.stepsLeft]
      omega
  | refuses starting =>
      left
      simp only [starting, stepsLeft]
      omega
  | hasNoPlan here | launches here | collects here | falls here | isDrained here
  | timesOut here | clears here | wakes here | finishes here =>
      left
      simp [here, stepsLeft]

end Conductor

namespace MainPhase

variable {trace : List (Transition RunState RunTask)} {transition : Transition RunState RunTask}
  {before after situation : Situation RunState RunTask} {act : Act RunTask} {config : Config}
  {plan : GeneratorPlan} {producer id : TaskId}

/-- The items that a task has put into the queue. -/
def fedBy (id : TaskId) (trace : List (Transition RunState RunTask)) : List Envelope :=
  trace.flatMap fun transition =>
    if transition.act.task? = some id then
      transition.after.common.desk.queue.items.drop
        transition.before.common.desk.queue.items.length
    else []

theorem fedBy_append_of_ne (others : transition.act.task? ≠ some id) :
    fedBy id (trace ++ [transition]) = fedBy id trace := by
  simp [fedBy, others]

theorem fedBy_append_of_acts {items : List Envelope} (acts : transition.act.task? = some id)
    (appended : transition.after.common.desk.queue.items =
      transition.before.common.desk.queue.items ++ items) :
    fedBy id (trace ++ [transition]) = fedBy id trace ++ items := by
  simp [fedBy, acts, appended]

/-- A generator has fed what its plan says, and the steps that it has taken and may still
take are bounded. -/
structure Supplies (plan : GeneratorPlan) (id : TaskId)
    (trace : List (Transition RunState RunTask)) (generator : Generator) : Prop where
  plan_eq : generator.plan = plan
  fed : plan.Fed ((fedBy id trace).map Envelope.seq?) generator.stage
  steps : stepsOf id trace + generator.stepsLeft ≤ 2 * plan.total + plan.sentinels + 2

theorem supplies_start {source : RandomSource} : Supplies plan id [] (plan.start source) :=
  ⟨rfl, ⟨Nat.zero_le _, rfl⟩, Nat.le_of_eq (Nat.zero_add _)⟩

theorem Supplies.of_others {generator : Generator} (supplies : Supplies plan id trace generator)
    (others : transition.act.task? ≠ some id) :
    Supplies plan id (trace ++ [transition]) generator := by
  constructor
  case plan_eq => exact supplies.plan_eq
  case fed =>
    rw [fedBy_append_of_ne others]
    exact supplies.fed
  case steps =>
    rw [stepsOf_append_of_ne others]
    exact supplies.steps

theorem Supplies.of_acts {generator next : Generator}
    (supplies : Supplies plan id trace generator) (acts : transition.act.task? = some id)
    (advances : generator.Advances transition.before.common.desk.queue next
      transition.after.common.desk.queue) :
    Supplies plan id (trace ++ [transition]) next := by
  have fed := supplies.fed
  have same := supplies.plan_eq
  obtain ⟨items, appended, feeds⟩ := advances.feeds
  constructor
  case plan_eq => exact advances.plan_eq.trans same
  case fed =>
    rw [fedBy_append_of_acts acts appended, List.map_append]
    rw [← same] at fed ⊢
    exact feeds _ fed
  case steps =>
    have bound := supplies.steps
    have fewer := advances.stepsLeft_lt (same ▸ fed)
    rw [stepsOf_append_of_acts acts]
    omega

theorem Supplies.reports {generator : Generator} (supplies : Supplies plan id trace generator)
    {report : GeneratorReport} (reported : generator.report? = some report) :
    (fedBy id trace).filterMap Envelope.seq? = plan.seqs.take report.produced ∧
      report.produced ≤ plan.total ∧
      (report.interrupted = true ↔ report.produced < plan.total) := by
  have fed := supplies.fed
  rw [Generator.stage_of_report? reported] at fed
  obtain ⟨enough, units, _⟩ := fed.of_ended
  rw [List.filterMap_map] at units
  refine ⟨units, enough, ?_⟩
  rcases fed with ⟨interrupted, fewer, _⟩ | ⟨rfl, _⟩
  · simp [interrupted, fewer]
  · simp

theorem Supplies.of_next? {generator : Generator} (supplies : Supplies plan id trace generator)
    {number : Nat} (left : generator.next? = some number) :
    number < plan.total ∧ (fedBy id trace).filterMap Envelope.seq? = plan.seqs.take number := by
  have fed := supplies.fed
  have units : ∀ {stops : Nat},
      (fedBy id trace).map Envelope.seq? = plan.marks number stops →
      (fedBy id trace).filterMap Envelope.seq? = plan.seqs.take number := by
    intro stops marks
    have inner := congrArg (List.filterMap fun mark => mark) marks
    rw [List.filterMap_map] at inner
    exact inner.trans GeneratorPlan.units_of_marks
  unfold Generator.next? at left
  split at left
  case h_1 making =>
    split at left
    case isTrue more =>
      cases left
      rw [making] at fed
      exact ⟨supplies.plan_eq ▸ more, units fed.2⟩
    case isFalse => contradiction
  case h_2 holding =>
    cases left
    rw [holding] at fed
    exact ⟨fed.1, units fed.2.2⟩
  case h_3 => contradiction

theorem Supplies.length_of_next? {generator : Generator}
    (supplies : Supplies plan id trace generator) {number : Nat}
    (left : generator.next? = some number) :
    number = ((fedBy id trace).filterMap Envelope.seq?).length := by
  obtain ⟨more, units⟩ := supplies.of_next? left
  rw [units, List.length_take, GeneratorPlan.length_seqs, Nat.min_eq_left (Nat.le_of_lt more)]

theorem Supplies.length_of_report? {generator : Generator}
    (supplies : Supplies plan id trace generator) {report : GeneratorReport}
    (reported : generator.report? = some report) :
    report.produced = ((fedBy id trace).filterMap Envelope.seq?).length := by
  obtain ⟨units, enough, _⟩ := supplies.reports reported
  rw [units, List.length_take, GeneratorPlan.length_seqs, Nat.min_eq_left enough]

end MainPhase

end RoomLoad
