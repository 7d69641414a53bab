import RoomLoad.Proofs.Config.Acceptance
import RoomLoad.Proofs.Config.Configured
import RoomLoad.Proofs.Drain.Looks
import RoomLoad.Proofs.Probe.Accuracy

/-!
# Deadlines that the clock cannot name

The end of a run and a probe wait until a deadline: the present moment, and as many seconds
later as the settings say.  The settings have room for any 64-bit number of seconds, the clock
for half of that.  Nothing stands between the two, so that the conductor or a measurement
comes down exactly when it reckons a deadline that is out of the clock's reach; for the
conductor that is after everything has been sent.
-/

namespace RoomLoad

theorem deadline?_eq_none_iff {now : Instant} {duration : Duration} :
    deadline? now duration = none ↔
      clockLimitSecs * Duration.perSecond ≤ now + duration.nanos := by
  unfold deadline?
  split
  case isTrue named => exact iff_of_false nofun (Nat.not_le_of_lt named)
  case isFalse unnamed => exact iff_of_true rfl (Nat.le_of_not_lt unnamed)

/-- What does not hold at the start of a run and never ceases to hold is brought about by one
of the steps. -/
theorem System.Run.iff_exists_of_step {σ τ : Type} {system : System σ τ} {rules : Rules σ τ}
    {start last : Situation σ τ} {trace : List (Transition σ τ)} {holds : Situation σ τ → Prop}
    {brings : Transition σ τ → Prop} (not_yet : ¬ holds start)
    (step : ∀ trace before act after, system.Run rules start trace before →
      system.Step before act after → rules trace ⟨before, act, after⟩ →
        (holds after ↔ holds before ∨ brings ⟨before, act, after⟩))
    (run : system.Run rules start trace last) :
    holds last ↔ ∃ transition ∈ trace, brings transition := by
  induction run with
  | rest => exact iff_of_false not_yet nofun
  | step run taken allowed induction =>
      rw [step _ _ _ _ run taken allowed, induction]
      simp only [List.mem_append, List.mem_singleton, or_and_right, exists_or, exists_eq_left]

/-- A conductor comes down exactly in the step that reckons its deadline. -/
theorem Conductor.Goes.eq_crashed_iff {view : View} {task : TaskId} {state later : RunState}
    {phase next : ConductorPhase} {answer : Option Answer}
    (goes : Goes view task state phase answer later next) :
    next = .crashed ↔
      phase = .awaiting ∧ deadline? view.now state.config.drainTimeout = none := by
  cases goes with
  | falls awaiting _ _ unnamed => exact iff_of_true rfl ⟨awaiting, unnamed⟩
  | collects awaiting _ _ named =>
      rw [named]
      exact iff_of_false nofun (nofun ∘ And.right)
  | looks here | looksOn here =>
      subst here
      refine iff_of_false ?_ (nofun ∘ And.left)
      intro crashed
      have early := congrArg hasCollected crashed
      rw [hasCollected_afterLookup] at early
      contradiction
  | _ here =>
      subst here
      exact iff_of_false nofun (nofun ∘ And.left)

theorem Conductor.Goes.phase_ne_crashed {view : View} {task : TaskId} {state later : RunState}
    {phase next : ConductorPhase} {answer : Option Answer}
    (goes : Goes view task state phase answer later next) : phase ≠ .crashed := by
  cases goes with
  | _ here =>
      subst here
      nofun

namespace MainPhase

variable {trace : List (Transition RunState RunTask)}
  {before after last : Situation RunState RunTask} {act : Act RunTask} {phase : ConductorPhase}
  {config : Config} {source : RandomSource} {shutdown : Bool} {view : View}

/-- The conductor has come down. -/
def IsDown (situation : Situation RunState RunTask) : Prop :=
  situation.tasks[0]? = some (.conductor .crashed)

/-- A step in which the conductor, whose workers have ended, reckons a deadline that the clock
cannot name. -/
structure Overreaches (patience : Duration) (transition : Transition RunState RunTask) : Prop where
  acts : transition.act.task? = some 0
  awaits : transition.before.tasks[0]? = some (.conductor .awaiting)
  unnamed : clockLimitSecs * Duration.perSecond ≤ transition.before.view.now + patience.nanos

theorem found_tasks (config : Config) (source : RandomSource) :
    (tasks config source)[0]? = some (.conductor .starting) := by
  unfold tasks
  split <;> rfl

theorem isDown_iff_of_step (drains : Drains config trace before phase)
    (step : mainPhase.Step before act after) (allowed : rules true trace ⟨before, act, after⟩) :
    IsDown after ↔ IsDown before ∨ Overreaches config.drainTimeout ⟨before, act, after⟩ := by
  obtain ⟨rfl, found, _, _⟩ := drains
  by_cases acts : act.task? = some 0
  -- the first task is the conductor, so whoever acts in its place is the conductor
  · cases goes_of_step step (discreet_of_rules allowed step) with
    | idles idle =>
        rw [idle] at acts
        contradiction
    | generates own present | works own present =>
        cases own.symm.trans acts
        cases found.symm.trans present
    | @conducts _ _ next _ own present conducts =>
        cases own.symm.trans acts
        cases found.symm.trans present
        rw [IsDown, IsDown, Situation.tasks_put_self present, found]
        constructor
        · intro crashed
          cases crashed
          obtain ⟨rfl, unnamed⟩ := conducts.eq_crashed_iff.mp rfl
          exact .inr ⟨acts, found, deadline?_eq_none_iff.mp unnamed⟩
        · rintro (crashed | ⟨_, awaits, unnamed⟩)
          · cases crashed
            exact absurd rfl conducts.phase_ne_crashed
          · cases found.symm.trans awaits
            exact congrArg (some ∘ RunTask.conductor)
              (conducts.eq_crashed_iff.mpr ⟨rfl, deadline?_eq_none_iff.mpr unnamed⟩)
  · rw [IsDown, IsDown, step.tasks_of_ne found acts, found]
    exact (or_iff_left fun overreaches => acts overreaches.acts).symm

theorem isDown_iff_of_run
    (run : mainPhase.Run (rules true) ⟨.start config shutdown, tasks config source, view⟩
      trace last) :
    IsDown last ↔ ∃ transition ∈ trace, Overreaches config.drainTimeout transition := by
  have found := found_tasks config source
  refine System.Run.iff_exists_of_step ?_ ?_ run
  · rw [IsDown, found]
    nofun
  · intro trace before act after earlier step allowed
    obtain ⟨phase, drains⟩ := drains_of_run found rfl earlier
    exact isDown_iff_of_step drains step allowed

end MainPhase

namespace Measurement

variable {rules : Rules ProbeSession Measurement} {start last : ProbeSituation}
  {trace : List ProbeStep} {before after : ProbeSituation} {act : Act Measurement} {id : TaskId}
  {measurement next : Measurement} {channel : ChannelId} {samples : Nat} {timeout : Duration}

/-- A measurement comes down exactly in the step that reckons its deadline. -/
theorem Goes.phase_eq_crashed_iff {now : Instant} {session later : ProbeSession}
    {answer : Option Answer} (goes : Goes now session measurement answer later next) :
    next.phase = .crashed ↔
      measurement.phase = .starting ∧ measurement.samples ≠ 0 ∧
        deadline? now measurement.timeout = none := by
  cases goes with
  | refuses starting empty => exact iff_of_false nofun fun ⟨_, sampled, _⟩ => sampled empty
  | begins starting sampled named =>
      rw [named]
      exact iff_of_false nofun (nofun ∘ And.right ∘ And.right)
  | crashes starting sampled unnamed => exact iff_of_true rfl ⟨starting, sampled, unnamed⟩
  | _ here =>
      rw [here]
      exact iff_of_false nofun (nofun ∘ And.left)

/-- A task measures so many samples, has so much time for it, and is in a phase. -/
def Measures (id : TaskId) (samples : Nat) (timeout : Duration) (phase : MeasurementPhase)
    (situation : ProbeSituation) : Prop :=
  ∃ measurement, situation.tasks[id]? = some measurement ∧ measurement.samples = samples ∧
    measurement.timeout = timeout ∧ measurement.phase = phase

/-- A step in which a measurement that has something to measure reckons a deadline that the
clock cannot name. -/
structure Overreaches (id : TaskId) (samples : Nat) (timeout : Duration) (transition : ProbeStep) :
    Prop where
  acts : transition.act.task? = some id
  starts : Measures id samples timeout .starting transition.before
  sampled : samples ≠ 0
  unnamed : clockLimitSecs * Duration.perSecond ≤ transition.before.view.now + timeout.nanos

theorem exists_measures_of_run (found : start.tasks[id]? = some (.start channel samples timeout))
    (run : measurements.Run rules start trace last) :
    ∃ phase, Measures id samples timeout phase last := by
  induction run with
  | rest => exact ⟨_, _, found, rfl, rfl, rfl⟩
  | @step trace before after act run step allowed induction =>
      obtain ⟨_, measurement, present, sameSamples, sameTimeout, _⟩ := induction
      by_cases acts : act.task? = some id
      · obtain ⟨acting, session, next, own, goes, rfl⟩ := goes_of_step step acts
        cases present.symm.trans own
        refine ⟨_, next, ?_, goes.samples_eq.trans sameSamples,
          goes.timeout_eq.trans sameTimeout, rfl⟩
        exact Situation.tasks_put_self own _
      · exact ⟨_, measurement, step.tasks_of_ne present acts, sameSamples, sameTimeout, rfl⟩

theorem crashed_iff_of_step {phase : MeasurementPhase}
    (measures : Measures id samples timeout phase before)
    (step : measurements.Step before act after) :
    Measures id samples timeout .crashed after ↔
      Measures id samples timeout .crashed before ∨
        Overreaches id samples timeout ⟨before, act, after⟩ := by
  obtain ⟨measurement, found, rfl, rfl, rfl⟩ := measures
  by_cases acts : act.task? = some id
  · obtain ⟨acting, session, next, own, goes, rfl⟩ := goes_of_step step acts
    cases found.symm.trans own
    have here : (before.put id (session, next)).tasks[id]? = some next :=
      Situation.tasks_put_self own _
    constructor
    · rintro ⟨_, isNext, _, _, crashed⟩
      cases here.symm.trans isNext
      obtain ⟨starting, sampled, unnamed⟩ := goes.phase_eq_crashed_iff.mp crashed
      exact .inr ⟨acts, ⟨_, found, rfl, rfl, starting⟩, sampled, deadline?_eq_none_iff.mp unnamed⟩
    · rintro (⟨_, isActing, _, _, crashed⟩ | ⟨_, ⟨_, isActing, _, _, starting⟩, sampled, unnamed⟩)
      · cases found.symm.trans isActing
        have atWork := goes.hasEnded_eq_false
        simp [hasEnded, crashed] at atWork
      · cases found.symm.trans isActing
        have crashed := goes.phase_eq_crashed_iff.mpr
          ⟨starting, sampled, deadline?_eq_none_iff.mpr unnamed⟩
        exact ⟨next, here, goes.samples_eq, goes.timeout_eq, crashed⟩
  · have same := step.tasks_of_ne found acts
    rw [or_iff_left fun overreaches => acts overreaches.acts]
    simp only [Measures, same, found]

theorem crashed_iff_of_run (found : start.tasks[id]? = some (.start channel samples timeout))
    (run : measurements.Run rules start trace last) :
    Measures id samples timeout .crashed last ↔
      ∃ transition ∈ trace, Overreaches id samples timeout transition := by
  refine System.Run.iff_exists_of_step ?_ ?_ run
  · rintro ⟨_, present, _, _, crashed⟩
    cases found.symm.trans present
    contradiction
  · intro trace before act after earlier step _
    obtain ⟨_, measures⟩ := exists_measures_of_run found earlier
    exact crashed_iff_of_step measures step

end Measurement

namespace Config

open MainPhase

variable {config : Config} {drain probe : Duration} {secs : Nat}

/-- A whole number of seconds that fits in 64 bits. -/
def InSeconds (duration : Duration) : Prop :=
  ∃ secs, secs < Text.word64 ∧ duration.nanos = secs * Duration.perSecond

theorem nanos_ofSecs (fits : secs < Text.word64) :
    (Duration.ofSecs secs).nanos = secs * Duration.perSecond := by
  rw [Duration.ofSecs]
  exact Environment.nanos_ofNanos_word (Nat.le_refl _) fits

theorem inSeconds_ofSecs (fits : secs < Text.word64) : InSeconds (.ofSecs secs) :=
  ⟨secs, fits, nanos_ofSecs fits⟩

/-- One message for one room, and so much patience at the end and with the probe. -/
def patient (drain probe : Duration) : Config :=
  { standard with
    totalMessages := 1
    senderWorkers := 1
    rooms := ⟨1, 1⟩
    messagePoolSize := 1
    drainTimeout := drain
    probeTimeout := probe }

theorem configured_patient (drainable : InSeconds drain) (probeable : InSeconds probe) :
    Configured (patient drain probe) := by
  refine configured_iff_inRange.mpr ⟨?_, rfl, rfl, rfl⟩
  intro quantity
  cases quantity with
  | drainTimeout => exact drainable
  | probeTimeout => exact probeable
  | totalMessages | workers | poolSize =>
      have one : 1 < Text.word64 := by decide
      exact (Quantity.fits_iff_lt rfl).mpr one
  | roomMax =>
      have one : 1 < Text.word32 := by decide
      exact (Quantity.fits_iff_lt rfl).mpr one
  | _ => exact fits_standard _

theorem accepted_patient : (patient drain probe).Accepted :=
  { accepted_standard with
    manned := Nat.le_refl 1
    someRoom := rfl
    someTemplate := Nat.le_refl 1 }

/-- Whatever is configured, the end of a run and the probe have a number of whole seconds that
fits in 64 bits, and any two such numbers can be configured and are accepted.  The conductor of
a run is down if and only if, after the last worker has ended, it has reckoned a deadline that
is out of the clock's reach; a measurement is down if and only if it has begun with something
to measure and has reckoned such a deadline. -/
theorem deadlines_of_configured (configured : Configured config) :
    InSeconds config.drainTimeout ∧ InSeconds config.probeTimeout ∧
    (∀ source shutdown view trace last,
      mainPhase.Run (rules true) ⟨.start config shutdown, tasks config source, view⟩ trace last →
        (IsDown last ↔ ∃ transition ∈ trace, Overreaches config.drainTimeout transition)) ∧
    (∀ rules start (id : TaskId) channel samples trace last,
      start.tasks[id]? = some (.start channel samples config.probeTimeout) →
      measurements.Run rules start trace last →
        (Measurement.Measures id samples config.probeTimeout .crashed last ↔
          ∃ transition ∈ trace,
            Measurement.Overreaches id samples config.probeTimeout transition)) ∧
    (∀ drain probe, InSeconds drain → InSeconds probe →
      ∃ other, Configured other ∧ other.validate = .ok () ∧ other.drainTimeout = drain ∧
        other.probeTimeout = probe) := by
  have inRange := configured_iff_inRange.mp configured
  refine ⟨inRange.fits .drainTimeout, inRange.fits .probeTimeout, ?_, ?_, ?_⟩
  · intro source shutdown view trace last run
    exact isDown_iff_of_run run
  · intro rules start id channel samples trace last found run
    exact Measurement.crashed_iff_of_run found run
  · intro drain probe drainable probeable
    exact ⟨patient drain probe, configured_patient drainable probeable,
      validate_eq_ok_iff.mpr accepted_patient, rfl, rfl⟩

/-- The only message is sent and its worker ends. -/
def sentCourse : List (Cue RunState RunTask) :=
  List.flatten
    [List.replicate 5 (.move 0 0), [.answer 0 (.connected 0), .move 0 0],
      List.replicate 5 (.move 1 0),
      List.replicate 6 (.move 2 0), [.answer 2 .done, .move 2 0, .move 2 0], [.move 0 0]]

def looksDown (situation : Situation RunState RunTask) : Bool :=
  match situation.tasks[(0 : Nat)]? with
  | some (.conductor .crashed) => true
  | _ => false

theorem isDown_of_looksDown {situation : Situation RunState RunTask}
    (looks : looksDown situation = true) : IsDown situation := by
  unfold looksDown at looks
  split at looks
  case h_1 down => exact down
  case h_2 => contradiction

/-- With the longest patience there is, both come down. -/
theorem deadlines_of_configured_of_endless :
    let endless := patient (.ofSecs (Text.word64 - 1)) (.ofSecs (Text.word64 - 1))
    Configured endless ∧ endless.validate = .ok () ∧
      (∃ source view trace last,
        mainPhase.Run (rules true) ⟨.start endless false, tasks endless source, view⟩ trace last ∧
        IsDown last ∧ ∃ transition ∈ trace, Overreaches endless.drainTimeout transition) ∧
      ∃ view trace last,
        measurements.Run Measurement.alone ⟨.fresh, [.start 0 1 endless.probeTimeout], view⟩
          trace last ∧
        Measurement.Measures 0 1 endless.probeTimeout .crashed last := by
  intro endless
  have seconds : InSeconds (.ofSecs (Text.word64 - 1)) := inSeconds_ofSecs (by decide)
  have configured : Configured endless := configured_patient seconds seconds
  obtain ⟨_, _, ending, probing, _⟩ := deadlines_of_configured configured
  refine ⟨configured, validate_eq_ok_iff.mpr accepted_patient, ?_, ?_⟩
  · let source : RandomSource := .scripted [] 0
    let view : View := ⟨0, fun _ => true⟩
    have replayed : (mainPhase.replay (fun _ transition => transition.act.isInner) []
        ⟨.start endless false, tasks endless source, view⟩ sentCourse).any
        (fun ending => looksDown ending.2) = true := by
      decide +kernel
    obtain ⟨trace, last, run, shown⟩ :=
      System.exists_run_of_replay (rules_of_isInner true) replayed
    have down := isDown_of_looksDown shown
    exact ⟨source, view, trace, last, run, down, (ending _ _ _ _ _ run).mp down⟩
  · let view : View := ⟨0, fun _ => true⟩
    let start : ProbeSituation := ⟨.fresh, [.start 0 1 endless.probeTimeout], view⟩
    let next : ProbeSession × Measurement :=
      Measurement.begin 0 .fresh (.start 0 1 endless.probeTimeout)
    have moves : measurements.Step start (.move 0) (start.put 0 next) :=
      .move rfl (List.mem_singleton.mpr rfl)
    have run : measurements.Run Measurement.alone start
        [⟨start, .move 0, start.put 0 next⟩] (start.put 0 next) := .step .rest moves rfl
    have overreaches : Measurement.Overreaches 0 1 endless.probeTimeout
        ⟨start, .move 0, start.put 0 next⟩ :=
      ⟨rfl, ⟨_, rfl, rfl, rfl, rfl⟩, Nat.one_ne_zero, by decide +kernel⟩
    refine ⟨view, _, _, run, ?_⟩
    exact (probing _ start 0 0 1 _ _ rfl run).mpr ⟨_, List.mem_singleton.mpr rfl, overreaches⟩

end Config

end RoomLoad
