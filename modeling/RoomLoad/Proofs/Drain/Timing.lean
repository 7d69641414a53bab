import RoomLoad.Proofs.Drain.Looks

/-!
# How long a drain takes

The timer of a conductor that sleeps goes off exactly when it is due, and looking takes no
time.  So the looks of a drain come one interval after another from its beginning on, and the
one after its deadline is the last.
-/

namespace RoomLoad

namespace Drain

/-- When the conductor is to look next. -/
def due (config : Config) (drain : Drain) : Instant :=
  drain.begun + drain.looks.length * config.drainPollInterval.nanos

/-- The looks come one interval after another. -/
def Paced (config : Config) (drain : Drain) : Prop :=
  ∀ (index : Nat) look, drain.looks[index]? = some look →
    look.moment = drain.begun + index * config.drainPollInterval.nanos

variable {config : Config} {drain : Drain} {look : Look} {sleep : Option Duration}
  {deadline : Instant}

theorem Paced.withLook (paced : drain.Paced config) (due : look.moment = drain.due config) :
    (drain.withLook look sleep).Paced config := by
  intro index other found
  by_cases before : index < drain.looks.length
  · rw [Drain.withLook, List.getElem?_append_left before] at found
    exact paced index other found
  · rw [Drain.withLook, List.getElem?_append_right (Nat.le_of_not_lt before),
      List.getElem?_singleton] at found
    split at found
    case isTrue here =>
      have same : index = drain.looks.length := by omega
      cases found
      rw [due, same]
      rfl
    case isFalse => contradiction

theorem Paced.of_withLook (paced : (drain.withLook look sleep).Paced config) :
    drain.Paced config := by
  intro index other found
  apply paced
  obtain ⟨inside, _⟩ := List.getElem?_eq_some_iff.mp found
  rw [Drain.withLook, List.getElem?_append_left inside]
  exact found

theorem due_withLook (look : Look) (sleep : Option Duration) :
    (drain.withLook look sleep).due config = drain.due config + config.drainPollInterval.nanos := by
  simp only [due, Drain.withLook, List.length_append, List.length_singleton, Nat.succ_mul,
    Nat.add_assoc]

/-- The next look comes less than an interval after the deadline. -/
theorem GoesOn.intervals_lt (goesOn : drain.GoesOn config deadline) (paced : drain.Paced config)
    (patient : 0 < config.drainPollInterval.nanos) :
    drain.looks.length * config.drainPollInterval.nanos <
      config.drainTimeout.nanos + config.drainPollInterval.nanos := by
  cases count : drain.looks.length with
  | zero =>
      rw [Nat.zero_mul]
      exact Nat.lt_add_left _ patient
  | succ earlier =>
      obtain ⟨look, found⟩ : ∃ look, drain.looks[earlier]? = some look :=
        ⟨drain.looks[earlier], List.getElem?_eq_getElem (by omega)⟩
      have early := (goesOn.looks look (List.mem_of_getElem? found)).2
      rw [paced earlier look found, goesOn.deadline_eq] at early
      rw [Nat.succ_mul]
      exact Nat.add_lt_add_right (Nat.lt_of_add_lt_add_left early) _

theorem GoesOn.due_le (goesOn : drain.GoesOn config deadline) (paced : drain.Paced config)
    (patient : 0 < config.drainPollInterval.nanos) :
    drain.due config ≤
      drain.begun + config.drainTimeout.nanos + config.drainPollInterval.nanos := by
  have few := goesOn.intervals_lt paced patient
  rw [due, Nat.add_assoc]
  exact Nat.add_le_add_left (Nat.le_of_lt few) _

/-- There are no more sleeps than intervals in the timeout, the last of which may be cut
short. -/
theorem GoesOn.length_sleeps_le (goesOn : drain.GoesOn config deadline)
    (paced : drain.Paced config) (patient : 0 < config.drainPollInterval.nanos) :
    drain.sleeps.length ≤ (config.drainTimeout.nanos + config.drainPollInterval.nanos - 1) /
      config.drainPollInterval.nanos := by
  have few := goesOn.intervals_lt paced patient
  rw [goesOn.sleeps, List.length_replicate, Nat.le_div_iff_mul_le patient]
  omega

theorem Paced.moment_le (paced : drain.Paced config) (member : look ∈ drain.looks) :
    look.moment + config.drainPollInterval.nanos ≤ drain.due config := by
  obtain ⟨index, found⟩ := List.getElem?_of_mem member
  obtain ⟨inside, _⟩ := List.getElem?_eq_some_iff.mp found
  have intervals : (index + 1) * config.drainPollInterval.nanos ≤
      drain.looks.length * config.drainPollInterval.nanos := Nat.mul_le_mul_right _ inside
  rw [Nat.succ_mul] at intervals
  rw [paced index look found, due, Nat.add_assoc]
  exact Nat.add_le_add_left intervals _

end Drain

namespace Conductor

/-- How far the time is while a conductor drains, with the moment of its last step. -/
def OnTime (config : Config) (drain : Drain) (now rested : Instant) : ConductorPhase → Prop
  | .draining _ => now = drain.due config
  | .pausing _ interval => rested + interval.nanos = drain.due config ∧ now ≤ drain.due config
  | _ => True

/-- The looks of a drain have come in time, and the next one will. -/
def Keeps (config : Config) (drain : Option Drain) (now rested : Instant)
    (phase : ConductorPhase) : Prop :=
  ∀ begun, drain = some begun → begun.Paced config ∧ OnTime config begun now rested phase

variable {view : View} {task : TaskId} {state later : RunState} {phase next : ConductorPhase}
  {answer : Option Answer} {drain : Option Drain} {rested : Instant}

private theorem keeps_of_apart (stands : Stands state.config phase drain)
    (apart : hasBegun phase = false) {now : Instant} :
    Keeps state.config drain now rested next := by
  intro begun isBegun
  rw [stands.eq_none apart] at isBegun
  contradiction

theorem Goes.keeps (goes : Goes view task state phase answer later next)
    (stands : Stands state.config phase drain)
    (keeps : Keeps state.config drain view.now rested phase)
    (wakes : answer.isSome = true → ∀ deadline interval, phase = .pausing deadline interval →
      view.now = rested + interval.nanos) :
    Keeps state.config (noted view.now state phase next drain) view.now view.now next := by
  have looks : ∀ deadline sleep, phase = .draining deadline → sleep? next = sleep →
      ∃ begun : Drain, noted view.now state phase next drain =
          some (begun.withLook ⟨view.now, state.inflight, state.desk.shutdown⟩ sleep) ∧
        (begun.withLook ⟨view.now, state.inflight, state.desk.shutdown⟩ sleep).Paced state.config ∧
        view.now = begun.due state.config := by
    rintro deadline sleep rfl rfl
    obtain ⟨begun, rfl, _⟩ := stands.of_draining
    obtain ⟨paced, due⟩ := keeps begun rfl
    exact ⟨begun, rfl, paced.withLook due, due⟩
  have ends : ∀ deadline timedOut, phase = .draining deadline → next = .clearing timedOut →
      Keeps state.config (noted view.now state phase next drain) view.now view.now next := by
    rintro deadline timedOut here rfl begun isBegun
    obtain ⟨earlier, isNoted, paced, _⟩ := looks deadline none here rfl
    cases isNoted.symm.trans isBegun
    exact ⟨paced, trivial⟩
  cases goes with
  | refuses here | begins here | looks here | hasNoPlan here | launches here | looksOn here
  | falls here =>
      subst here
      exact keeps_of_apart stands rfl
  | collects here =>
      subst here
      rintro _ ⟨⟩
      refine ⟨nofun, ?_⟩
      simp [OnTime, Drain.due]
  | isDrained here | timesOut here => exact ends _ _ here rfl
  | pauses here =>
      rintro begun isBegun
      obtain ⟨earlier, isNoted, paced, due⟩ := looks _ _ here rfl
      cases isNoted.symm.trans isBegun
      refine ⟨paced, ?_⟩
      rw [OnTime, Drain.due_withLook, due]
      exact ⟨rfl, Nat.le_add_right _ _⟩
  | wakes here =>
      subst here
      intro begun isBegun
      obtain ⟨paced, due, _⟩ := keeps begun isBegun
      exact ⟨paced, (wakes rfl _ _ rfl).trans due⟩
  | clears here | finishes here =>
      subst here
      intro begun isBegun
      exact ⟨(keeps begun isBegun).1, trivial⟩

end Conductor

namespace MainPhase

def looksAt? (trace : List (Transition RunState RunTask))
    (situation : Situation RunState RunTask) : Option Instant :=
  match situation.tasks[(0 : Nat)]? with
  | some (.conductor (.draining _)) => some situation.view.now
  | some (.conductor (.pausing _ interval)) => some (lastStep 0 trace + interval.nanos)
  | _ => none

/-- Whether a step comes in time: the clock does not run back, nor past the moment at which the
conductor is to look, and the conductor does not wake up at another one. -/
def isTimely (trace : List (Transition RunState RunTask))
    (transition : Transition RunState RunTask) : Bool :=
  let now := transition.before.view.now
  let due := looksAt? trace transition.before
  match transition.act with
  | .shift => now ≤ transition.after.view.now && due.all (transition.after.view.now ≤ ·)
  | .answer id _ => id != 0 || due.all (now == ·)
  | _ => true

/-- A main phase that may be asked to stop, and whose conductor sleeps for exactly as long as
it means to. -/
def timely : Rules RunState RunTask := fun trace transition =>
  rules true trace transition ∧ isTimely trace transition = true

variable {trace : List (Transition RunState RunTask)}
  {before after start last : Situation RunState RunTask} {act : Act RunTask}
  {phase next : ConductorPhase} {config : Config}

/-- A drain that is in time. -/
structure Timed (config : Config) (trace : List (Transition RunState RunTask))
    (situation : Situation RunState RunTask) (phase : ConductorPhase) : Prop where
  drains : Drains config trace situation phase
  keeps : Conductor.Keeps config (drain? trace) situation.view.now (lastStep 0 trace) phase

private theorem keeps_of_shifts {view : View} (timed : Timed config trace before phase)
    (allowed : timely trace ⟨before, .shift, { before with view := view }⟩) :
    Conductor.Keeps config (drain? trace) view.now (lastStep 0 trace) phase := by
  obtain ⟨_, inTime⟩ := allowed
  simp only [isTimely, Bool.and_eq_true, decide_eq_true_eq, looksAt?, timed.drains.found]
    at inTime
  obtain ⟨later, due⟩ := inTime
  intro begun isBegun
  obtain ⟨paced, onTime⟩ := timed.keeps begun isBegun
  refine ⟨paced, ?_⟩
  cases phase with
  | draining deadline =>
      simp only [Option.all_some, decide_eq_true_eq] at due
      exact (Nat.le_antisymm due later).trans onTime
  | pausing deadline interval =>
      simp only [Option.all_some, decide_eq_true_eq] at due
      exact ⟨onTime.1, onTime.1 ▸ due⟩
  | _ => trivial

/-- A conductor that sleeps wakes up when its sleep is over. -/
private theorem wakes_of_timely {deadline : Instant} {interval : Duration}
    (found : before.tasks[0]? = some (.conductor (.pausing deadline interval)))
    (allowed : timely trace ⟨before, act, after⟩) (acts : act.task? = some 0)
    (answered : act.answer?.isSome = true) :
    before.view.now = lastStep 0 trace + interval.nanos := by
  obtain ⟨_, inTime⟩ := allowed
  cases act with
  | answer id given =>
      cases acts
      simpa [isTimely, looksAt?, found] using inTime
  | _ => contradiction

theorem Timed.step (timed : Timed config trace before phase)
    (step : mainPhase.Step before act after) (allowed : timely trace ⟨before, act, after⟩) :
    ∃ next, Timed config (trace ++ [⟨before, act, after⟩]) after next := by
  obtain ⟨next, drains⟩ := timed.drains.step step allowed.1
  refine ⟨next, drains, ?_⟩
  have goes := goes_of_step step (discreet_of_rules allowed.1 step)
  by_cases acts : act.task? = some 0
  · rcases goes.conductor drains.found with ⟨others, _⟩ | ⟨own, later, _, present, conducts, rfl⟩
    · exact absurd acts others
    · cases timed.drains.found.symm.trans present
      rw [drain?_append_of_conducts acts present, lastStep_append_of_acts acts]
      obtain ⟨isConfig, _, stands, _⟩ := timed.drains
      subst isConfig
      apply conducts.keeps stands timed.keeps
      rintro answered deadline interval rfl
      exact wakes_of_timely present allowed acts answered
  · have stays := step.tasks_of_ne timed.drains.found acts
    cases drains.found.symm.trans stays
    rw [drain?_append_of_ne acts, lastStep_append_of_ne acts]
    cases step with
    | shift view => exact keeps_of_shifts timed allowed
    | _ => exact timed.keeps

theorem timed_of_run (found : start.tasks[0]? = some (.conductor phase))
    (early : Conductor.hasCollected phase = false)
    (run : mainPhase.Run timely start trace last) :
    ∃ next, Timed start.common.config trace last next := by
  induction run with
  | rest =>
      have rests : mainPhase.Run (rules true) start [] start := .rest
      obtain ⟨next, drains⟩ := drains_of_run found early rests
      exact ⟨next, drains, nofun⟩
  | step run step allowed induction =>
      obtain ⟨next, timed⟩ := induction
      exact timed.step step allowed

/-- The looks of a drain, its sleeps and all of its time are bounded by its patience. -/
theorem Timed.within {drain : Drain} (timed : Timed config trace last phase)
    (patient : 0 < config.drainPollInterval.nanos) (isDrain : drain? trace = some drain) :
    drain.Paced config ∧
    drain.sleeps.length ≤ (config.drainTimeout.nanos + config.drainPollInterval.nanos - 1) /
      config.drainPollInterval.nanos ∧
    (∀ look ∈ drain.looks, look.moment ≤
      drain.begun + config.drainTimeout.nanos + config.drainPollInterval.nanos) ∧
    (Conductor.timedOut? phase = none → last.view.now ≤
      drain.begun + config.drainTimeout.nanos + config.drainPollInterval.nanos) := by
  have stands := timed.drains.stands
  obtain ⟨paced, onTime⟩ := timed.keeps drain isDrain
  rw [isDrain] at stands
  refine ⟨paced, ?_, ?_, ?_⟩
  · obtain ⟨earlier, deadline, goesOn, rfl | ⟨final, rfl⟩⟩ := stands.exists_goesOn
    · exact goesOn.length_sleeps_le paced patient
    · have fewer := goesOn.length_sleeps_le paced.of_withLook patient
      simpa [Drain.withLook] using fewer
  · intro look member
    have early := paced.moment_le member
    obtain ⟨earlier, deadline, goesOn, rfl | ⟨final, rfl⟩⟩ := stands.exists_goesOn
    · exact Nat.le_trans (Nat.le_of_add_right_le early) (goesOn.due_le paced patient)
    · rw [Drain.due_withLook] at early
      exact Nat.le_trans (Nat.le_of_add_le_add_right early)
        (goesOn.due_le paced.of_withLook patient)
  · intro going
    cases stands with
    | looks goesOn => exact Nat.le_trans (Nat.le_of_eq onTime) (goesOn.due_le paced patient)
    | sleeps goesOn => exact Nat.le_trans onTime.2 (goesOn.due_le paced patient)
    | concluded isOver =>
        rw [isOver] at going
        contradiction

/-- A drain that is not over goes on: when it is time the conductor looks, or wakes up to look. -/
theorem Timed.exists_further (timed : Timed config trace last phase)
    (run : mainPhase.Run timely start trace last)
    (begun : Conductor.hasBegun phase = true) (going : Conductor.timedOut? phase = none) :
    ∃ seen act after, act.task? = some 0 ∧
      mainPhase.Run timely start
        (trace ++ [⟨last, .shift, { last with view := seen }⟩] ++
          [⟨{ last with view := seen }, act, after⟩]) after := by
  obtain ⟨⟨_, found, stands, _⟩, keeps⟩ := timed
  cases phase with
  | draining deadline =>
      have moves :
          mainPhase.moves last.view 0 last.common (.conductor (.draining deadline)) ≠ [] := by
        show (Conductor.moves _ _ _ _).map _ ≠ []
        rw [Conductor.moves]
        split
        case isTrue => exact List.cons_ne_nil _ _
        case isFalse => split <;> exact List.cons_ne_nil _ _
      obtain ⟨next, others, isMoves⟩ := List.exists_cons_of_ne_nil moves
      -- a look is due at once: the clock stands still
      have shifted : mainPhase.Run timely start (trace ++ [⟨last, .shift, last⟩]) last :=
        .step run (.shift last.view) ⟨trivial, by simp [isTimely, looksAt?, found]⟩
      refine ⟨last.view, .move 0, last.put 0 next, rfl, .step shifted (.move found ?_)
        ⟨trivial, rfl⟩⟩
      rw [isMoves]
      exact List.mem_cons_self
  | pausing deadline interval =>
      obtain ⟨_, drain, isDrain, _⟩ := stands.of_pausing
      obtain ⟨_, due, early⟩ := keeps drain isDrain
      let seen : View := ⟨lastStep 0 trace + interval.nanos, last.view.isOpen⟩
      have shifted : mainPhase.Run timely start
          (trace ++ [⟨last, .shift, { last with view := seen }⟩]) { last with view := seen } := by
        refine .step run (.shift seen) ⟨trivial, ?_⟩
        simp [isTimely, looksAt?, found, seen, due, early]
      -- the clock goes right to the end of the sleep, and only then does the conductor wake up
      refine ⟨seen, .answer 0 .done, _, rfl, .step shifted (.answer found rfl (.slept interval))
        ⟨trivial, ?_⟩⟩
      have same : lastStep 0 (trace ++ [⟨last, .shift, { last with view := seen }⟩]) =
          lastStep 0 trace := lastStep_append_of_ne (by rintro ⟨⟩)
      simp [isTimely, looksAt?, found, same, seen]
  | finished result => cases result <;> contradiction
  | _ => contradiction

end MainPhase

end RoomLoad
