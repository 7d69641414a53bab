import RoomLoad.Proofs.Faultless.Echoes

/-!
# What a conductor sees while it waits for acknowledgements

A conductor that waits for acknowledgements looks again and again, and sleeps in between.
Its drain is over as soon as it sees that none is outstanding, that the run was asked to
stop, or that it has waited long enough.
-/

namespace RoomLoad

/-- What a conductor sees when it looks for outstanding acknowledgements. -/
structure Look where
  moment : Instant
  inflight : Nat
  shutdown : Bool
deriving DecidableEq

namespace Look

/-- Something is outstanding, and nobody has asked the run to stop. -/
def Waits (look : Look) : Prop :=
  look.inflight ≠ 0 ∧ look.shutdown = false

/-- Why a drain is over after a look. -/
def Ends (look : Look) (deadline : Instant) : Bool → Prop
  | true => look.Waits ∧ deadline ≤ look.moment
  | false => look.inflight = 0 ∨ look.shutdown = true

end Look

/-- What a conductor has done since it began to wait for acknowledgements. -/
structure Drain where
  begun : Instant
  looks : List Look
  sleeps : List Duration
deriving DecidableEq

/-- The conductor has looked once more, and goes to sleep if the drain is not over. -/
def Drain.withLook (drain : Drain) (look : Look) (sleep : Option Duration) : Drain :=
  { drain with looks := drain.looks ++ [look], sleeps := drain.sleeps ++ sleep.toList }

/-- A drain that is not over yet: every look was followed by a sleep. -/
structure Drain.GoesOn (config : Config) (drain : Drain) (deadline : Instant) : Prop where
  named : deadline? drain.begun config.drainTimeout = some deadline
  looks : ∀ look ∈ drain.looks, look.Waits ∧ look.moment < deadline
  sleeps : drain.sleeps = List.replicate drain.looks.length config.drainPollInterval

theorem Drain.GoesOn.deadline_eq {config : Config} {drain : Drain} {deadline : Instant}
    (goesOn : drain.GoesOn config deadline) :
    deadline = drain.begun + config.drainTimeout.nanos :=
  eq_add_of_deadline? goesOn.named

theorem Drain.GoesOn.pauses {config : Config} {drain : Drain} {deadline : Instant} {look : Look}
    (goesOn : drain.GoesOn config deadline) (waits : look.Waits) (early : look.moment < deadline) :
    (drain.withLook look (some config.drainPollInterval)).GoesOn config deadline := by
  constructor
  case named => exact goesOn.named
  case looks =>
    intro other member
    rcases List.mem_append.mp member with before | here
    · exact goesOn.looks other before
    · cases List.mem_singleton.mp here
      exact ⟨waits, early⟩
  case sleeps =>
    rw [Drain.withLook, goesOn.sleeps, List.length_append, List.length_singleton,
      List.replicate_succ']
    rfl

namespace Conductor

def timedOut? : ConductorPhase → Option Bool
  | .clearing timedOut => some timedOut
  | .closing _ timedOut => some timedOut
  | .finished (.ok summary) => some summary.drainTimedOut
  | _ => none

def hasBegun (phase : ConductorPhase) : Bool :=
  isWindingDown phase || (timedOut? phase).isSome

def sleep? (phase : ConductorPhase) : Option Duration :=
  match call? phase with
  | some (.sleep duration) => some duration
  | _ => none

def noted (now : Instant) (state : RunState) (phase next : ConductorPhase)
    (drain : Option Drain) : Option Drain :=
  match phase with
  | .awaiting => if hasBegun next then some ⟨now, [], []⟩ else drain
  | .draining _ =>
      drain.map fun drain =>
        drain.withLook ⟨now, state.inflight, state.desk.shutdown⟩ (sleep? next)
  | _ => drain

/-- The drain of a conductor, by where it stands. -/
inductive Stands (config : Config) : ConductorPhase → Option Drain → Prop where
  | apart {phase : ConductorPhase} :
      hasBegun phase = false →
      Stands config phase none
  | looks {drain : Drain} {deadline : Instant} :
      drain.GoesOn config deadline →
      Stands config (.draining deadline) (some drain)
  | sleeps {drain : Drain} {deadline : Instant} :
      drain.GoesOn config deadline →
      Stands config (.pausing deadline config.drainPollInterval) (some drain)
  | concluded {phase : ConductorPhase} {timedOut : Bool} {drain : Drain} {deadline : Instant}
      {final : Look} :
      timedOut? phase = some timedOut →
      drain.GoesOn config deadline →
      final.Ends deadline timedOut →
      Stands config phase (some (drain.withLook final none))

variable {view : View} {task : TaskId} {state later : RunState} {phase next : ConductorPhase}
  {answer : Option Answer} {config : Config} {drain : Option Drain}

theorem hasBegun_of_early (early : hasCollected phase = false) : hasBegun phase = false := by
  cases phase <;> first | rfl | contradiction

theorem Stands.eq_none (stands : Stands config phase drain) (apart : hasBegun phase = false) :
    drain = none := by
  cases stands with
  | apart => rfl
  | looks | sleeps => contradiction
  | concluded isOver =>
      rw [hasBegun, isOver, Option.isSome_some, Bool.or_true] at apart
      contradiction

theorem Stands.of_draining {deadline : Instant}
    (stands : Stands config (.draining deadline) drain) :
    ∃ begun, drain = some begun ∧ begun.GoesOn config deadline := by
  cases stands with
  | looks goesOn => exact ⟨_, rfl, goesOn⟩
  | apart | concluded => contradiction

theorem Stands.of_pausing {deadline : Instant} {interval : Duration}
    (stands : Stands config (.pausing deadline interval) drain) :
    interval = config.drainPollInterval ∧
      ∃ begun, drain = some begun ∧ begun.GoesOn config deadline := by
  cases stands with
  | sleeps goesOn => exact ⟨rfl, _, rfl, goesOn⟩
  | apart | concluded => contradiction

theorem Stands.of_over {timedOut : Bool} (stands : Stands config phase drain)
    (isOver : timedOut? phase = some timedOut) :
    ∃ (begun : Drain) (deadline : Instant) (final : Look),
      drain = some (begun.withLook final none) ∧ begun.GoesOn config deadline ∧
        final.Ends deadline timedOut := by
  cases stands with
  | @concluded _ other begun deadline final same goesOn ends =>
      cases same.symm.trans isOver
      exact ⟨begun, deadline, final, rfl, goesOn, ends⟩
  | looks | sleeps => contradiction
  | apart apart =>
      rw [hasBegun, isOver, Option.isSome_some, Bool.or_true] at apart
      contradiction

theorem Stands.exists_goesOn {begun : Drain} (stands : Stands config phase (some begun)) :
    ∃ (earlier : Drain) (deadline : Instant), earlier.GoesOn config deadline ∧
      (begun = earlier ∨ ∃ final, begun = earlier.withLook final none) := by
  cases stands with
  | looks goesOn | sleeps goesOn => exact ⟨begun, _, goesOn, .inl rfl⟩
  | concluded _ goesOn => exact ⟨_, _, goesOn, .inr ⟨_, rfl⟩⟩

/-- A conductor goes down only when the clock cannot name the end of its patience. -/
theorem Goes.unnamed_of_crashed (goes : Goes view task state phase answer later .crashed) :
    deadline? view.now state.config.drainTimeout = none := by
  generalize isNext : ConductorPhase.crashed = next at goes
  cases goes with
  | falls _ _ _ unnamed => exact unnamed
  | looks | looksOn =>
      have early := congrArg hasCollected isNext
      rw [hasCollected_afterLookup] at early
      contradiction
  | _ => contradiction

theorem Goes.stands (goes : Goes view task state phase answer later next)
    (stands : Stands state.config phase drain) :
    Stands state.config next (noted view.now state phase next drain) := by
  have ends : ∀ deadline timedOut, phase = .draining deadline → next = .clearing timedOut →
      (⟨view.now, state.inflight, state.desk.shutdown⟩ : Look).Ends deadline timedOut →
      Stands state.config next (noted view.now state phase next drain) := by
    rintro deadline timedOut rfl rfl ends
    obtain ⟨begun, rfl, goesOn⟩ := stands.of_draining
    exact .concluded rfl goesOn ends
  cases goes with
  | refuses here | begins here | hasNoPlan here | launches here =>
      subst here
      cases stands.eq_none rfl
      exact .apart rfl
  | looks here | looksOn here =>
      subst here
      cases stands.eq_none rfl
      exact .apart (hasBegun_of_early hasCollected_afterLookup)
  | collects here _ _ named =>
      subst here
      exact .looks ⟨named, nofun, rfl⟩
  | falls here =>
      subst here
      cases stands.eq_none rfl
      exact .apart rfl
  | isDrained here drained => exact ends _ _ here rfl drained
  | timesOut here inflight calm late => exact ends _ _ here rfl ⟨⟨inflight, calm⟩, late⟩
  | pauses here inflight calm early =>
      subst here
      obtain ⟨begun, rfl, goesOn⟩ := stands.of_draining
      exact .sleeps (goesOn.pauses ⟨inflight, calm⟩ early)
  | wakes here =>
      subst here
      obtain ⟨_, begun, rfl, goesOn⟩ := stands.of_pausing
      exact .looks goesOn
  | clears here | finishes here =>
      subst here
      obtain ⟨begun, deadline, final, rfl, goesOn, ends⟩ := stands.of_over rfl
      exact .concluded rfl goesOn ends

end Conductor

namespace MainPhase

def drainAfter (drain : Option Drain) (transition : Transition RunState RunTask) :
    Option Drain :=
  if transition.act.task? = some 0 then
    match transition.before.tasks[(0 : Nat)]?, transition.after.tasks[(0 : Nat)]? with
    | some (.conductor phase), some (.conductor next) =>
        Conductor.noted transition.before.view.now transition.before.common phase next drain
    | _, _ => drain
  else drain

/-- The drain of a run, once it has begun. -/
def drain? (trace : List (Transition RunState RunTask)) : Option Drain :=
  trace.foldl drainAfter none

variable {stoppable : Bool} {trace : List (Transition RunState RunTask)}
  {transition : Transition RunState RunTask} {before after start last : Situation RunState RunTask}
  {act : Act RunTask} {phase next : ConductorPhase} {state : RunState} {config : Config}

theorem drain?_append_of_ne (others : transition.act.task? ≠ some 0) :
    drain? (trace ++ [transition]) = drain? trace := by
  simp [drain?, drainAfter, others]

theorem drain?_append_of_conducts (acts : act.task? = some 0)
    (found : before.tasks[0]? = some (.conductor phase)) :
    drain? (trace ++ [⟨before, act, before.put 0 (state, .conductor next)⟩]) =
      Conductor.noted before.view.now before.common phase next (drain? trace) := by
  have here : (before.put 0 (state, .conductor next)).tasks[0]? = some (.conductor next) :=
    Situation.tasks_put_self found _
  simp [drain?, drainAfter, acts, found, here]

/-- How the conductor of a run stands to its drain. -/
structure Drains (config : Config) (trace : List (Transition RunState RunTask))
    (situation : Situation RunState RunTask) (phase : ConductorPhase) : Prop where
  config_eq : situation.common.config = config
  found : situation.tasks[0]? = some (.conductor phase)
  stands : Conductor.Stands config phase (drain? trace)
  falls : phase = .crashed → deadline? (lastStep 0 trace) config.drainTimeout = none

theorem Drains.step (drains : Drains config trace before phase)
    (step : mainPhase.Step before act after)
    (allowed : rules stoppable trace ⟨before, act, after⟩) :
    ∃ next, Drains config (trace ++ [⟨before, act, after⟩]) after next := by
  obtain ⟨rfl, found, stands, falls⟩ := drains
  have goes := goes_of_step step (discreet_of_rules allowed step)
  by_cases acts : act.task? = some 0
  -- the first task is the conductor, so whoever acts in its place is the conductor
  · cases goes with
    | idles idle =>
        rw [idle] at acts
        contradiction
    | generates own present | works own present =>
        cases own.symm.trans acts
        cases found.symm.trans present
    | @conducts _ _ next later own present conducts =>
        cases own.symm.trans acts
        cases found.symm.trans present
        refine ⟨next, conducts.advances.desk_eq.2.2.2.2.2.1, ?_, ?_, ?_⟩
        · exact Situation.tasks_put_self present _
        · rw [drain?_append_of_conducts acts present]
          exact conducts.stands stands
        · rintro rfl
          rw [lastStep_append_of_acts acts]
          exact conducts.unnamed_of_crashed
  · refine ⟨phase, goes.config_eq, step.tasks_of_ne found acts, ?_, ?_⟩
    · rw [drain?_append_of_ne acts]
      exact stands
    · rw [lastStep_append_of_ne acts]
      exact falls

theorem drains_of_run (found : start.tasks[0]? = some (.conductor phase))
    (early : Conductor.hasCollected phase = false)
    (run : mainPhase.Run (rules stoppable) start trace last) :
    ∃ next, Drains start.common.config trace last next := by
  induction run with
  | rest =>
      refine ⟨phase, rfl, found, .apart (Conductor.hasBegun_of_early early), ?_⟩
      rintro rfl
      contradiction
  | step run step allowed induction =>
      obtain ⟨next, drains⟩ := induction
      exact drains.step step allowed

/-- A drain has a deadline, and goes to sleep behind each look except the last one. -/
theorem Drains.of_drain (drains : Drains config trace last phase) {drain : Drain}
    (isDrain : drain? trace = some drain) :
    deadline? drain.begun config.drainTimeout = some (drain.begun + config.drainTimeout.nanos) ∧
      drain.looks.length ≤ drain.sleeps.length + 1 := by
  have stands := drains.stands
  rw [isDrain] at stands
  obtain ⟨earlier, deadline, goesOn, isDrain⟩ := stands.exists_goesOn
  have sleeps := congrArg List.length goesOn.sleeps
  rw [List.length_replicate] at sleeps
  have named := goesOn.deadline_eq ▸ goesOn.named
  rcases isDrain with rfl | ⟨final, rfl⟩
  · exact ⟨named, by omega⟩
  · refine ⟨named, ?_⟩
    simp [Drain.withLook, sleeps]

/-- When a drain is over, all its looks but the last had a reason to go on. -/
theorem Drains.of_over (drains : Drains config trace last phase) {timedOut : Bool}
    (isOver : Conductor.timedOut? phase = some timedOut) :
    ∃ drain earlier final, drain? trace = some drain ∧ drain.looks = earlier ++ [final] ∧
      drain.sleeps = List.replicate earlier.length config.drainPollInterval ∧
      (∀ look ∈ earlier, look.inflight ≠ 0 ∧ look.shutdown = false ∧
        look.moment < drain.begun + config.drainTimeout.nanos) ∧
      final.Ends (drain.begun + config.drainTimeout.nanos) timedOut := by
  obtain ⟨earlier, deadline, final, isDrain, goesOn, ends⟩ := drains.stands.of_over isOver
  obtain rfl := goesOn.deadline_eq
  refine ⟨_, earlier.looks, final, isDrain, rfl, ?_, ?_, ends⟩
  · exact (List.append_nil _).trans goesOn.sleeps
  · intro look member
    obtain ⟨⟨inflight, calm⟩, before⟩ := goesOn.looks look member
    exact ⟨inflight, calm, before⟩

end MainPhase

end RoomLoad
