import RoomLoad.Proofs.Probe.Verdict

/-!
# One call with a session of its own

A call that nobody else disturbs counts exactly the echoes of its own samples, whatever
frames arrive and in whatever order.  It has only so much to do, and as long as it has not
come to its end it can go on.
-/

namespace RoomLoad

namespace ProbeSession

variable {session : ProbeSession} {samples : Nat} {history : List ProbeEvent} {now : Instant}
  {text : String}

theorem Hears.remaining_le {before after : ProbeSession}
    (hears : Hears history now text before after) : after.remaining ≤ before.remaining := by
  cases hears with
  | noise _ same | stray _ _ same => simp [same]
  | echo _ _ _ counted _ _ => omega

theorem permit_onFrame_eq_false (unpermitted : session.permit = false)
    (notLast : session.remaining ≠ 1) : (session.onFrame now text).permit = false := by
  unfold onFrame
  split
  case h_1 => exact unpermitted
  case h_2 =>
    split
    case h_1 => exact unpermitted
    case h_2 => simp [unpermitted, notLast]

/-- The permit of the last echo is not left again. -/
theorem Counts.complete_onFrame (counts : session.Counts samples history)
    (complete : session.permit = true → session.remaining = 0)
    (permit : (session.onFrame now text).permit = true) :
    (session.onFrame now text).remaining = 0 := by
  cases carries : carried? text with
  | none =>
      rw [onFrame_of_noise carries] at permit ⊢
      exact complete permit
  | some seq =>
      have looked : session.sentAt.lookup seq = outSince? seq history := counts.lookup_eq
      cases out : outSince? seq history with
      | none =>
          rw [onFrame_of_stray carries (looked.trans out)] at permit ⊢
          exact complete permit
      | some sent =>
          rw [onFrame_of_echo carries (looked.trans out)] at permit ⊢
          have missing := counts.remaining_pos out
          simp only [Bool.or_eq_true, beq_iff_eq] at permit ⊢
          rcases permit with left | last
          · exact absurd (complete left) (Nat.ne_of_gt missing)
          · omega

end ProbeSession

namespace Measurement

/-- Whether nobody else calls and nobody else changes the session. -/
def isAlone (transition : ProbeStep) : Bool :=
  match transition.act with
  | .outside => false
  | .begin _ => false
  | _ => true

def alone : Rules ProbeSession Measurement := fun _ transition => isAlone transition = true

theorem inTurn_of_alone {transition : ProbeStep} (allowed : isAlone transition = true) :
    isInTurn transition = true := by
  unfold isAlone at allowed
  unfold isInTurn
  split at allowed <;> simp_all

/-- How many steps a call still takes, at most. -/
def stepsLeft (session : ProbeSession) (measurement : Measurement) : Nat :=
  match measurement.phase with
  | .starting => 2 * measurement.samples + 5
  | .marking sent => 2 * (measurement.samples - sent) + 4
  | .sending sent _ => 2 * (measurement.samples - sent) + 3
  | .checking => if session.remaining = 0 then 1 else 3
  | .waiting => 2
  | .finished _ => 0
  | .crashed => 0

section Steps

variable {now : Instant} {session later : ProbeSession} {measurement next : Measurement}
  {account : ProbeAccount} {answer : Option Answer}

theorem stepsLeft_mono (fewer : later.remaining ≤ session.remaining) :
    measurement.stepsLeft later ≤ measurement.stepsLeft session := by
  unfold stepsLeft
  split
  case h_4 => split <;> split <;> omega
  all_goals exact Nat.le_refl _

theorem stepsLeft_goTo_checking_le (session : ProbeSession) (measurement : Measurement) :
    (measurement.goTo .checking).stepsLeft session ≤ 3 := by
  simp only [stepsLeft, goTo]
  split <;> omega

theorem Goes.stepsLeft_lt (goes : Goes now session measurement answer later next)
    (stands : measurement.Stands account session)
    (complete : session.permit = true → session.remaining = 0) :
    next.stepsLeft later < measurement.stepsLeft session := by
  cases goes with
  | refuses phase _ | crashes phase _ _ | fails phase | givesUp phase _ =>
      simp [stepsLeft, goTo, phase]
  | begins starting _ _ => simp [stepsLeft, starting]
  | marks marking more => simp [stepsLeft, goTo, marking]
  | @hasSent sent marking noMore =>
      have fromHere : measurement.stepsLeft session = 2 * (measurement.samples - sent) + 4 := by
        simp [stepsLeft, marking]
      have few := stepsLeft_goTo_checking_le session measurement
      omega
  | succeeds checking done => simp [stepsLeft, goTo, checking, done]
  | misses checking missing => simp [stepsLeft, goTo, checking, missing]
  | wakes waiting permitted _ =>
      have done : session.takePermit.remaining = 0 := complete permitted
      simp [stepsLeft, goTo, waiting, done]
  | @sends sent payload sending =>
      have atMost := (stands.accounts (sent + 1) (by simp [marked?, sending])).atMost
      simp only [stepsLeft, goTo, sending]
      omega

theorem Goes.timeout_eq (goes : Goes now session measurement answer later next) :
    next.timeout = measurement.timeout := by
  cases goes <;> rfl

theorem Goes.phase_ne_starting (goes : Goes now session measurement answer later next) :
    next.phase ≠ .starting := by
  cases goes <;> exact nofun

/-- A call comes down only at its beginning, when the clock cannot name its deadline. -/
theorem Goes.of_crashed (goes : Goes now session measurement answer later next)
    (crashed : next.phase = .crashed) :
    measurement.phase = .starting ∧ deadline? now measurement.timeout = none := by
  cases goes with
  | crashes starting _ unnamed => exact ⟨starting, unnamed⟩
  | _ => contradiction

theorem goes_on {view : View} (atWork : measurement.hasEnded = false) :
    measurement.moves view session ≠ [] ∨ measurement.call?.isSome = true := by
  unfold hasEnded at atWork
  unfold moves call?
  split at atWork
  case h_1 | h_2 => contradiction
  case h_3 =>
    split
    case h_1 => simp
    case h_2 =>
      left
      split <;> simp
    case h_3 =>
      left
      split <;> simp
    case h_4 => simp_all
    case h_5 => cases phase : measurement.phase <;> simp_all

end Steps

/-- What a single call keeps to. -/
structure Lone (samples : Nat) (timeout : Duration) (trace : List ProbeStep)
    (situation : ProbeSituation) (measurement : Measurement) : Prop where
  tasks : situation.tasks = [measurement]
  samples_eq : measurement.samples = samples
  timeout_eq : measurement.timeout = timeout
  unused : measurement.phase = .starting →
    situation.common.permit = false ∧ (account trace).samples = 0
  begun : measurement.phase ≠ .starting → (account trace).samples = samples
  complete : situation.common.permit = true → situation.common.remaining = 0
  steps : stepsOf 0 trace + measurement.stepsLeft situation.common ≤ 2 * samples + 5
  crashed : measurement.phase = .crashed → marked (account trace).history = [] ∧
    ∃ step ∈ trace, deadline? step.before.view.now timeout = none

section Lone

variable {trace earlier later : List ProbeStep} {before after last : ProbeSituation}
  {act : Act Measurement} {view : View} {channel : ChannelId} {samples : Nat}
  {timeout : Duration} {measurement next : Measurement} {session : ProbeSession}

private theorem Goes.complete {now : Instant} {answer : Option Answer} {later : ProbeSession}
    (goes : Goes now session measurement answer later next)
    (complete : session.permit = true → session.remaining = 0)
    (unused : measurement.phase = .starting → session.permit = false) :
    later.permit = true → later.remaining = 0 := by
  cases goes with
  | begins starting _ _ | crashes starting _ _ =>
      intro permitted
      rw [ProbeSession.begin, unused starting] at permitted
      contradiction
  | wakes => exact nofun
  | _ => exact complete

private theorem Lone.goes (lone : Lone samples timeout trace before measurement)
    (settles : Settles trace before) (positive : 0 < samples) (acts : act.task? = some 0)
    (goes : Goes before.view.now before.common measurement act.answer? session next) :
    Lone samples timeout (trace ++ [⟨before, act, before.put 0 (session, next)⟩])
      (before.put 0 (session, next)) next := by
  have found : before.tasks[0]? = some measurement := by simp [lone.tasks]
  have stands := settles.stands 0 measurement found
  have fewer := goes.stepsLeft_lt stands lone.complete
  have someSamples : measurement.samples ≠ 0 := lone.samples_eq ▸ Nat.ne_of_gt positive
  constructor
  case tasks => simp [Situation.put, lone.tasks]
  case samples_eq => exact goes.samples_eq.trans lone.samples_eq
  case timeout_eq => exact goes.timeout_eq.trans lone.timeout_eq
  case unused => exact fun starting => absurd starting goes.phase_ne_starting
  case begun =>
    intro _
    rw [account_append_of_acts acts found]
    unfold ProbeAccount.noted
    split
    case h_1 => rw [if_neg someSamples, lone.samples_eq]
    case h_2 _ marking =>
      have same := lone.begun (by simp [marking])
      split <;> exact same
    case h_3 notStarting _ => exact lone.begun notStarting
  case complete => exact goes.complete lone.complete fun starting => (lone.unused starting).1
  case steps =>
    have before := lone.steps
    rw [stepsOf_append_of_acts acts]
    change stepsOf 0 trace + 1 + next.stepsLeft session ≤ 2 * samples + 5
    omega
  case crashed =>
    intro crashed
    obtain ⟨starting, unnamed⟩ := goes.of_crashed crashed
    refine ⟨?_, _, List.mem_append_right _ (List.mem_singleton.mpr rfl), lone.timeout_eq ▸ unnamed⟩
    rw [account_append_of_acts acts found, ProbeAccount.noted]
    simp only [starting, someSamples, if_false]
    rfl

private theorem Lone.step (lone : Lone samples timeout trace before measurement)
    (settles : Settles trace before) (positive : 0 < samples)
    (step : measurements.Step before act after)
    (allowed : isAlone ⟨before, act, after⟩ = true) :
    ∃ next, Lone samples timeout (trace ++ [⟨before, act, after⟩]) after next := by
  cases acts : act.task? with
  | some id =>
      obtain ⟨acting, session, next, found, goes, rfl⟩ := goes_of_step step acts
      have isFirst : id = 0 ∧ measurement = acting := by
        rw [lone.tasks, List.getElem?_singleton] at found
        split at found
        case isTrue zero => exact ⟨zero, Option.some.inj found⟩
        case isFalse => contradiction
      obtain ⟨rfl, rfl⟩ := isFirst
      exact ⟨next, lone.goes settles positive acts goes⟩
  | none =>
      refine ⟨measurement, ?_⟩
      have steps : stepsOf 0 (trace ++ [⟨before, act, after⟩]) = stepsOf 0 trace :=
        stepsOf_append_of_ne (by simp [acts])
      have unchanged : (∀ text, act ≠ .frame text) →
          account (trace ++ [⟨before, act, after⟩]) = account trace :=
        account_append_of_others acts
      cases step with
      | move | answer | outside | begin => contradiction
      | frame text =>
          constructor
          case tasks => exact lone.tasks
          case samples_eq => exact lone.samples_eq
          case timeout_eq => exact lone.timeout_eq
          case unused =>
            intro starting
            obtain ⟨unpermitted, none⟩ := lone.unused starting
            have noneMissing := settles.counts.remaining
            rw [account_append_frame]
            -- nothing is counted before the call begins, so no frame can be the last echo
            exact ⟨ProbeSession.permit_onFrame_eq_false unpermitted (by omega), none⟩
          case begun =>
            rw [account_append_frame]
            exact lone.begun
          case complete => exact settles.counts.complete_onFrame lone.complete
          case steps =>
            have fewer : measurement.stepsLeft (before.common.onFrame before.view.now text) ≤
                measurement.stepsLeft before.common :=
              stepsLeft_mono (settles.counts.hears).remaining_le
            rw [steps]
            exact Nat.le_trans (Nat.add_le_add_left fewer _) lone.steps
          case crashed =>
            intro crashed
            obtain ⟨none, step, member, unnamed⟩ := lone.crashed crashed
            rw [account_append_frame, ProbeAccount.push, marked_append_frame]
            exact ⟨none, step, List.mem_append_left _ member, unnamed⟩
      | countReconnect | shift =>
          specialize unchanged (by rintro text ⟨⟩)
          constructor
          case tasks => exact lone.tasks
          case samples_eq => exact lone.samples_eq
          case timeout_eq => exact lone.timeout_eq
          case unused =>
            rw [unchanged]
            exact lone.unused
          case begun =>
            rw [unchanged]
            exact lone.begun
          case complete => exact lone.complete
          case steps =>
            rw [steps]
            exact lone.steps
          case crashed =>
            intro crashed
            obtain ⟨none, step, member, unnamed⟩ := lone.crashed crashed
            rw [unchanged]
            exact ⟨none, step, List.mem_append_left _ member, unnamed⟩

private theorem lone_of_run (positive : 0 < samples) (bounded : samples < Text.word64)
    (run : measurements.Run alone ⟨.fresh, [.start channel samples timeout], view⟩ trace last) :
    Settles trace last ∧ ∃ measurement, Lone samples timeout trace last measurement := by
  have new : (start channel samples timeout).isNew = true := decide_eq_true bounded
  have turns := run.imp fun _ _ => inTurn_of_alone
  refine ⟨settles_of_run new turns, ?_⟩
  clear turns
  induction run with
  | rest =>
      refine ⟨.start channel samples timeout, ?_⟩
      constructor
      case tasks => rfl
      case samples_eq => rfl
      case timeout_eq => rfl
      case unused => exact fun _ => ⟨rfl, rfl⟩
      case begun => exact fun notStarting => absurd rfl notStarting
      case complete => exact nofun
      case steps => exact Nat.le_of_eq (Nat.zero_add _)
      case crashed => exact nofun
  | step run step allowed induction =>
      obtain ⟨measurement, lone⟩ := induction
      have settles := settles_of_run new (run.imp fun _ _ => inTurn_of_alone)
      exact lone.step settles positive step allowed

/-- A probe counts exactly its own echoes, in whatever order frames arrive and sends return.
At any time its counts keep to the history, and a frame changes them only if it echoes what is
out or has no tag.  If no send fails, it returns a mean if and only if every sample has been
echoed by the time it stops waiting, and the counts of what is missing otherwise.  As long as
it has not come to its end it can go on, and there is only so much to do.  It goes down only
before anything is sent, when the clock cannot name its deadline. -/
theorem counts_echoes_of_run (positive : 0 < samples) (bounded : samples < Text.word64)
    (run : measurements.Run alone ⟨.fresh, [.start channel samples timeout], view⟩ trace last) :
    ∃ measurement, last.tasks = [measurement] ∧
      (measurement.phase ≠ .starting → last.common.Balanced samples (account trace).history) ∧
      (∀ earlier transition later text, trace = earlier ++ transition :: later →
        transition.act = .frame text →
          ProbeSession.Hears (account earlier).history transition.before.view.now text
            transition.before.common transition.after.common) ∧
      ((∀ transition ∈ trace, ∀ fault, transition.act.answer? ≠ some (.failed fault)) →
        ∀ earlier transition later acting result, trace = earlier ++ transition :: later →
          Ends transition acting result →
            Verdict samples (account earlier).history result) ∧
      (measurement.hasEnded = false → measurements.CanGoOn last 0) ∧
      stepsOf 0 trace ≤ 2 * samples + 5 ∧
      (measurement.phase = .crashed → marked (account trace).history = [] ∧
        ∃ transition ∈ trace, deadline? transition.before.view.now timeout = none) := by
  have new : (start channel samples timeout).isNew = true := decide_eq_true bounded
  have turns := run.imp fun _ _ => inTurn_of_alone
  obtain ⟨settles, measurement, lone⟩ := lone_of_run positive bounded run
  refine ⟨measurement, lone.tasks, ?_, ?_, ?_, ?_, ?_, lone.crashed⟩
  · intro begun
    exact lone.begun begun ▸ settles.counts.balanced
  · intro earlier transition later text parts isFrame
    exact hears_of_run new turns parts isFrame
  · intro sends earlier transition later acting result parts ends
    obtain ⟨reached, _, _⟩ := run.split parts
    obtain ⟨_, single, before⟩ := lone_of_run positive bounded reached
    have ending := ending_of_run new turns parts ends
    obtain ⟨id, next, found, _⟩ := ends
    have member := List.mem_of_getElem? found
    rw [before.tasks] at member
    cases List.mem_singleton.mp member
    cases ending with
    | refused empty => exact absurd (before.samples_eq.symm.trans empty) (Nat.ne_of_gt positive)
    | unsent failed => exact absurd failed (sends transition (by simp [parts]) _)
    | judged verdict => exact before.samples_eq ▸ verdict
  · intro atWork
    exact ⟨measurement, by simp [lone.tasks], goes_on atWork⟩
  · exact Nat.le_trans (Nat.le_add_right _ _) lone.steps

end Lone

def report? (measurement : Measurement) : Option ProbeReport :=
  match measurement.phase with
  | .finished (.ok report) => some report
  | _ => none

theorem result?_of_report? {measurement : Measurement} {report : ProbeReport}
    (reports : measurement.report? = some report) : measurement.result? = some (.ok report) := by
  unfold report? at reports
  unfold result?
  split at reports <;> simp_all

/-- A frame that carries a sequence id and nothing else. -/
def echoText (digit : String) : String :=
  "\x7b\"data\":\x7b\"message\":\"seq:" ++ digit ++ "|\"\x7d\x7d"

/-- The second sample is echoed twice and before the first, between noise and an id that
nobody sent.  The last echo comes after the call has seen that it is missing, and the call
wakes when its time is up. -/
def shuffledCourse : List (Cue ProbeSession Measurement) :=
  [.move 0 0, .move 0 0, .answer 0 .done, .shift ⟨1000000, fun _ => true⟩, .move 0 0,
    .answer 0 .done, .move 0 0, .frame "noise", .frame (echoText "9"),
    .shift ⟨5000000, fun _ => true⟩, .frame (echoText "1"), .frame (echoText "1"), .move 0 0,
    .shift ⟨8000000, fun _ => true⟩, .frame (echoText "0"),
    .shift ⟨50000000, fun _ => true⟩, .answer 0 .done, .move 0 0]

theorem counts_echoes_of_run_of_shuffled :
    ∃ view trace last measurement,
      0 < 2 ∧ 2 < Text.word64 ∧
      measurements.Run alone ⟨.fresh, [.start 0 2 (.ofMillis 50)], view⟩ trace last ∧
      last.tasks = [measurement] ∧
      measurement.result? = some (.ok ⟨2, .ofMillis 6⟩) ∧
      last.common.Balanced 2 (account trace).history ∧ stepsOf 0 trace ≤ 9 := by
  let view : View := ⟨0, fun _ => true⟩
  have positive : 0 < 2 := by decide
  have bounded : 2 < Text.word64 := by decide
  have replayed : (measurements.replay (fun _ transition => isAlone transition) []
      ⟨.fresh, [.start 0 2 (.ofMillis 50)], view⟩ shuffledCourse).any
      (fun ending => ending.2.tasks.head?.bind report? == some ⟨2, .ofMillis 6⟩) = true := by
    decide +kernel
  obtain ⟨trace, last, run, shown⟩ :=
    System.exists_run_of_replay (fun _ _ allowed => allowed) replayed
  obtain ⟨measurement, alone, balanced, _, _, _, few, _⟩ :=
    counts_echoes_of_run positive bounded run
  rw [beq_iff_eq, alone, List.head?_cons, Option.bind_some] at shown
  have ended := result?_of_report? shown
  have begun : measurement.phase ≠ .starting := fun starting => by
    simp [result?, starting] at ended
  exact ⟨view, trace, last, measurement, positive, bounded, run, alone, ended, balanced begun, few⟩

end Measurement

end RoomLoad
