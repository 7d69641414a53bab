import RoomLoad.Proofs.Delivery.Backoff
import RoomLoad.Proofs.Delivery.Effort
import RoomLoad.Proofs.Handoff.Books

/-!
# What a worker still does when it is asked to stop

A worker looks at the request to stop before it asks for an item, while it waits for one
and while it rests.  What it may still do is therefore told by where it stands, and by
whether it was asked before it lay down to rest: a sleep that begins after the request
is not over before the request is heard.
-/

namespace RoomLoad

namespace MainPhase

variable {trace : List (Transition RunState RunTask)} {transition : Transition RunState RunTask}
  {before after situation : Situation RunState RunTask} {act : Act RunTask} {id : TaskId}

/-- The steps taken since the run was asked to stop. -/
def sinceStop (trace : List (Transition RunState RunTask)) :
    List (Transition RunState RunTask) :=
  trace.filter fun transition => transition.before.common.desk.shutdown

/-- Whether a task has taken its last step since the run was asked to stop. -/
def wasAsked (id : TaskId) (trace : List (Transition RunState RunTask)) : Bool :=
  ((trace.filter fun transition => transition.act.task? == some id).getLast?).any
    fun transition => transition.before.common.desk.shutdown

theorem sinceStop_append_of_asked (asked : transition.before.common.desk.shutdown = true) :
    sinceStop (trace ++ [transition]) = sinceStop trace ++ [transition] := by
  simp [sinceStop, asked]

theorem sinceStop_append_of_calm (calm : transition.before.common.desk.shutdown = false) :
    sinceStop (trace ++ [transition]) = sinceStop trace := by
  simp [sinceStop, calm]

theorem wasAsked_append_of_acts (acts : transition.act.task? = some id) :
    wasAsked id (trace ++ [transition]) = transition.before.common.desk.shutdown := by
  simp [wasAsked, acts]

theorem wasAsked_append_of_ne (others : transition.act.task? ≠ some id) :
    wasAsked id (trace ++ [transition]) = wasAsked id trace := by
  simp [wasAsked, others]

/-- What may happen to a main phase from outside: it is asked to stop, somebody puts an item
into the queue, or somebody who could put items into it lets go of it. -/
inductive Happens (state : RunState) : RunState → Prop where
  | stop : Happens state { state with desk.shutdown := true }
  | push {envelope : Envelope} {queue : UnitQueue} :
      state.desk.queue.offer envelope = .accepted queue →
      Happens state { state with desk.queue := queue }
  | hangUp : Happens state { state with desk.queue := state.desk.queue.dropSender }

/-- Whether the task is a worker that rests for some time. -/
def sleeps (situation : Situation RunState RunTask) (id : TaskId) : Bool :=
  match situation.tasks[id]? with
  | some (.worker worker) =>
      match worker.phase with
      | .resting unit => 0 < (worker.policy.backoff unit.attempt).nanos
      | _ => false
  | _ => false

/-- Anything may happen at any time, with two exceptions: nobody joins, and a sleep that
begins after the request to stop is not over before the request is heard. -/
def bustle : Rules RunState RunTask := fun trace transition =>
  match transition.act with
  | .outside => Happens transition.before.common transition.after.common
  | .begin _ => False
  | .answer id _ => (wasAsked id trace && sleeps transition.before id) = false
  | _ => True

theorem discreet_of_bustle (allowed : bustle trace ⟨before, act, after⟩)
    (step : mainPhase.Step before act after) : Discreet ⟨before, act, after⟩ := by
  cases step with
  | outside common =>
      have happened : Happens before.common common := allowed
      cases happened with
      | push accepted =>
          exact ⟨rfl, rfl, rfl, rfl, rfl, rfl, rfl, (UnitQueue.frame_of_offer accepted).2.1, rfl⟩
      | _ => exact ⟨rfl, rfl, rfl, rfl, rfl, rfl, rfl, rfl, rfl⟩
  | begin task => exact allowed
  | _ => trivial

/-- The request to stop is not taken back. -/
theorem shutdown_stays (step : mainPhase.Step before act after)
    (allowed : bustle trace ⟨before, act, after⟩) (asked : before.common.desk.shutdown = true) :
    after.common.desk.shutdown = true := by
  have ofTask : ∀ {id : TaskId}, act.task? = some id → after.common.desk.shutdown = true := by
    intro id acts
    cases goes_of_step step (discreet_of_bustle allowed step) with
    | idles idle =>
        rw [idle] at acts
        contradiction
    | conducts _ _ goes => exact goes.advances.desk_eq.2.1.trans asked
    | generates => exact asked
    | works _ _ goes => exact goes.advances.shutdown_eq.trans asked
  cases step with
  | move => exact ofTask rfl
  | answer => exact ofTask rfl
  | outside common =>
      have happened : Happens before.common common := allowed
      cases happened with
      | stop => rfl
      | push => exact asked
      | hangUp => exact asked
  | frame => exact asked
  | countReconnect => exact asked
  | shift => exact asked
  | begin => exact allowed.elim

/-- What a worker has done since the run was asked to stop, together with what is left for
it to do. -/
structure Within (id : TaskId) (trace : List (Transition RunState RunTask)) (worker : Worker) :
    Prop where
  takes : (office.own .taken id (sinceStop trace)).length + worker.phase.takesLeft ≤ 1
  tries : (office.own .tried id (sinceStop trace)).length +
    worker.phase.triesLeft (wasAsked id trace) ≤ 1
  sends : (office.own .transmitted id (sinceStop trace)).length +
    worker.phase.sendsLeft (wasAsked id trace) ≤ 1
  steps : stepsOf id (sinceStop trace) + worker.phase.stepsLeft (wasAsked id trace) ≤ 18

theorem within_of_nil (nothing : sinceStop trace = []) (worker : Worker) :
    Within id trace worker := by
  constructor
  case takes => simpa [nothing, Office.own, Office.deeds] using worker.phase.takesLeft_le
  case tries => simpa [nothing, Office.own, Office.deeds] using worker.phase.triesLeft_le _
  case sends => simpa [nothing, Office.own, Office.deeds] using worker.phase.sendsLeft_le _
  case steps => simpa [nothing, stepsOf] using worker.phase.stepsLeft_le _

theorem Within.of_others {worker : Worker} (within : Within id trace worker)
    (asked : transition.before.common.desk.shutdown = true)
    (others : transition.act.task? ≠ some id) : Within id (trace ++ [transition]) worker := by
  constructor
  case takes =>
    rw [sinceStop_append_of_asked asked, Office.own_append_of_ne _ others]
    exact within.takes
  case tries =>
    rw [sinceStop_append_of_asked asked, Office.own_append_of_ne _ others,
      wasAsked_append_of_ne others]
    exact within.tries
  case sends =>
    rw [sinceStop_append_of_asked asked, Office.own_append_of_ne _ others,
      wasAsked_append_of_ne others]
    exact within.sends
  case steps =>
    rw [sinceStop_append_of_asked asked, stepsOf_append_of_ne others,
      wasAsked_append_of_ne others]
    exact within.steps

theorem Within.of_works {worker next : Worker} (within : Within id trace worker)
    (asked : transition.before.common.desk.shutdown = true)
    (works : office.worked? transition = some (id, worker, next))
    (dwindles : worker.Dwindles (wasAsked id trace) transition.before.common.desk
      transition.after.common.desk next) :
    Within id (trace ++ [transition]) next := by
  have acts := Office.acts_of_works works
  have own : ∀ {α : Type} (sight : Sight α),
      (office.own sight id (sinceStop (trace ++ [transition]))).length =
        (office.own sight id (sinceStop trace)).length +
          (sight transition.before.common.desk worker
            transition.after.common.desk next).toList.length := by
    intro α sight
    rw [sinceStop_append_of_asked asked, Office.own_append_of_works sight works, if_pos rfl,
      List.length_append]
    rfl
  constructor
  case takes =>
    have before := within.takes
    have less := dwindles.takes
    rw [own]
    omega
  case tries =>
    have before := within.tries
    have less := dwindles.tries
    rw [own, wasAsked_append_of_acts acts, asked]
    omega
  case sends =>
    have before := within.sends
    have less := dwindles.sends
    rw [own, wasAsked_append_of_acts acts, asked]
    omega
  case steps =>
    have before := within.steps
    have less := dwindles.steps
    rw [sinceStop_append_of_asked asked, stepsOf_append_of_acts acts,
      wasAsked_append_of_acts acts, asked]
    omega

/-- Every worker keeps within bounds, and rests for some time if it rests. -/
structure Prompt (trace : List (Transition RunState RunTask))
    (situation : Situation RunState RunTask) : Prop where
  calm : situation.common.desk.shutdown = false → sinceStop trace = []
  within : ∀ (id : TaskId) worker, situation.tasks[id]? = some (.worker worker) →
    Within id trace worker
  patient : ∀ (id : TaskId) worker, situation.tasks[id]? = some (.worker worker) →
    0 < worker.policy.base.nanos ∧ worker.policy.base.nanos ≤ worker.policy.cap.nanos

/-- A worker that rests goes on only if it has not been asked to stop before. -/
private theorem early_of_allowed {worker : Worker} {unit : OutboundUnit}
    (allowed : bustle trace ⟨before, act, after⟩) (acts : act.task? = some id)
    (answered : act.answer? = some .done)
    (found : before.tasks[id]? = some (.worker worker)) (resting : worker.phase = .resting unit)
    (patient : 0 < worker.policy.base.nanos ∧
      worker.policy.base.nanos ≤ worker.policy.cap.nanos) :
    wasAsked id trace = false := by
  cases act with
  | answer own answer =>
      cases acts
      have sleeping : sleeps before id = true := by
        simp [sleeps, found, resting, RetryPolicy.backoff_pos patient.1 patient.2]
      have rule : (wasAsked id trace && sleeps before id) = false := allowed
      rwa [sleeping, Bool.and_true] at rule
  | _ => contradiction

theorem Prompt.step (prompt : Prompt trace before) (step : mainPhase.Step before act after)
    (allowed : bustle trace ⟨before, act, after⟩) :
    Prompt (trace ++ [⟨before, act, after⟩]) after := by
  have goes := goes_of_step step (discreet_of_bustle allowed step)
  constructor
  case calm =>
    intro calm
    cases asked : before.common.desk.shutdown with
    | false =>
        rw [sinceStop_append_of_calm asked]
        exact prompt.calm asked
    | true =>
        rw [shutdown_stays step allowed asked] at calm
        contradiction
  case within =>
    intro id next found
    cases asked : before.common.desk.shutdown with
    | false =>
        -- this is the last step before the request at most, so nothing has been done since
        apply within_of_nil
        rw [sinceStop_append_of_calm asked]
        exact prompt.calm asked
    | true =>
        rcases goes.worker found with
          ⟨others, same⟩ | ⟨worker, desk, acts, present, works, rfl⟩
        · exact (prompt.within id next same).of_others asked others
        · have dwindles := works.dwindles (fun _ => asked) fun unit done resting =>
            early_of_allowed allowed acts done present resting (prompt.patient id worker present)
          exact (prompt.within id worker present).of_works asked (worked_of_works acts present)
            dwindles
  case patient =>
    intro id next found
    rcases goes.worker found with
      ⟨_, same⟩ | ⟨worker, desk, _, present, works, _⟩
    · exact prompt.patient id next same
    · rw [works.policy_eq]
      exact prompt.patient id worker present

end MainPhase

end RoomLoad
