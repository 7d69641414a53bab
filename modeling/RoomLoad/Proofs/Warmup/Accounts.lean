import RoomLoad.Proofs.Runs.Taken
import RoomLoad.Warmup.Tasks

/-!
# The accounts of warm-up tasks

The calls of a warm-up task that have returned make up its account.  Where the task stands
tells what its account is, and both tell what the task has added to the common tally.
-/

namespace RoomLoad

/-- What the calls of a warm-up task have come to. -/
structure WarmupAccount where
  /-- The rooms that it has connected to, or tried to. -/
  asked : List RoomId
  opened : List ChannelId
  /-- How many sends have returned without an error. -/
  delivered : Nat
  /-- How many calls have returned with an error. -/
  errors : Nat
  closed : List ChannelId
deriving DecidableEq

/-- The call that returns in a step, with its answer. -/
def Transition.dealing? (transition : Transition WarmupState WarmupTask) :
    Option (Call × Answer) :=
  match transition.act with
  | .answer id answer =>
      (transition.before.tasks[id]?.bind WarmupTask.call?).map fun call => (call, answer)
  | _ => none

namespace WarmupAccount

def blank : WarmupAccount := ⟨[], [], 0, 0, []⟩

def enter (account : WarmupAccount) : Call × Answer → WarmupAccount
  | (.connect room, .connected channel) =>
      { account with asked := account.asked ++ [room], opened := account.opened ++ [channel] }
  | (.connect room, _) =>
      { account with asked := account.asked ++ [room], errors := account.errors + 1 }
  | (.send _ _, .done) => { account with delivered := account.delivered + 1 }
  | (.send _ _, _) => { account with errors := account.errors + 1 }
  | (.close channels, _) => { account with closed := account.closed ++ channels }
  | _ => account

/-- The account of a task after a run. -/
def tell (id : TaskId) (trace : List (Transition WarmupState WarmupTask)) : WarmupAccount :=
  ((taken id trace).filterMap Transition.dealing?).foldl enter blank

variable {id : TaskId} {trace : List (Transition WarmupState WarmupTask)}
  {transition : Transition WarmupState WarmupTask}

theorem tell_append_of_acts (acts : transition.act.task? = some id) :
    tell id (trace ++ [transition]) =
      transition.dealing?.elim (tell id trace) (tell id trace).enter := by
  rw [tell, taken_append_of_acts acts, List.filterMap_append, List.foldl_append]
  cases deals : transition.dealing? <;> simp [deals, tell]

theorem tell_append_of_ne (others : transition.act.task? ≠ some id) :
    tell id (trace ++ [transition]) = tell id trace := by
  rw [tell, taken_append_of_ne others, tell]

end WarmupAccount

namespace WarmupTask

/-- What a step of a task comes to: for the call that returns in it, for the task itself and
for the tally. -/
inductive Goes (task : WarmupTask) (tally : WarmupTally) :
    Option (Call × Answer) → WarmupTask → WarmupTally → Prop where
  | connects (channel : ChannelId) :
      task.phase = .connecting →
      Goes task tally (some (.connect task.room, .connected channel))
        (task.goTo (.composing channel 0)) tally.countConnection
  | refused (fault : Fault) :
      task.phase = .connecting →
      Goes task tally (some (.connect task.room, .failed fault)) (task.goTo .finished)
        tally.countFailure
  | composes (channel : ChannelId) (sent : Nat) (payload : String) :
      task.phase = .composing channel sent →
      sent < task.messages →
      Goes task tally none (task.goTo (.sending channel sent payload)) tally
  | completes (channel : ChannelId) (sent : Nat) :
      task.phase = .composing channel sent →
      task.messages ≤ sent →
      Goes task tally none (task.goTo (.closing channel false)) tally
  | delivers (channel : ChannelId) (sent : Nat) (payload : String) :
      task.phase = .sending channel sent payload →
      Goes task tally (some (.send channel payload, .done))
        (task.goTo (.composing channel (sent + 1))) tally.countSuccess
  | fails (channel : ChannelId) (sent : Nat) (payload : String) (fault : Fault) :
      task.phase = .sending channel sent payload →
      Goes task tally (some (.send channel payload, .failed fault))
        (task.goTo (.closing channel true)) tally
  | closes (channel : ChannelId) (failed : Bool) :
      task.phase = .closing channel failed →
      Goes task tally (some (.close [channel], .done)) (task.goTo .finished)
        (if failed then tally.countFailure else tally)

variable {task next : WarmupTask} {tally later : WarmupTally} {view : View}

theorem goes_of_mem_moves (member : (later, next) ∈ task.moves view tally) :
    Goes task tally none next later := by
  unfold moves at member
  split at member
  case h_1 channel sent stands =>
    split at member
    case isTrue more =>
      cases List.mem_singleton.mp member
      exact .composes channel sent _ stands more
    case isFalse complete =>
      cases List.mem_singleton.mp member
      exact .completes channel sent stands (Nat.le_of_not_lt complete)
  case h_2 => contradiction

theorem goes_resume {call : Call} {answer : Answer} (waits : task.call? = some call)
    (returns : call.Returns answer) :
    Goes task tally (some (call, answer)) (task.resume tally answer).2
      (task.resume tally answer).1 := by
  unfold call? at waits
  split at waits
  case h_1 stands =>
    cases waits
    cases returns with
    | connected _ channel =>
        simp only [resume, stands]
        exact .connects channel stands
    | refused _ fault =>
        simp only [resume, stands]
        exact .refused fault stands
  case h_3 channel sent payload stands =>
    cases waits
    cases returns with
    | sent =>
        simp only [resume, stands]
        exact .delivers channel sent payload stands
    | unsent _ _ fault =>
        simp only [resume, stands]
        exact .fails channel sent payload fault stands
  case h_4 channel failed stands =>
    cases waits
    cases returns
    simp only [resume, stands]
    exact .closes channel failed stands
  all_goals contradiction

variable {before after : Situation WarmupState WarmupTask} {act : Act WarmupTask} {id : TaskId}

theorem goes_of_step (step : warmup.Step before act after) (acts : act.task? = some id) :
    ∃ task next tally, before.tasks[id]? = some task ∧
      after = before.put id ({ before.common with tally := tally }, next) ∧
      Goes task before.common.tally (Transition.dealing? ⟨before, act, after⟩) next tally := by
  cases step with
  | @move other task after found member =>
      cases acts
      obtain ⟨⟨tally, next⟩, isMove, rfl⟩ := List.mem_map.mp member
      exact ⟨task, next, tally, found, rfl, goes_of_mem_moves isMove⟩
  | @answer other task call answer found waits returns =>
      cases acts
      have deals : ∀ after, Transition.dealing? ⟨before, .answer id answer, after⟩ =
          some (call, answer) := by
        intro after
        have isCall : task.call? = some call := waits
        simp [Transition.dealing?, found, isCall]
      refine ⟨task, _, _, found, rfl, ?_⟩
      rw [deals]
      exact goes_resume waits returns
  | _ => contradiction

/-- Whether a task may stop after so many sends, by whether one of them has failed. -/
def Stops (task : WarmupTask) (sent : Nat) : Bool → Prop
  | true => sent < task.messages
  | false => sent = task.messages

/-- What the account of a task is, by where the task stands. -/
def Fits (task : WarmupTask) (account : WarmupAccount) : Prop :=
  match task.phase with
  | .connecting => account = .blank
  | .composing channel sent =>
      sent ≤ task.messages ∧ account = ⟨[task.room], [channel], sent, 0, []⟩
  | .sending channel sent _ =>
      sent < task.messages ∧ account = ⟨[task.room], [channel], sent, 0, []⟩
  | .closing channel failed =>
      ∃ sent, task.Stops sent failed ∧ account = ⟨[task.room], [channel], sent, failed.toNat, []⟩
  | .finished =>
      account = ⟨[task.room], [], 0, 1, []⟩ ∨
        ∃ channel sent failed, task.Stops sent failed ∧
          account = ⟨[task.room], [channel], sent, failed.toNat, [channel]⟩

def credit (task : WarmupTask) (account : WarmupAccount) : WarmupTally :=
  ⟨account.delivered, if task.phase = .finished then account.errors else 0,
    account.opened.length⟩

/-- How many steps a task takes at most. -/
def stepsLeft (task : WarmupTask) : Nat :=
  match task.phase with
  | .connecting => 2 * task.messages + 3
  | .composing _ sent => 2 * (task.messages - sent) + 2
  | .sending _ sent _ => 2 * (task.messages - sent) + 1
  | .closing _ _ => 1
  | .finished => 0

namespace Goes

variable {account : WarmupAccount} {deal : Option (Call × Answer)}

theorem same (goes : Goes task tally deal next later) :
    next.index = task.index ∧ next.room = task.room ∧ next.messages = task.messages := by
  cases goes <;> exact ⟨rfl, rfl, rfl⟩

theorem fits (goes : Goes task tally deal next later) (fits : task.Fits account) :
    next.Fits (deal.elim account account.enter) := by
  cases goes with
  | connects channel stands =>
      rw [Fits, stands] at fits
      subst fits
      exact ⟨Nat.zero_le _, rfl⟩
  | refused fault stands =>
      rw [Fits, stands] at fits
      subst fits
      exact .inl rfl
  | composes channel sent payload stands more =>
      rw [Fits, stands] at fits
      exact ⟨more, fits.2⟩
  | completes channel sent stands complete =>
      rw [Fits, stands] at fits
      exact ⟨sent, Nat.le_antisymm fits.1 complete, fits.2⟩
  | delivers channel sent payload stands =>
      rw [Fits, stands] at fits
      obtain ⟨more, rfl⟩ := fits
      exact ⟨more, rfl⟩
  | fails channel sent payload fault stands =>
      rw [Fits, stands] at fits
      obtain ⟨more, rfl⟩ := fits
      exact ⟨sent, more, rfl⟩
  | closes channel failed stands =>
      rw [Fits, stands] at fits
      obtain ⟨sent, stops, rfl⟩ := fits
      exact .inr ⟨channel, sent, failed, stops, rfl⟩

theorem credits (goes : Goes task tally deal next later) (fits : task.Fits account) :
    later.success + (task.credit account).success =
        tally.success + (next.credit (deal.elim account account.enter)).success ∧
      later.failed + (task.credit account).failed =
        tally.failed + (next.credit (deal.elim account account.enter)).failed ∧
      later.connections + (task.credit account).connections =
        tally.connections + (next.credit (deal.elim account account.enter)).connections := by
  cases goes with
  | connects channel stands =>
      rw [Fits, stands] at fits
      subst fits
      simp [credit, stands, goTo, WarmupAccount.enter, WarmupAccount.blank,
        WarmupTally.countConnection]
  | refused fault stands =>
      rw [Fits, stands] at fits
      subst fits
      simp [credit, stands, goTo, WarmupAccount.enter, WarmupAccount.blank,
        WarmupTally.countFailure]
  | composes channel sent payload stands more => simp [credit, stands, goTo]
  | completes channel sent stands complete => simp [credit, stands, goTo]
  | delivers channel sent payload stands =>
      have counted : tally.success + 1 + account.delivered =
          tally.success + (account.delivered + 1) := by omega
      simpa [credit, stands, goTo, WarmupAccount.enter, WarmupTally.countSuccess] using counted
  | fails channel sent payload fault stands =>
      simp [credit, stands, goTo, WarmupAccount.enter]
  | closes channel failed stands =>
      rw [Fits, stands] at fits
      obtain ⟨sent, stops, rfl⟩ := fits
      cases failed <;>
        simp [credit, stands, goTo, WarmupAccount.enter, WarmupTally.countFailure]

theorem shortens (goes : Goes task tally deal next later) (fits : task.Fits account) :
    next.stepsLeft < task.stepsLeft := by
  cases goes with
  | connects channel stands => simp [stepsLeft, goTo, stands]
  | refused fault stands => simp [stepsLeft, goTo, stands]
  | composes channel sent payload stands more => simp [stepsLeft, goTo, stands]
  | completes channel sent stands complete => simp [stepsLeft, goTo, stands]
  | delivers channel sent payload stands =>
      rw [Fits, stands] at fits
      simp only [stepsLeft, goTo, stands]
      omega
  | fails channel sent payload fault stands =>
      rw [Fits, stands] at fits
      simp only [stepsLeft, goTo, stands]
      omega
  | closes channel failed stands => simp [stepsLeft, goTo, stands]

end Goes

theorem goes_on (runs : task.phase ≠ .finished) :
    task.moves view tally ≠ [] ∨ task.call?.isSome = true := by
  unfold moves call?
  cases stands : task.phase with
  | composing channel sent =>
      left
      dsimp only
      split <;> exact List.cons_ne_nil _ _
  | finished => exact absurd stands runs
  | _ => exact .inr rfl

end WarmupTask

end RoomLoad
