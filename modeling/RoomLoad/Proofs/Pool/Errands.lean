import RoomLoad.Proofs.Pool.Clients

/-!
# Errands of the pool

Calls that find no open channel have one connected or reconnected.  They do so under the
lock, one at a time, and only where there is no open channel then.  The lock goes on from
one call to the next as long as anybody waits, so that no call is left behind.
-/

namespace RoomLoad

open CreationLock (Moves Serves)

/-- What a call on the pool has done for it. -/
inductive Errand where
  | connect (room : RoomId)
  | reconnect (channel : ChannelId)
deriving DecidableEq

namespace PoolCall

def errand? : PoolCall → Option Errand
  | lookup room .connecting => some (.connect room)
  | reopening channel .reconnecting => some (.reconnect channel)
  | _ => none

/-- Whether a call has done nothing yet. -/
def isFresh : PoolCall → Bool
  | lookup _ .looking => true
  | reopening _ .asking => true
  | clearing => true
  | direct _ => true
  | _ => false

/-- Anybody may make any call at any time, and channels may be lost or come back at any
time, but the pool is left to the calls. -/
def anyCalls : Rules Desk PoolCall := fun _ transition =>
  match transition.act with
  | .outside => False
  | .begin task => task.isFresh = true
  | _ => True

end PoolCall

/-- Whether there is no open channel of the kind that an errand provides. -/
def Errand.isDue (errand : Errand) (situation : Situation Desk PoolCall) : Bool :=
  match errand with
  | connect room => (situation.common.pool.openChannel? situation.view room).isNone
  | reconnect channel => !situation.view.isOpen channel

namespace Transition

def starts? (transition : Transition Desk PoolCall) : Option Errand := do
  let id ← transition.act.task?
  let task ← transition.before.tasks[id]?
  let next ← transition.after.tasks[id]?
  if task.errand? = none then next.errand? else none

def returns? (transition : Transition Desk PoolCall) : Option (Errand × Answer) :=
  match transition.act with
  | .answer id answer =>
      (transition.before.tasks[id]?.bind PoolCall.errand?).map fun errand => (errand, answer)
  | _ => none

end Transition

namespace PoolCall

variable {view : View} {id : TaskId} {desk : Desk} {pool later : Pool} {task next : PoolCall}
  {after : Desk × PoolCall} {act : Act PoolCall} {errand : Errand}

theorem use_of_errand? (waits : task.errand? = some errand) : task.use = .inside := by
  cases task with
  | lookup room phase => cases phase <;> first | rfl | contradiction
  | reopening channel phase => cases phase <;> first | rfl | contradiction
  | _ => contradiction

theorem use_of_isFresh (fresh : task.isFresh = true) : task.use = .away := by
  cases task with
  | lookup room phase => cases phase <;> first | rfl | contradiction
  | reopening channel phase => cases phase <;> first | rfl | contradiction
  | _ => rfl

theorem errand?_of_isFresh (fresh : task.isFresh = true) : task.errand? = none := by
  cases task with
  | lookup room phase => cases phase <;> first | rfl | contradiction
  | reopening channel phase => cases phase <;> first | rfl | contradiction
  | _ => rfl

theorem use_of_hasEnded (finished : task.hasEnded = true) : task.use = .away := by
  cases task <;> first | rfl | contradiction

theorem call?_of_mem_moves (member : after ∈ task.moves view id desk) : task.call? = none := by
  cases task with
  | lookup room phase => cases phase <;> first | rfl | contradiction
  | reopening channel phase => cases phase <;> first | rfl | contradiction
  | direct call => contradiction
  | _ => rfl

theorem errand?_of_call? (idle : task.call? = none) : task.errand? = none := by
  cases task with
  | lookup room phase => cases phase <;> first | rfl | contradiction
  | reopening channel phase => cases phase <;> first | rfl | contradiction
  | _ => rfl

/-- A call waits for an errand only after it has found, under the lock, that there is no
open channel. -/
theorem Advances.of_errand? {situation : Situation Desk PoolCall}
    (advances : Advances situation.view situation.common.pool later id act task next)
    (waits : next.errand? = some errand) :
    act = .move id ∧ task.use = .inside ∧ errand.isDue situation = true := by
  cases advances with
  | looks room phase next channels isNext =>
      obtain rfl | rfl | rfl := isNext <;> contradiction
  | connects room channels missing =>
      cases waits
      exact ⟨rfl, rfl, by simp [Errand.isDue, missing]⟩
  | queues channel phase next channels isNext =>
      obtain rfl | rfl := isNext <;> contradiction
  | reconnects channel channels isClosed =>
      cases waits
      exact ⟨rfl, rfl, by simp [Errand.isDue, isClosed]⟩
  | calls call answer next channels returns finished => cases next <;> contradiction
  | _ => contradiction

end PoolCall

namespace PoolCall

variable {trace : List (Transition Desk PoolCall)}
  {before after start last : Situation Desk PoolCall} {act : Act PoolCall} {desk : Desk}
  {view : View} {errand : Errand}

/-- The lock of a situation is where the calls take it to be. -/
abbrev Locked (situation : Situation Desk PoolCall) : Prop :=
  situation.common.pool.lock.Serves (situation.uses use)

theorem locked_of_step (locked : Locked before) (step : poolCalls.Step before act after)
    (allowed : anyCalls trace ⟨before, act, after⟩) : Locked after := by
  cases turns_of_step step with
  | goesOn acts found advances moves => exact locked.put found moves
  | frees common outside =>
      subst outside
      exact allowed.elim
  | counts common idle pool =>
      unfold Locked
      dsimp only
      rw [pool]
      exact locked
  | shifts view isShift => exact locked
  | begins task isBegin =>
      subst isBegin
      unfold Locked
      rw [Situation.uses_begin (use_of_isFresh allowed)]
      exact locked

theorem locked_of_run (locked : Locked start) (run : poolCalls.Run anyCalls start trace last) :
    Locked last := by
  induction run with
  | rest => exact locked
  | step run step allowed induction => exact locked_of_step induction step allowed

theorem locked_unused (desk : Desk) (view : View) : Locked (unused desk view) := by
  apply CreationLock.serves_of_away
  intro task member
  contradiction

theorem of_starts? (step : poolCalls.Step before act after)
    (starts : Transition.starts? ⟨before, act, after⟩ = some errand) :
    errand.isDue before = true ∧ ∃ id task next, act = .move id ∧
      before.tasks[id]? = some task ∧ after = before.put id next ∧ task.use = .inside ∧
      task.errand? = none ∧ next.2.errand? = some errand := by
  simp only [Transition.starts?, Option.bind_eq_bind, Option.bind_eq_some_iff] at starts
  obtain ⟨own, isOwn, task, found, next, foundNext, waits⟩ := starts
  split at waits
  case isTrue idle =>
    cases turns_of_step step with
    | @goesOn id other next acts foundOther advances moves =>
        rw [acts, Option.some.injEq] at isOwn
        subst isOwn
        rw [foundOther, Option.some.injEq] at found
        subst found
        rw [Situation.tasks_put_self foundOther, Option.some.injEq] at foundNext
        subst foundNext
        obtain ⟨isMove, inside, isDue⟩ := advances.of_errand? waits
        exact ⟨isDue, id, other, next, isMove, foundOther, rfl, inside, idle, waits⟩
    | frees common outside =>
        subst outside
        contradiction
    | counts common silent pool =>
        rw [silent] at isOwn
        contradiction
    | shifts view isShift =>
        subst isShift
        contradiction
    | begins task isBegin =>
        subst isBegin
        contradiction
  case isFalse => contradiction

theorem of_returns? {answer : Answer}
    (returns : Transition.returns? ⟨before, act, after⟩ = some (errand, answer)) :
    ∃ id task, act = .answer id answer ∧ before.tasks[id]? = some task ∧
      task.errand? = some errand := by
  unfold Transition.returns? at returns
  split at returns
  case h_1 id _ answers =>
    obtain ⟨other, waits, same⟩ := Option.map_eq_some_iff.mp returns
    cases same
    obtain ⟨task, found, waits⟩ := Option.bind_eq_some_iff.mp waits
    exact ⟨id, task, answers, found, waits⟩
  case h_2 => contradiction

/-- A call that waits for an errand has started it just now, or has waited before. -/
theorem starts_or_waited {id : TaskId} {next : PoolCall} (step : poolCalls.Step before act after)
    (allowed : anyCalls trace ⟨before, act, after⟩) (found : after.tasks[id]? = some next)
    (waits : next.errand? = some errand) :
    Transition.starts? ⟨before, act, after⟩ = some errand ∨
      ∃ task, before.tasks[id]? = some task ∧ task.errand? = some errand := by
  by_cases own : act.task? = some id
  · cases step with
    | @move id task after foundTask member =>
        cases own
        rw [Situation.tasks_put_self foundTask, Option.some.injEq] at found
        subst found
        left
        have idle := errand?_of_call? (call?_of_mem_moves member)
        simp [Transition.starts?, Act.task?, foundTask, Situation.tasks_put, idle, waits]
    | answer foundTask answers returns =>
        cases own
        rw [Situation.tasks_put_self foundTask, Option.some.injEq] at found
        subst found
        have isMove := ((advances_resume answers returns).of_errand? waits).1
        contradiction
    | _ => contradiction
  · rcases step.tasks_before found own with old | rfl
    · exact .inr ⟨next, old, waits⟩
    · rw [errand?_of_isFresh allowed] at waits
      contradiction

theorem returns_or_waits {id : TaskId} {task : PoolCall} (step : poolCalls.Step before act after)
    (found : before.tasks[id]? = some task) (waits : task.errand? = some errand) :
    (∃ answer, Transition.returns? ⟨before, act, after⟩ = some (errand, answer)) ∨
      after.tasks[id]? = some task := by
  by_cases own : act.task? = some id
  · left
    cases step with
    | move foundTask member =>
        cases own
        rw [foundTask, Option.some.injEq] at found
        subst found
        rw [errand?_of_call? (call?_of_mem_moves member)] at waits
        contradiction
    | @answer other task call answer foundTask answers returns =>
        cases own
        rw [foundTask, Option.some.injEq] at found
        subst found
        exact ⟨answer, by simp [Transition.returns?, foundTask, waits]⟩
    | _ => contradiction
  · exact .inr (step.tasks_of_ne found own)

theorem goes_on {id : TaskId} {task : PoolCall} (runs : task.hasEnded = false)
    (turn : task.use = .queued → desk.pool.lock.isHeldBy id = true) :
    task.moves view id desk ≠ [] ∨ task.call?.isSome = true := by
  cases task with
  | lookup room phase =>
      have either : (phase.move? view id room desk.pool).isSome = true ∨
        (phase.call? room).isSome = true := Lookup.goes_on turn
      rcases either with moved | waits
      · left
        obtain ⟨⟨pool, progress⟩, found⟩ := Option.isSome_iff_exists.mp moved
        rw [moves, found]
        exact List.cons_ne_nil _ _
      · exact .inr waits
  | reopening channel phase =>
      have either : (phase.move? view id channel desk.pool).isSome = true ∨
        (phase.call? channel).isSome = true := Reopening.goes_on turn
      rcases either with moved | waits
      · left
        obtain ⟨⟨pool, progress⟩, found⟩ := Option.isSome_iff_exists.mp moved
        rw [moves, found]
        exact List.cons_ne_nil _ _
      · exact .inr waits
  | clearing => exact .inl (List.cons_ne_nil _ _)
  | direct call => exact .inr rfl
  | _ => contradiction

/-- As long as a call has not ended, some call can go on: whoever has the lock, if the
call itself waits for it. -/
theorem exists_canGoOn {id : TaskId} {task : PoolCall} (locked : Locked before)
    (found : before.tasks[id]? = some task) (runs : task.hasEnded = false) :
    ∃ other, poolCalls.CanGoOn before other := by
  by_cases turn : task.use = .queued → before.common.pool.lock.isHeldBy id = true
  · exact ⟨id, task, found, goes_on runs turn⟩
  · have queued : task.use = .queued := by
      apply Classical.byContradiction
      intro contrary
      exact turn fun isQueued => absurd isQueued contrary
    obtain ⟨other, holding, foundOther, isHeld, asked⟩ := locked.exists_holding found queued
    have atWork : holding.hasEnded = false := by
      rw [← Bool.not_eq_true]
      exact fun finished => asked (use_of_hasEnded finished)
    exact ⟨other, holding, foundOther, goes_on atWork fun _ => isHeld⟩

end PoolCall

namespace Lookup

/-- How many steps a lookup takes at most. -/
def stepsLeft : Lookup → Nat
  | looking => 6
  | asking => 5
  | waiting => 4
  | rechecking => 3
  | connecting => 2
  | closing _ _ => 1

/-- How many steps a lookup takes at most after one step. -/
def stepsAfter : Progress Lookup Result → Nat
  | .going lookup => lookup.stepsLeft
  | .ended _ => 0

variable {lookup : Lookup} {view : View} {task : TaskId} {room : RoomId} {pool later : Pool}
  {progress : Progress Lookup Result}

theorem stepsLeft_pos (lookup : Lookup) : 0 < lookup.stepsLeft := by
  cases lookup <;> simp [stepsLeft]

theorem stepsAfter_of_move? (moved : lookup.move? view task room pool = some (later, progress)) :
    stepsAfter progress < lookup.stepsLeft := by
  cases lookup with
  | looking =>
      rw [move?] at moved
      split at moved <;> cases moved <;> simp [stepsAfter, stepsLeft]
  | asking =>
      cases moved
      simp [stepsAfter, stepsLeft]
  | waiting =>
      rw [move?] at moved
      split at moved <;> cases moved
      simp [stepsAfter, stepsLeft]
  | rechecking =>
      rw [move?] at moved
      split at moved <;> cases moved <;> simp [stepsAfter, stepsLeft]
  | connecting => contradiction
  | closing fresh stale => contradiction

theorem stepsAfter_resume {call : Call} {answer : Answer} (waits : lookup.call? room = some call)
    (returns : call.Returns answer) :
    stepsAfter (lookup.resume room pool answer).2 < lookup.stepsLeft := by
  cases lookup with
  | connecting =>
      cases waits
      cases returns with
      | connected _ fresh =>
          simp only [resume, install]
          split
          case h_1 => split <;> simp [stepsAfter, stepsLeft]
          case h_2 => simp [stepsAfter, stepsLeft]
      | refused => exact stepsLeft_pos connecting
  | closing fresh stale =>
      cases waits
      cases returns
      exact stepsLeft_pos (closing fresh stale)
  | _ => contradiction

end Lookup

namespace Reopening

/-- How many steps a reopening takes at most. -/
def stepsLeft : Reopening → Nat
  | asking => 4
  | waiting => 3
  | checking => 2
  | reconnecting => 1

/-- How many steps a reopening takes at most after one step. -/
def stepsAfter : Progress Reopening Result → Nat
  | .going reopening => reopening.stepsLeft
  | .ended _ => 0

variable {reopening : Reopening} {view : View} {task : TaskId} {channel : ChannelId}
  {pool later : Pool} {progress : Progress Reopening Result}

theorem stepsAfter_of_move?
    (moved : reopening.move? view task channel pool = some (later, progress)) :
    stepsAfter progress < reopening.stepsLeft := by
  cases reopening with
  | asking =>
      cases moved
      simp [stepsAfter, stepsLeft]
  | waiting =>
      rw [move?] at moved
      split at moved <;> cases moved
      simp [stepsAfter, stepsLeft]
  | checking =>
      rw [move?] at moved
      split at moved <;> cases moved <;> simp [stepsAfter, stepsLeft]
  | reconnecting => contradiction

theorem stepsAfter_resume {call : Call} {answer : Answer}
    (waits : reopening.call? channel = some call) (returns : call.Returns answer) :
    stepsAfter (reopening.resume pool answer).2 < reopening.stepsLeft := by
  cases reopening with
  | reconnecting =>
      cases waits
      cases returns <;> simp [resume, stepsAfter, stepsLeft]
  | _ => contradiction

end Reopening

namespace PoolCall

variable {view : View} {id : TaskId} {desk : Desk} {task : PoolCall} {after : Desk × PoolCall}

/-- How many steps a call takes at most. -/
def stepsLeft : PoolCall → Nat
  | lookup _ phase => phase.stepsLeft
  | reopening _ phase => phase.stepsLeft
  | clearing => 2
  | direct _ => 1
  | looked _ => 0
  | ended _ => 0

theorem stepsLeft_le (task : PoolCall) : task.stepsLeft ≤ 6 := by
  cases task with
  | lookup room phase => cases phase <;> simp [stepsLeft, Lookup.stepsLeft]
  | reopening channel phase => cases phase <;> simp [stepsLeft, Reopening.stepsLeft]
  | _ => simp [stepsLeft]

theorem stepsLeft_afterLookup (room : RoomId) (progress : Progress Lookup Lookup.Result) :
    (afterLookup room progress).stepsLeft = Lookup.stepsAfter progress := by
  cases progress <;> rfl

theorem stepsLeft_afterReopening (channel : ChannelId)
    (progress : Progress Reopening Reopening.Result) :
    (afterReopening channel progress).stepsLeft = Reopening.stepsAfter progress := by
  cases progress <;> rfl

theorem stepsLeft_of_mem_moves (member : after ∈ task.moves view id desk) :
    after.2.stepsLeft < task.stepsLeft := by
  cases task with
  | lookup room phase =>
      rw [moves] at member
      split at member
      case h_1 pool progress moved =>
        cases List.mem_singleton.mp member
        rw [stepsLeft_afterLookup]
        exact Lookup.stepsAfter_of_move? moved
      case h_2 => contradiction
  | reopening channel phase =>
      rw [moves] at member
      split at member
      case h_1 pool progress moved =>
        cases List.mem_singleton.mp member
        rw [stepsLeft_afterReopening]
        exact Reopening.stepsAfter_of_move? moved
      case h_2 => contradiction
  | clearing =>
      cases List.mem_singleton.mp member
      exact Nat.lt_add_one 1
  | _ => contradiction

theorem stepsLeft_resume {call : Call} {answer : Answer} (waits : task.call? = some call)
    (returns : call.Returns answer) :
    (task.resume id desk answer).2.stepsLeft < task.stepsLeft := by
  cases task with
  | lookup room phase =>
      rw [resume_lookup returns, stepsLeft_afterLookup]
      exact Lookup.stepsAfter_resume waits returns
  | reopening channel phase =>
      rw [resume_reopening returns, stepsLeft_afterReopening]
      exact Reopening.stepsAfter_resume waits returns
  | direct inner =>
      cases waits
      cases returns <;> exact Nat.zero_lt_one
  | _ => contradiction

theorem total_stepsLeft_le (tasks : List PoolCall) :
    total stepsLeft tasks ≤ 6 * tasks.length := by
  induction tasks with
  | nil => exact Nat.le_refl 0
  | cons first tasks induction =>
      have firstLeft := stepsLeft_le first
      simp only [total, List.length_cons]
      omega

theorem total_stepsLeft_put {before : Situation Desk PoolCall}
    (found : before.tasks[id]? = some task) (shorter : after.2.stepsLeft < task.stepsLeft) :
    total stepsLeft (before.put id after).tasks < total stepsLeft before.tasks := by
  have changed : total stepsLeft (before.put id after).tasks + task.stepsLeft =
      total stepsLeft before.tasks + after.2.stepsLeft := total_set stepsLeft found after.2
  omega

def stepsTaken (trace : List (Transition Desk PoolCall)) : Nat :=
  trace.countP fun transition => transition.act.task?.isSome

theorem stepsTaken_append {trace : List (Transition Desk PoolCall)}
    {transition : Transition Desk PoolCall} : stepsTaken (trace ++ [transition]) =
      stepsTaken trace + if transition.act.task?.isSome = true then 1 else 0 := by
  rw [stepsTaken, List.countP_append, List.countP_singleton, stepsTaken]

/-- The steps that calls have taken and may still take are at most six each. -/
theorem steps_le_of_run {trace : List (Transition Desk PoolCall)}
    {start last : Situation Desk PoolCall}
    (run : poolCalls.Run anyCalls start trace last) :
    stepsTaken trace + total stepsLeft last.tasks ≤ 6 * last.tasks.length := by
  induction run with
  | rest => simpa [stepsTaken] using total_stepsLeft_le start.tasks
  | @step trace before after act run step allowed induction =>
      rw [stepsTaken_append]
      cases step with
      | move found member =>
          have fewer := total_stepsLeft_put found (stepsLeft_of_mem_moves member)
          rw [Situation.length_put]
          simp only [Act.task?, Option.isSome_some, if_true]
          omega
      | @answer id task call answer found waits returns =>
          have shorter : (poolCalls.resume before.view id before.common task answer).2.stepsLeft <
              task.stepsLeft := stepsLeft_resume waits returns
          have fewer := total_stepsLeft_put found shorter
          rw [Situation.length_put]
          simp only [Act.task?, Option.isSome_some, if_true]
          omega
      | begin task =>
          have bound := stepsLeft_le task
          rw [List.length_append, total_append]
          simp only [Act.task?, total, List.length_singleton, Option.isSome_none,
            Bool.false_eq_true, if_false]
          omega
      | _ => exact induction

end PoolCall

end RoomLoad
