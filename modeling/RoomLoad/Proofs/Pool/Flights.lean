import RoomLoad.Proofs.Pool.Errands
import RoomLoad.Proofs.Runs.Replay

/-!
# Callers share their errands

When an errand has provided a channel, no call starts it again as long as the channel is
open and in its place.  Calls that need the errand at the same time therefore have it done
once: the first to get the lock starts it, and the others find its channel.
-/

namespace RoomLoad

open PoolCall (anyCalls Locked)

variable {errand : Errand} {channel : ChannelId} {before after start last : Situation Desk PoolCall}
  {trace : List (Transition Desk PoolCall)} {act : Act PoolCall}

/-- Whether everything is taken out of the pool in a step. -/
def Transition.clears (transition : Transition Desk PoolCall) : Bool :=
  match transition.act with
  | .move id =>
      match transition.before.tasks[id]? with
      | some .clearing => true
      | _ => false
  | _ => false

namespace Errand

/-- A call of somebody who may need the errand. -/
def caller : Errand → PoolCall
  | connect room => .lookup room .looking
  | reconnect channel => .reopening channel .asking

/-- The end of a call that has found what the errand provides. -/
def served (channel : ChannelId) : Errand → PoolCall
  | connect _ => .looked (.ok channel)
  | reconnect _ => .ended (.ok ())

def yield? : Errand → Answer → Option ChannelId
  | connect _, .connected channel => some channel
  | reconnect channel, .done => some channel
  | _, _ => none

/-- Whether no call can find an open channel of the kind: there is none, or it is still
being reconnected. -/
def isMissing (errand : Errand) (situation : Situation Desk PoolCall) : Bool :=
  match errand with
  | connect _ => errand.isDue situation
  | reconnect channel =>
      errand.isDue situation || situation.tasks.any (PoolCall.isReconnecting channel)

/-- Whether a step finds a channel open that the errand has provided, and leaves it in its
place. -/
def lasts (errand : Errand) (channel : ChannelId) (transition : Transition Desk PoolCall) : Bool :=
  transition.before.view.isOpen channel &&
    match errand with
    | connect _ => !transition.clears
    | reconnect _ => true

/-- Whether an open channel is missing until the errand returns for the first time, and the
errand then provides one that lasts. -/
def provides (errand : Errand) : List (Transition Desk PoolCall) → Bool
  | [] => true
  | moment :: later =>
      errand.isMissing moment.before &&
        match moment.returns? with
        | some (other, answer) =>
            if other = errand then
              (errand.yield? answer).any fun channel => later.all (errand.lasts channel)
            else
              errand.provides later
        | none => errand.provides later

/-- The errand has not returned in any step. -/
def Pends (errand : Errand) (trace : List (Transition Desk PoolCall)) : Prop :=
  ∀ moment ∈ trace, ∀ answer, moment.returns? ≠ some (errand, answer)

theorem provides_split {earlier later : List (Transition Desk PoolCall)}
    {moment : Transition Desk PoolCall} (pends : errand.Pends earlier)
    (provides : errand.provides (earlier ++ moment :: later) = true) :
    errand.isMissing moment.before = true ∧
      ∀ answer, moment.returns? = some (errand, answer) →
        ∃ channel, errand.yield? answer = some channel ∧
          ∀ other ∈ later, errand.lasts channel other = true := by
  induction earlier with
  | nil =>
      rw [List.nil_append, Errand.provides, Bool.and_eq_true] at provides
      refine ⟨provides.1, ?_⟩
      intro answer returns
      have yields := provides.2
      simp only [returns, if_true, Option.any_eq_true, List.all_eq_true] at yields
      exact yields
  | cons first earlier induction =>
      rw [List.cons_append, Errand.provides, Bool.and_eq_true] at provides
      refine induction (fun other member => pends other (List.mem_cons_of_mem first member)) ?_
      have rest := provides.2
      split at rest
      case h_1 other answer returns =>
        have different : other ≠ errand := by
          rintro rfl
          exact pends first List.mem_cons_self answer returns
        rwa [if_neg different] at rest
      case h_2 => exact rest

/-- The channel that an errand has provided is in its place. -/
def Holds (errand : Errand) (channel : ChannelId) (pool : Pool) : Prop :=
  match errand with
  | connect room => pool.channel? room = some channel
  | reconnect other => other = channel

/-- No call waits for the errand. -/
def Idle (errand : Errand) (situation : Situation Desk PoolCall) : Prop :=
  ∀ (id : TaskId) (task : PoolCall), situation.tasks[id]? = some task →
    task.errand? ≠ some errand

theorem idle_of_isFresh (errand : Errand) {situation : Situation Desk PoolCall}
    (fresh : ∀ task ∈ situation.tasks, task.isFresh = true) : errand.Idle situation := by
  intro id task found waits
  rw [PoolCall.errand?_of_isFresh (fresh task (List.mem_of_getElem? found))] at waits
  contradiction

/-- The errand is done: its channel is in its place, and no call waits for it. -/
structure Settled (errand : Errand) (channel : ChannelId) (situation : Situation Desk PoolCall) :
    Prop where
  holds : errand.Holds channel situation.common.pool
  idle : errand.Idle situation

theorem isDue_of_holds (holds : errand.Holds channel before.common.pool)
    (isOpen : before.view.isOpen channel = true) : errand.isDue before = false := by
  cases errand with
  | connect room =>
      have pooled : before.common.pool.channel? room = some channel := holds
      simp [isDue, Pool.openChannel?, pooled, isOpen]
  | reconnect other =>
      have own : other = channel := holds
      simp [isDue, own, isOpen]

end Errand

namespace PoolCall

variable {pool later : Pool} {id : TaskId} {task next : PoolCall} {view : View}

theorem Advances.channels_cases (advances : Advances view pool later id act task next) :
    later.channels = pool.channels ∨
      (∃ room fresh, task.errand? = some (.connect room) ∧ act = .answer id (.connected fresh) ∧
        later.channels = (pool.install room fresh).channels) ∨
      task = clearing ∧ act = .move id := by
  cases advances with
  | installs room fresh channels => exact .inr (.inl ⟨room, fresh, rfl, rfl, channels⟩)
  | replaces room fresh stale channels => exact .inr (.inl ⟨room, fresh, rfl, rfl, channels⟩)
  | clears => exact .inr (.inr ⟨rfl, rfl⟩)
  | looks room phase next channels => exact .inl channels
  | gives room phase channel channels => exact .inl channels
  | connects room channels => exact .inl channels
  | refused room fault channels => exact .inl channels
  | replaced room fresh stale channels => exact .inl channels
  | queues channel phase next channels => exact .inl channels
  | spares channel channels => exact .inl channels
  | reconnects channel channels => exact .inl channels
  | reconnected channel answer result channels => exact .inl channels
  | calls call answer next channels => exact .inl channels

end PoolCall

namespace Errand

theorem Holds.congr {pool later : Pool} (holds : errand.Holds channel pool)
    (channels : later.channels = pool.channels) : errand.Holds channel later := by
  cases errand with
  | connect room => exact (Pool.channel?_congr channels room).trans holds
  | reconnect other => exact holds

theorem isOpen_of_lasts {transition : Transition Desk PoolCall}
    (kept : errand.lasts channel transition = true) :
    transition.before.view.isOpen channel = true :=
  (Bool.and_eq_true_iff.mp kept).1

theorem not_clears_of_lasts {room : RoomId} {transition : Transition Desk PoolCall}
    (kept : (connect room).lasts channel transition = true) : transition.clears = false :=
  Bool.not_eq_true' _ ▸ (Bool.and_eq_true_iff.mp kept).2

theorem Holds.unique {pool : Pool} {other : ChannelId} (holds : errand.Holds channel pool)
    (also : errand.Holds other pool) : channel = other := by
  cases errand with
  | connect room => exact Option.some.inj (holds.symm.trans also)
  | reconnect own => exact holds.symm.trans also

/-- A channel stays in its place if nobody waits for the errand and the pool is not
cleared. -/
theorem Holds.of_advances {later : Pool} {id : TaskId} {task next : PoolCall}
    (holds : errand.Holds channel before.common.pool)
    (found : before.tasks[id]? = some task)
    (advances : PoolCall.Advances before.view before.common.pool later id act task next)
    (idle : task.errand? ≠ some errand)
    (kept : errand.lasts channel ⟨before, act, after⟩ = true) : errand.Holds channel later := by
  cases errand with
  | reconnect other => exact holds
  | connect room =>
      rcases advances.channels_cases with same | ⟨other, fresh, waits, _, installed⟩ | ⟨rfl, rfl⟩
      · exact holds.congr same
      · have different : room ≠ other := by
          rintro rfl
          exact idle waits
        rw [Holds, Pool.channel?_congr installed, Pool.channel?_install, if_neg different]
        exact holds
      · have clears : Transition.clears ⟨before, .move id, after⟩ = true := by
          simp [Transition.clears, found]
        rw [not_clears_of_lasts kept] at clears
        contradiction

theorem Settled.isDue (settled : errand.Settled channel before)
    (kept : errand.lasts channel ⟨before, act, after⟩ = true) : errand.isDue before = false :=
  isDue_of_holds settled.holds (isOpen_of_lasts kept)

/-- What is done stays done while its channel lasts. -/
theorem Settled.step (settled : errand.Settled channel before)
    (step : poolCalls.Step before act after) (allowed : anyCalls trace ⟨before, act, after⟩)
    (kept : errand.lasts channel ⟨before, act, after⟩ = true) :
    errand.Settled channel after := by
  constructor
  case holds =>
    cases PoolCall.turns_of_step step with
    | goesOn acts found advances moves =>
        exact settled.holds.of_advances found advances (settled.idle _ _ found) kept
    | frees common outside =>
        subst outside
        exact allowed.elim
    | counts common idle pool => exact settled.holds.congr (congrArg Pool.channels pool)
    | shifts view isShift => exact settled.holds
    | begins task isBegin => exact settled.holds
  case idle =>
    intro id task found waits
    rcases PoolCall.starts_or_waited step allowed found waits with starts | ⟨task, old, waited⟩
    · have isDue := (PoolCall.of_starts? step starts).1
      rw [settled.isDue kept] at isDue
      contradiction
    · exact settled.idle id task old waited

/-- While the channel of an errand lasts, it is not started again. -/
theorem Settled.of_run (settled : errand.Settled channel start)
    (run : poolCalls.Run anyCalls start trace last)
    (kept : ∀ moment ∈ trace, errand.lasts channel moment = true) :
    errand.Settled channel last ∧ ∀ moment ∈ trace, moment.starts? ≠ some errand := by
  induction run with
  | rest =>
      refine ⟨settled, ?_⟩
      intro moment member
      contradiction
  | @step trace before after act run step allowed induction =>
      obtain ⟨earlier, unstarted⟩ := induction fun moment member =>
        kept moment (List.mem_append_left _ member)
      have now := kept ⟨before, act, after⟩ (by simp)
      refine ⟨earlier.step step allowed now, ?_⟩
      intro moment member
      rcases List.mem_append.mp member with old | new
      · exact unstarted moment old
      · rw [List.mem_singleton] at new
        subst new
        intro starts
        have isDue := (PoolCall.of_starts? step starts).1
        rw [earlier.isDue now] at isDue
        contradiction

end Errand

namespace PoolCall

/-- The errand whose outcome a call still looks for. -/
def seeks? : PoolCall → Option Errand
  | lookup _ (.closing _ _) => none
  | lookup room _ => some (.connect room)
  | reopening channel _ => some (.reconnect channel)
  | _ => none

end PoolCall

/-- A call has what an errand provides, and at most closes what that replaces. -/
def Errand.Serves (errand : Errand) (channel : ChannelId) (task : PoolCall) : Prop :=
  task = errand.served channel ∨
    ∃ room stale, errand = .connect room ∧ task = .lookup room (.closing channel stale)

namespace PoolCall

variable {id : TaskId} {task next : PoolCall} {answer : Answer} {desk : Desk}

theorem errand?_of_seeks? {call : Call} (seeks : task.seeks? = some errand)
    (waits : task.call? = some call) : task.errand? = some errand := by
  cases task with
  | lookup room phase => cases phase <;> first | exact seeks | contradiction
  | reopening channel phase => cases phase <;> first | exact seeks | contradiction
  | _ => contradiction

theorem install_serves (room : RoomId) (pool : Pool) (fresh : ChannelId) :
    (Errand.connect room).Holds fresh (Lookup.install room pool fresh).1 ∧
      (Errand.connect room).Serves fresh (afterLookup room (Lookup.install room pool fresh).2) := by
  have holds : (pool.install room fresh).channel? room = some fresh := by
    rw [Pool.channel?_install, if_pos rfl]
  unfold Lookup.install
  dsimp only
  split
  case h_1 stale _ =>
    split
    case isTrue => exact ⟨holds, .inl rfl⟩
    case isFalse => exact ⟨holds, .inr ⟨room, stale, rfl, rfl⟩⟩
  case h_2 => exact ⟨holds, .inl rfl⟩

/-- An errand that provides a channel puts it in its place, and the call that waited for it
has it. -/
theorem resume_of_yield? (waits : task.errand? = some errand)
    (yields : errand.yield? answer = some channel) :
    errand.Holds channel (task.resume id desk answer).1.pool ∧
      errand.Serves channel (task.resume id desk answer).2 := by
  cases task with
  | lookup room phase =>
      cases phase with
      | connecting =>
          cases waits
          cases answer with
          | connected fresh =>
              cases yields
              exact install_serves room desk.pool channel
          | _ => contradiction
      | _ => contradiction
  | reopening other phase =>
      cases phase with
      | reconnecting =>
          cases waits
          cases answer with
          | done =>
              cases yields
              exact ⟨rfl, .inl rfl⟩
          | _ => contradiction
      | _ => contradiction
  | _ => contradiction

/-- A move of a call that looks for an open channel leaves it looking or finds one. -/
theorem Advances.of_seeks? {later : Pool}
    (advances : Advances before.view before.common.pool later id (.move id) task next)
    (seeks : task.seeks? = some errand) :
    next.seeks? = some errand ∨
      errand.isDue before = false ∧ (∀ other, errand = .reconnect other → task.use = .inside) ∧
        ∃ channel, errand.Holds channel before.common.pool ∧ next = errand.served channel := by
  cases advances with
  | looks room phase next channels isNext =>
      left
      cases phase with
      | closing fresh stale => contradiction
      | _ =>
          cases seeks
          obtain rfl | rfl | rfl := isNext <;> rfl
  | gives room phase given channels isOpen =>
      right
      have isRoom : errand = .connect room := by
        cases phase with
        | closing fresh stale => contradiction
        | _ =>
            cases seeks
            rfl
      subst isRoom
      refine ⟨by simp [Errand.isDue, isOpen], nofun, given, ?_, rfl⟩
      exact (Option.filter_eq_some_iff.mp isOpen).1
  | connects room =>
      cases seeks
      exact .inl rfl
  | queues channel phase next channels isNext =>
      cases seeks
      exact .inl rfl
  | spares channel channels isOpen =>
      cases seeks
      exact .inr ⟨by simp [Errand.isDue, isOpen], fun _ _ => rfl, channel, rfl, rfl⟩
  | reconnects channel =>
      cases seeks
      exact .inl rfl
  | clears => contradiction

/-- While a call works under the lock, nobody else reconnects a channel. -/
theorem isMissing_of_inside (locked : Locked before) (found : before.tasks[id]? = some task)
    (idle : task.errand? = none) (inside : ∀ other, errand = .reconnect other → task.use = .inside)
    (notDue : errand.isDue before = false) : errand.isMissing before = false := by
  cases errand with
  | connect room => exact notDue
  | reconnect channel =>
      rw [Errand.isMissing, notDue, Bool.false_or, List.any_eq_false]
      intro other member reconnects
      rw [isReconnecting_iff] at reconnects
      subst reconnects
      obtain ⟨otherId, foundOther⟩ := List.mem_iff_getElem?.mp member
      have same := locked.only found foundOther (inside channel rfl) rfl
      rw [same, found] at foundOther
      cases foundOther
      contradiction

/-- What becomes of a call in a step that looks for an open channel: it goes on looking, or
it finds one, or the errand that it has waited for returns. -/
theorem seeks_of_step (locked : Locked before) (step : poolCalls.Step before act after)
    (found : before.tasks[id]? = some task) (seeks : task.seeks? = some errand) :
    ∃ next, after.tasks[id]? = some next ∧
      (next.seeks? = some errand ∨
        errand.isMissing before = false ∧
          (∃ channel, errand.Holds channel before.common.pool ∧ next = errand.served channel) ∨
        ∃ answer, Transition.returns? ⟨before, act, after⟩ = some (errand, answer) ∧
          ∀ channel, errand.yield? answer = some channel → errand.Serves channel next) := by
  by_cases own : act.task? = some id
  · cases step with
    | @move id other after foundOther member =>
        cases own
        rw [foundOther, Option.some.injEq] at found
        subst found
        refine ⟨after.2, Situation.tasks_put_self foundOther _, ?_⟩
        have advances : Advances before.view before.common.pool after.1.pool id (.move id) other
          after.2 := advances_of_mem_moves member
        rcases advances.of_seeks? seeks with looking | ⟨notDue, inside, finds⟩
        · exact .inl looking
        · have idle := errand?_of_call? (call?_of_mem_moves member)
          exact .inr (.inl ⟨isMissing_of_inside locked foundOther idle inside notDue, finds⟩)
    | @answer other task call answer foundOther waits returns =>
        cases own
        rw [foundOther, Option.some.injEq] at found
        subst found
        have errands := errand?_of_seeks? seeks waits
        refine ⟨_, Situation.tasks_put_self foundOther _, .inr (.inr ⟨answer, ?_, ?_⟩)⟩
        · simp [Transition.returns?, foundOther, errands]
        · intro channel yields
          exact (resume_of_yield? errands yields).2
    | _ => contradiction
  · exact ⟨task, step.tasks_of_ne found own, .inl seeks⟩

/-- Until the errand returns, whoever looks for an open channel goes on looking. -/
theorem seeks_of_pends (locked : Locked start)
    (run : poolCalls.Run anyCalls start trace last) (pends : errand.Pends trace)
    (missing : ∀ moment ∈ trace, errand.isMissing moment.before = true)
    (found : start.tasks[id]? = some task) (seeks : task.seeks? = some errand) :
    ∃ next, last.tasks[id]? = some next ∧ next.seeks? = some errand := by
  induction run with
  | rest => exact ⟨task, found, seeks⟩
  | @step trace before after act run step allowed induction =>
      obtain ⟨current, foundNow, seeksNow⟩ := induction
        (fun moment member => pends moment (List.mem_append_left _ member))
        fun moment member => missing moment (List.mem_append_left _ member)
      have inTrace : (⟨before, act, after⟩ : Transition Desk PoolCall) ∈
          trace ++ [⟨before, act, after⟩] := by simp
      obtain ⟨next, foundNext, seeksNext | ⟨present, _⟩ | ⟨answer, returns, _⟩⟩ :=
        seeks_of_step (locked_of_run locked run) step foundNow seeksNow
      · exact ⟨next, foundNext, seeksNext⟩
      · have absent : errand.isMissing before = true := missing _ inTrace
        rw [present] at absent
        contradiction
      · exact absurd returns (pends _ inTrace answer)

/-- A call that has what the errand provides keeps it. -/
theorem serves_of_step (step : poolCalls.Step before act after)
    (found : before.tasks[id]? = some task) (serves : errand.Serves channel task) :
    ∃ next, after.tasks[id]? = some next ∧ errand.Serves channel next := by
  by_cases own : act.task? = some id
  · cases step with
    | @move id other after foundOther member =>
        cases own
        rw [foundOther, Option.some.injEq] at found
        subst found
        have idle := call?_of_mem_moves member
        rcases serves with rfl | ⟨room, stale, rfl, rfl⟩
        · cases errand <;> contradiction
        · contradiction
    | @answer other task call answer foundOther waits returns =>
        cases own
        rw [foundOther, Option.some.injEq] at found
        subst found
        rcases serves with rfl | ⟨room, stale, rfl, rfl⟩
        · cases errand <;> contradiction
        · cases waits
          cases returns
          refine ⟨looked (.ok channel), ?_, .inl rfl⟩
          rw [Situation.tasks_put_self foundOther]
          rfl
    | _ => contradiction
  · exact ⟨task, step.tasks_of_ne found own, serves⟩

/-- Once the errand is done, whoever looks for an open channel finds its channel. -/
theorem serves_of_settled (locked : Locked start) (settled : errand.Settled channel start)
    (run : poolCalls.Run anyCalls start trace last)
    (kept : ∀ moment ∈ trace, errand.lasts channel moment = true)
    (found : start.tasks[id]? = some task)
    (fits : task.seeks? = some errand ∨ errand.Serves channel task) :
    ∃ next, last.tasks[id]? = some next ∧
      (next.seeks? = some errand ∨ errand.Serves channel next) := by
  induction run with
  | rest => exact ⟨task, found, fits⟩
  | @step trace before after act run step allowed induction =>
      have earlierKept : ∀ moment ∈ trace, errand.lasts channel moment = true :=
        fun moment member => kept moment (List.mem_append_left _ member)
      obtain ⟨now, _⟩ := settled.of_run run earlierKept
      obtain ⟨current, foundNow, seeks | serves⟩ := induction earlierKept
      · obtain ⟨next, foundNext, seeksNext | ⟨_, other, holds, rfl⟩ | ⟨answer, returns, _⟩⟩ :=
          seeks_of_step (locked_of_run locked run) step foundNow seeks
        · exact ⟨next, foundNext, .inl seeksNext⟩
        · cases now.holds.unique holds
          exact ⟨_, foundNext, .inr (.inl rfl)⟩
        · obtain ⟨own, waiting, _, foundOwn, waits⟩ := of_returns? returns
          exact absurd waits (now.idle own waiting foundOwn)
      · obtain ⟨next, foundNext, servesNext⟩ := serves_of_step step foundNow serves
        exact ⟨next, foundNext, .inr servesNext⟩

end PoolCall

namespace Errand

def starts (errand : Errand) (trace : List (Transition Desk PoolCall)) : Nat :=
  trace.countP fun moment => moment.starts? == some errand

/-- An errand that provides a channel is done. -/
theorem settled_of_returns? {answer : Answer} (locked : Locked before)
    (step : poolCalls.Step before act after)
    (returns : Transition.returns? ⟨before, act, after⟩ = some (errand, answer))
    (yields : errand.yield? answer = some channel) : errand.Settled channel after := by
  obtain ⟨id, task, rfl, found, waits⟩ := PoolCall.of_returns? returns
  cases step with
  | answer foundTask answers returning =>
      rw [foundTask, Option.some.injEq] at found
      subst found
      refine ⟨(PoolCall.resume_of_yield? waits yields).1, ?_⟩
      intro other otherTask foundOther otherWaits
      rw [Situation.tasks_put foundTask] at foundOther
      by_cases same : id = other
      · rw [if_pos same, Option.some.injEq] at foundOther
        subst foundOther
        have isMove := ((PoolCall.advances_resume answers returning).of_errand? otherWaits).1
        contradiction
      · rw [if_neg same] at foundOther
        exact same (locked.only foundOther foundTask (PoolCall.use_of_errand? otherWaits)
          (PoolCall.use_of_errand? waits))

theorem starts_append {left right : List (Transition Desk PoolCall)} :
    errand.starts (left ++ right) = errand.starts left + errand.starts right :=
  List.countP_append

theorem starts_singleton {transition : Transition Desk PoolCall} :
    errand.starts [transition] = if transition.starts? = some errand then 1 else 0 := by
  rw [starts, List.countP_singleton]
  simp only [beq_iff_eq]

theorem starts_eq_zero_iff :
    errand.starts trace = 0 ↔ ∀ moment ∈ trace, moment.starts? ≠ some errand := by
  simp [starts, List.countP_eq_zero]

/-- Until an errand returns it is started once at most, and then somebody waits for it. -/
theorem starts_of_pends (locked : Locked start) (idle : errand.Idle start)
    (run : poolCalls.Run anyCalls start trace last) (pends : errand.Pends trace) :
    errand.starts trace = 0 ∧ errand.Idle last ∨
      errand.starts trace = 1 ∧
        ∃ (id : TaskId) (task : PoolCall), last.tasks[id]? = some task ∧
          task.errand? = some errand := by
  induction run with
  | rest => exact .inl ⟨rfl, idle⟩
  | @step trace before after act run step allowed induction =>
      have lockedNow := PoolCall.locked_of_run locked run
      have earlier := induction fun moment member => pends moment (List.mem_append_left _ member)
      rw [starts_append, starts_singleton]
      by_cases begins : Transition.starts? ⟨before, act, after⟩ = some errand
      · obtain ⟨_, id, task, next, rfl, found, rfl, inside, idleTask, waits⟩ :=
          PoolCall.of_starts? step begins
        rw [if_pos begins]
        rcases earlier with ⟨none, _⟩ | ⟨_, other, otherTask, foundOther, otherWaits⟩
        · rw [none]
          exact .inr ⟨rfl, id, next.2, Situation.tasks_put_self found _, waits⟩
        · -- Whoever waits already has the lock.
          have same := lockedNow.only found foundOther inside (PoolCall.use_of_errand? otherWaits)
          rw [same, found, Option.some.injEq] at foundOther
          rw [← foundOther, idleTask] at otherWaits
          contradiction
      · rw [if_neg begins, Nat.add_zero]
        rcases earlier with ⟨none, idleNow⟩ | ⟨one, id, task, found, waits⟩
        · refine .inl ⟨none, ?_⟩
          intro id task found waits
          rcases PoolCall.starts_or_waited step allowed found waits with
            starts | ⟨other, old, waited⟩
          · exact begins starts
          · exact idleNow id other old waited
        · rcases PoolCall.returns_or_waits step found waits with ⟨answer, returns⟩ | stays
          · exact absurd returns (pends _ (by simp) answer)
          · exact .inr ⟨one, id, task, stays, waits⟩

theorem pends_or_returns (errand : Errand) (trace : List (Transition Desk PoolCall)) :
    errand.Pends trace ∨ ∃ earlier returned later answer,
      trace = earlier ++ returned :: later ∧ errand.Pends earlier ∧
        returned.returns? = some (errand, answer) := by
  induction trace with
  | nil =>
      left
      intro moment member
      contradiction
  | cons first rest induction =>
      by_cases returns : ∃ answer, first.returns? = some (errand, answer)
      · obtain ⟨answer, returns⟩ := returns
        refine .inr ⟨[], first, rest, answer, rfl, ?_, returns⟩
        intro moment member
        contradiction
      · have firstPends := not_exists.mp returns
        have extend : ∀ {part}, errand.Pends part → errand.Pends (first :: part) := by
          intro part pends moment member
          rcases List.mem_cons.mp member with rfl | inPart
          · exact firstPends
          · exact pends moment inPart
        rcases induction with pends | ⟨earlier, returned, later, answer, rfl, pends, returns⟩
        · exact .inl (extend pends)
        · exact .inr ⟨first :: earlier, returned, later, answer, rfl, extend pends, returns⟩

end Errand

namespace PoolCall

theorem anyCalls_free (earlier later : List (Transition Desk PoolCall))
    (transition : Transition Desk PoolCall) (allowed : anyCalls earlier transition) :
    anyCalls later transition :=
  allowed

/-- Between two returns of an errand its channel is lost. -/
theorem exists_lost {earlier between later : List (Transition Desk PoolCall)}
    {first second : Transition Desk PoolCall} {answer other : Answer} (locked : Locked start)
    (run : poolCalls.Run anyCalls start trace last)
    (parts : trace = earlier ++ first :: between ++ second :: later)
    (returns : first.returns? = some (errand, answer))
    (yields : errand.yield? answer = some channel)
    (again : second.returns? = some (errand, other)) :
    ∃ moment ∈ between, errand.lasts channel moment = false := by
  apply Classical.byContradiction
  intro none
  have kept : ∀ moment ∈ between, errand.lasts channel moment = true := by
    intro moment member
    apply Classical.byContradiction
    intro lost
    exact none ⟨moment, member, Bool.not_eq_true _ ▸ lost⟩
  rw [List.append_assoc, List.cons_append] at parts
  obtain ⟨reached, step, _⟩ := run.split parts
  have settled := Errand.settled_of_returns? (locked_of_run locked reached) step returns yields
  obtain ⟨reachedSecond, _⟩ := (run.after anyCalls_free parts).split rfl
  obtain ⟨settledSecond, _⟩ := settled.of_run reachedSecond kept
  obtain ⟨id, task, _, found, waits⟩ := of_returns? again
  exact settledSecond.idle id task found waits

theorem hasEnded_of_seeks? {task : PoolCall} (seeks : task.seeks? = some errand) :
    task.hasEnded = false := by
  cases task <;> first | rfl | contradiction

theorem eq_served_of_hasEnded {task : PoolCall} (serves : errand.Serves channel task)
    (finished : task.hasEnded = true) : task = errand.served channel := by
  rcases serves with served | ⟨room, stale, _, rfl⟩
  · exact served
  · contradiction

/-- Until an errand returns that provides a channel, nobody finds one. -/
theorem missing_of_pends {later : List (Transition Desk PoolCall)} (pends : errand.Pends trace)
    (provides : errand.provides (trace ++ later) = true) :
    ∀ moment ∈ trace, errand.isMissing moment.before = true := by
  intro moment member
  obtain ⟨front, back, rfl⟩ := List.append_of_mem member
  rw [List.append_assoc, List.cons_append] at provides
  refine (Errand.provides_split ?_ provides).1
  intro other inFront
  exact pends other (List.mem_append_left _ inFront)

/-- If an errand provides a lasting channel when it first returns, and nobody can find an
open one before, then all who look for one have it started once and end with its channel. -/
theorem served_of_provides (locked : Locked start) (idle : errand.Idle start)
    (run : poolCalls.Run anyCalls start trace last) (provides : errand.provides trace = true)
    (asked : ∃ id : TaskId, start.tasks[id]? = some errand.caller)
    (finish : ∀ id : TaskId, start.tasks[id]? = some errand.caller →
      ∃ task, last.tasks[id]? = some task ∧ task.hasEnded = true) :
    errand.starts trace = 1 ∧ ∃ channel, ∀ id : TaskId,
      start.tasks[id]? = some errand.caller →
        last.tasks[id]? = some (errand.served channel) := by
  have callerSeeks : errand.caller.seeks? = some errand := by
    cases errand <;> rfl
  have haveEnded : ∀ {id : TaskId} {task : PoolCall}, start.tasks[id]? = some errand.caller →
      last.tasks[id]? = some task → task.hasEnded = true := by
    intro id task found foundLast
    obtain ⟨other, foundOther, finished⟩ := finish id found
    rw [foundLast, Option.some.injEq] at foundOther
    exact foundOther ▸ finished
  -- what comes before the first return finds no channel, what comes behind it finds this one
  rcases errand.pends_or_returns trace with
    pends | ⟨earlier, returned, later, answer, rfl, pends, returns⟩
  · obtain ⟨id, found⟩ := asked
    have providesAll : errand.provides (trace ++ []) = true := by rwa [List.append_nil]
    obtain ⟨next, foundNext, seeks⟩ := seeks_of_pends locked run pends
      (missing_of_pends pends providesAll) found callerSeeks
    have finished := haveEnded found foundNext
    rw [hasEnded_of_seeks? seeks] at finished
    contradiction
  · obtain ⟨reached, step, allowed⟩ := run.split rfl
    have back := run.after anyCalls_free rfl
    have lockedNow := locked_of_run locked reached
    obtain ⟨missingNow, yields⟩ := Errand.provides_split pends provides
    obtain ⟨channel, yields, kept⟩ := yields answer returns
    have settled := Errand.settled_of_returns? lockedNow step returns yields
    obtain ⟨_, unstarted⟩ := settled.of_run back kept
    constructor
    · have once : errand.starts earlier = 1 := by
        rcases Errand.starts_of_pends locked idle reached pends with ⟨_, idleNow⟩ | ⟨one, _⟩
        · obtain ⟨id, task, _, found, waits⟩ := of_returns? returns
          exact absurd waits (idleNow id task found)
        · exact one
      have notNow : returned.starts? ≠ some errand := by
        intro begins
        obtain ⟨_, _, _, _, isMove, _⟩ := of_starts? step begins
        obtain ⟨_, _, isAnswer, _⟩ := of_returns? returns
        rw [isMove] at isAnswer
        contradiction
      rw [List.append_cons, Errand.starts_append, Errand.starts_append, Errand.starts_singleton,
        once, if_neg notNow, Errand.starts_eq_zero_iff.mpr unstarted]
    · refine ⟨channel, ?_⟩
      intro id found
      obtain ⟨current, foundNow, seeksNow⟩ := seeks_of_pends locked reached pends
        (missing_of_pends pends provides) found callerSeeks
      obtain ⟨next, foundNext, fits⟩ : ∃ next, returned.after.tasks[id]? = some next ∧
          (next.seeks? = some errand ∨ errand.Serves channel next) := by
        obtain ⟨next, foundNext, seeks | ⟨present, _⟩ | ⟨other, alsoReturns, serves⟩⟩ :=
          seeks_of_step lockedNow step foundNow seeksNow
        · exact ⟨next, foundNext, .inl seeks⟩
        · rw [present] at missingNow
          contradiction
        · rw [returns, Option.some.injEq, Prod.mk.injEq] at alsoReturns
          exact ⟨next, foundNext, .inr (serves channel (alsoReturns.2 ▸ yields))⟩
      obtain ⟨final, foundFinal, seeks | serves⟩ :=
        serves_of_settled (locked_of_step lockedNow step allowed) settled back kept foundNext fits
      · have finished := haveEnded found foundFinal
        rw [hasEnded_of_seeks? seeks] at finished
        contradiction
      · rw [foundFinal, eq_served_of_hasEnded serves (haveEnded found foundFinal)]

/-- However calls on the pool and losses of channels follow on one another: no two errands
are under way at the same time, an errand is started only where there is no open channel,
and between two channels that are connected for a room the first was lost or everything
was taken out of the pool.  Nobody is left behind, and if an errand provides a lasting
channel, those who look for one have it started once and all end with its channel. -/
theorem single_flight_of_run {past : List (Transition Desk PoolCall)} {desk : Desk} {view : View}
    (reached : poolCalls.Run anyCalls (unused desk view) past start)
    (run : poolCalls.Run anyCalls start trace last) :
    (∀ (id other : TaskId) (task otherTask : PoolCall), last.tasks[id]? = some task →
      last.tasks[other]? = some otherTask → task.errand? ≠ none → otherTask.errand? ≠ none →
      other = id) ∧
    (∀ moment ∈ trace, ∀ errand, moment.starts? = some errand →
      errand.isDue moment.before = true) ∧
    (∀ earlier first between second later room channel another,
      trace = earlier ++ first :: between ++ second :: later →
      first.returns? = some (.connect room, .connected channel) →
      second.returns? = some (.connect room, .connected another) →
      ∃ moment ∈ between, moment.before.view.isOpen channel = false ∨ moment.clears = true) ∧
    (∀ (id : TaskId) (task : PoolCall), last.tasks[id]? = some task → task.hasEnded = false →
      ∃ other, poolCalls.CanGoOn last other) ∧
    stepsTaken trace ≤ 6 * last.tasks.length ∧
    ∀ errand : Errand, errand.Idle start → errand.provides trace = true →
      (∃ id : TaskId, start.tasks[id]? = some errand.caller) →
      (∀ id : TaskId, start.tasks[id]? = some errand.caller →
        ∃ task, last.tasks[id]? = some task ∧ task.hasEnded = true) →
      errand.starts trace = 1 ∧ ∃ channel, ∀ id : TaskId,
        start.tasks[id]? = some errand.caller →
          last.tasks[id]? = some (errand.served channel) := by
  have lockedStart := locked_of_run (locked_unused desk view) reached
  have lockedLast := locked_of_run lockedStart run
  refine ⟨?_, ?_, ?_, ?_, ?_, ?_⟩
  · intro id other task otherTask found foundOther waits otherWaits
    obtain ⟨errand, isErrand⟩ := Option.ne_none_iff_exists'.mp waits
    obtain ⟨otherErrand, isOther⟩ := Option.ne_none_iff_exists'.mp otherWaits
    exact lockedLast.only found foundOther (use_of_errand? isErrand) (use_of_errand? isOther)
  · intro moment member errand starts
    obtain ⟨_, _, step, _⟩ := run.upTo member
    exact (of_starts? step starts).1
  · intro earlier first between second later room channel another parts returns again
    obtain ⟨moment, member, lost⟩ := exists_lost lockedStart run parts returns rfl again
    refine ⟨moment, member, ?_⟩
    rw [Errand.lasts, Bool.and_eq_false_iff, Bool.not_eq_false'] at lost
    exact lost
  · intro id task found runs
    exact exists_canGoOn lockedLast found runs
  · have bound := steps_le_of_run run
    omega
  · intro errand idle provides asked finish
    exact served_of_provides lockedStart idle run provides asked finish

/-- Two calls look up a lobby without a channel, and two others reopen a lost channel. -/
def crowded : List PoolCall :=
  List.replicate 2 (lookup 1 .looking) ++ List.replicate 2 (reopening 7 .asking)

/-- All four ask for the lock.  The first has a channel connected, the second finds it, the
third has the lost channel reconnected, and the fourth finds that open. -/
def sharedCourse : List (Cue Desk PoolCall) :=
  List.flatten
    [.replicate 2 (.move 0 0), .replicate 2 (.move 1 0), [.move 2 0, .move 3 0],
      .replicate 2 (.move 0 0), [.shift (showing [0]), .answer 0 (.connected 0)],
      .replicate 2 (.move 1 0), .replicate 2 (.move 2 0),
      [.shift (showing [0, 7]), .answer 2 .done], .replicate 2 (.move 3 0)]

/-- What a run shows in which both errands have provided a channel. -/
def showsShared (trace : List (Transition Desk PoolCall)) (last : Situation Desk PoolCall) :
    Bool :=
  (Errand.connect 1).provides trace && (Errand.reconnect 7).provides trace &&
    last.tasks.length == 4 && last.tasks.all hasEnded

theorem anyCalls_of_isInner (trace : List (Transition Desk PoolCall))
    (transition : Transition Desk PoolCall) (inner : transition.act.isInner = true) :
    anyCalls trace transition := by
  obtain ⟨notOutside, notBegin⟩ := Act.ne_of_isInner inner
  unfold anyCalls
  split
  case h_1 outside => exact absurd outside notOutside
  case h_2 task begins => exact absurd begins (notBegin task)
  case h_3 => trivial

theorem single_flight_of_run_of_crowded :
    ∃ desk view past start trace last,
      poolCalls.Run anyCalls (unused desk view) past start ∧
      poolCalls.Run anyCalls start trace last ∧
      start.tasks = crowded ∧
      (Errand.connect 1).provides trace = true ∧
      (Errand.reconnect 7).provides trace = true ∧
      (Errand.connect 1).starts trace = 1 ∧
      (∃ channel, last.tasks[0]? = some (looked (.ok channel)) ∧
        last.tasks[1]? = some (looked (.ok channel))) ∧
      (Errand.reconnect 7).starts trace = 1 ∧
      last.tasks[2]? = some (ended (.ok ())) ∧ last.tasks[3]? = some (ended (.ok ())) := by
  let desk : Desk := .fresh ⟨0, .empty, 0, 0⟩ false
  let start : Situation Desk PoolCall := { unused desk (showing []) with tasks := crowded }
  have reached : ∃ past, poolCalls.Run anyCalls (unused desk (showing [])) past start :=
    ⟨_, .step (.step (.step (.step .rest (.begin (lookup 1 .looking)) rfl)
      (.begin (lookup 1 .looking)) rfl) (.begin (reopening 7 .asking)) rfl)
      (.begin (reopening 7 .asking)) rfl⟩
  obtain ⟨past, reached⟩ := reached
  have replayed : (poolCalls.replay (fun _ transition => transition.act.isInner) [] start
      sharedCourse).any (fun ending => showsShared ending.1 ending.2) = true := by
    decide +kernel
  obtain ⟨trace, last, run, shown⟩ := System.exists_run_of_replay anyCalls_of_isInner replayed
  simp only [showsShared, Bool.and_eq_true, beq_iff_eq, List.all_eq_true] at shown
  obtain ⟨⟨⟨connects, reconnects⟩, length⟩, finished⟩ := shown
  have finish : ∀ (id : TaskId) (task : PoolCall), start.tasks[id]? = some task →
      ∃ task, last.tasks[id]? = some task ∧ task.hasEnded = true := by
    intro id task found
    obtain ⟨inside, _⟩ := List.getElem?_eq_some_iff.mp found
    have insideLast : id < last.tasks.length := by
      rw [length]
      exact inside
    exact ⟨last.tasks[id], List.getElem?_eq_getElem insideLast, finished _ (List.getElem_mem _)⟩
  have idle : ∀ errand : Errand, errand.Idle start := fun errand =>
    errand.idle_of_isFresh (by decide : ∀ task ∈ crowded, task.isFresh = true)
  obtain ⟨_, _, _, _, _, served⟩ := single_flight_of_run reached run
  obtain ⟨connected, channel, givesRoom⟩ := served (.connect 1) (idle _) connects ⟨0, rfl⟩
    fun id found => finish id _ found
  obtain ⟨reconnected, _, givesChannel⟩ := served (.reconnect 7) (idle _) reconnects ⟨2, rfl⟩
    fun id found => finish id _ found
  exact ⟨desk, showing [], past, start, trace, last, reached, run, rfl, connects, reconnects,
    connected, ⟨channel, givesRoom 0 rfl, givesRoom 1 rfl⟩, reconnected, givesChannel 2 rfl,
    givesChannel 3 rfl⟩

end PoolCall

end RoomLoad
