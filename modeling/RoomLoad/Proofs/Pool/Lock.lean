import RoomLoad.Pool.Lookup
import RoomLoad.Pool.Reopening
import RoomLoad.Proofs.Runs.Basic

/-!
# The lock of the pool

Lookups and reopenings use the lock in the same way: a task asks for it, waits until it
is its turn, works under the lock and gives it away.  If every task keeps to that, only
the holder works under the lock, and somebody holds it as long as anybody waits.
-/

namespace RoomLoad

/-- How a task stands to the lock. -/
inductive LockUse where
  | away
  | queued
  /-- It works under the lock. -/
  | inside
deriving DecidableEq

namespace CreationLock

/-- The tasks that have asked for the lock, the holder in front. -/
def line (lock : CreationLock) : List TaskId :=
  lock.holder.toList ++ lock.waiting

/-- What a task does to the lock and to its own standing in one step. -/
inductive Moves (task : TaskId) (lock : CreationLock) :
    LockUse → LockUse → CreationLock → Prop where
  | keeps (use : LockUse) : Moves task lock use use lock
  | asks : Moves task lock .away .queued (lock.request task)
  | enters :
      lock.isHeldBy task = true →
      Moves task lock .queued .inside lock
  | leaves : Moves task lock .inside .away lock.release

/-- The lock is where the tasks take it to be. -/
structure Serves (lock : CreationLock) (use : TaskId → LockUse) : Prop where
  nodup : lock.line.Nodup
  vacant : lock.holder = none → lock.waiting = []
  asked : ∀ task, task ∈ lock.line ↔ use task ≠ .away
  inside : ∀ task, use task = .inside → lock.holder = some task

theorem line_request {lock : CreationLock} (vacant : lock.holder = none → lock.waiting = [])
    (task : TaskId) : (lock.request task).line = lock.line ++ [task] := by
  unfold request line
  cases holder : lock.holder with
  | none => simp [vacant holder]
  | some other => simp

theorem line_release (lock : CreationLock) : lock.release.line = lock.waiting := by
  unfold release line
  cases lock.waiting <;> rfl

theorem serves_free {use : TaskId → LockUse} (away : ∀ task, use task = .away) :
    free.Serves use := by
  constructor
  case nodup => exact List.nodup_nil
  case vacant =>
    intro _
    rfl
  case asked =>
    intro task
    simp [free, line, away]
  case inside =>
    intro task inside
    rw [away] at inside
    contradiction

variable {lock later : CreationLock} {use after : TaskId → LockUse} {task : TaskId}

/-- Nobody else works under the lock. -/
theorem Serves.alone (serves : lock.Serves use) {other : TaskId} (inside : use task = .inside)
    (alsoInside : use other = .inside) : other = task := by
  have first := serves.inside task inside
  have second := serves.inside other alsoInside
  rw [first] at second
  exact (Option.some.inj second).symm

private theorem serves_request (serves : lock.Serves use) (away : use task = .away)
    (queued : after task = .queued) (others : ∀ other, other ≠ task → after other = use other) :
    (lock.request task).Serves after := by
  have absent : task ∉ lock.line := by
    rw [serves.asked, away]
    exact fun contrary => contrary rfl
  have line := line_request serves.vacant task
  constructor
  case nodup =>
    rw [line, List.nodup_append]
    refine ⟨serves.nodup, by simp, ?_⟩
    intro other member own isOwn same
    rw [List.mem_singleton] at isOwn
    rw [same, isOwn] at member
    exact absent member
  case vacant =>
    unfold request
    cases holder : lock.holder with
    | none =>
        intro contrary
        contradiction
    | some other =>
        intro contrary
        contradiction
  case asked =>
    intro other
    rw [line, List.mem_append, List.mem_singleton]
    by_cases same : other = task
    · subst same
      simp [queued]
    · rw [others other same, serves.asked]
      simp [same]
  case inside =>
    intro other inside
    have different : other ≠ task := by
      rintro rfl
      rw [queued] at inside
      contradiction
    rw [others other different] at inside
    have holder := serves.inside other inside
    simp [request, holder]

private theorem serves_release (serves : lock.Serves use) (inside : use task = .inside)
    (away : after task = .away) (others : ∀ other, other ≠ task → after other = use other) :
    lock.release.Serves after := by
  have holder := serves.inside task inside
  have lineEq : lock.line = task :: lock.waiting := by
    rw [line, holder]
    rfl
  have apart := serves.nodup
  rw [lineEq, List.nodup_cons] at apart
  constructor
  case nodup =>
    rw [line_release]
    exact apart.2
  case vacant =>
    intro vacant
    rw [release, List.head?_eq_none_iff] at vacant
    rw [release, vacant]
    rfl
  case asked =>
    intro other
    rw [line_release]
    by_cases same : other = task
    · subst same
      simp [away, apart.1]
    · rw [others other same, ← serves.asked, lineEq]
      simp [same]
  case inside =>
    intro other alsoInside
    by_cases same : other = task
    · subst same
      rw [away] at alsoInside
      contradiction
    · rw [others other same] at alsoInside
      exact absurd (serves.alone inside alsoInside) same

/-- The lock stays where the tasks take it to be when one of them goes on. -/
theorem Serves.step (serves : lock.Serves use)
    (moves : lock.Moves task (use task) (after task) later)
    (others : ∀ other, other ≠ task → after other = use other) : later.Serves after := by
  generalize before : use task = own at moves
  generalize next : after task = new at moves
  cases moves with
  | keeps =>
      have same : after = use := by
        funext other
        by_cases isTask : other = task
        · rw [isTask, before, next]
        · exact others other isTask
      rw [same]
      exact serves
  | asks => exact serves_request serves before next others
  | enters held =>
      constructor
      case nodup => exact serves.nodup
      case vacant => exact serves.vacant
      case asked =>
        intro other
        rw [serves.asked]
        by_cases same : other = task
        · subst same
          simp [before, next]
        · rw [others other same]
      case inside =>
        intro other inside
        by_cases same : other = task
        · subst same
          simpa [isHeldBy] using held
        · rw [others other same] at inside
          exact serves.inside other inside
  | leaves => exact serves_release serves before next others

end CreationLock

/-- How each task of a situation stands to the lock, by its number. -/
def Situation.uses {σ τ : Type} (use : τ → LockUse) (situation : Situation σ τ)
    (id : TaskId) : LockUse :=
  situation.tasks[id]?.elim .away use

theorem CreationLock.serves_of_away {σ τ : Type} {use : τ → LockUse}
    {situation : Situation σ τ} (away : ∀ task ∈ situation.tasks, use task = .away) :
    free.Serves (situation.uses use) := by
  apply serves_free
  intro id
  rw [Situation.uses]
  cases found : situation.tasks[id]? with
  | none => rfl
  | some task => exact away task (List.mem_of_getElem? found)

theorem CreationLock.Serves.put {σ τ : Type} {use : τ → LockUse} {before : Situation σ τ}
    {id : TaskId} {task : τ} {next : σ × τ} {lock later : CreationLock}
    (serves : lock.Serves (before.uses use)) (found : before.tasks[id]? = some task)
    (moves : lock.Moves id (use task) (use next.2) later) :
    later.Serves ((before.put id next).uses use) := by
  apply serves.step
  · rw [Situation.uses, found, Situation.uses, Situation.tasks_put_self found]
    exact moves
  · intro other different
    rw [Situation.uses, Situation.tasks_put_of_ne (Ne.symm different)]
    rfl

/-- While anybody waits for the lock, somebody who has asked for it has it. -/
theorem CreationLock.Serves.exists_holder {use : TaskId → LockUse} {lock : CreationLock}
    (serves : lock.Serves use) {id : TaskId} (queued : use id = .queued) :
    ∃ holder, lock.isHeldBy holder = true ∧ use holder ≠ .away := by
  have inLine : id ∈ lock.line := by
    rw [serves.asked, queued]
    exact LockUse.noConfusion
  cases held : lock.holder with
  | none =>
      rw [line, held, serves.vacant held] at inLine
      contradiction
  | some holder =>
      refine ⟨holder, by simp [isHeldBy, held], ?_⟩
      rw [← serves.asked, line, held]
      simp

/-- While a task waits for the lock, a task that has asked for it has it. -/
theorem CreationLock.Serves.exists_holding {σ τ : Type} {use : τ → LockUse}
    {situation : Situation σ τ} {lock : CreationLock} (serves : lock.Serves (situation.uses use))
    {id : TaskId} {task : τ} (found : situation.tasks[id]? = some task)
    (queued : use task = .queued) :
    ∃ holder holding, situation.tasks[holder]? = some holding ∧
      lock.isHeldBy holder = true ∧ use holding ≠ .away := by
  have waits : situation.uses use id = .queued := by
    rw [Situation.uses, found]
    exact queued
  obtain ⟨holder, isHeld, asked⟩ := serves.exists_holder waits
  rw [Situation.uses] at asked
  cases present : situation.tasks[holder]? with
  | none =>
      rw [present] at asked
      exact absurd rfl asked
  | some holding =>
      rw [present] at asked
      exact ⟨holder, holding, present, isHeld, asked⟩

/-- Two tasks do not work under the lock at the same time. -/
theorem CreationLock.Serves.only {σ τ : Type} {use : τ → LockUse} {situation : Situation σ τ}
    {lock : CreationLock} (serves : lock.Serves (situation.uses use)) {id other : TaskId}
    {task otherTask : τ} (found : situation.tasks[id]? = some task)
    (also : situation.tasks[other]? = some otherTask) (inside : use task = .inside)
    (alsoInside : use otherTask = .inside) : other = id := by
  apply serves.alone
  · rw [Situation.uses, found]
    exact inside
  · rw [Situation.uses, also]
    exact alsoInside

namespace Lookup

/-- How a task stands to the lock that looks up a channel. -/
def use : Lookup → LockUse
  | looking => .away
  | asking => .away
  | waiting => .queued
  | rechecking => .inside
  | connecting => .inside
  | closing _ _ => .inside

/-- How a task stands to the lock after a step of its lookup. -/
def useAfter : Progress Lookup Result → LockUse
  | .going lookup => lookup.use
  | .ended _ => .away

variable {lookup : Lookup} {view : View} {task : TaskId} {room : RoomId} {pool later : Pool}
  {progress : Progress Lookup Result}

theorem moves_of_move? (moved : lookup.move? view task room pool = some (later, progress)) :
    pool.lock.Moves task lookup.use (useAfter progress) later.lock := by
  cases lookup with
  | looking =>
      rw [move?] at moved
      split at moved
      case h_1 =>
        cases moved
        exact .keeps .away
      case h_2 =>
        cases moved
        exact .keeps .away
  | asking =>
      cases moved
      exact .asks
  | waiting =>
      rw [move?] at moved
      split at moved
      case isTrue held =>
        cases moved
        exact .enters held
      case isFalse => contradiction
  | rechecking =>
      rw [move?] at moved
      split at moved
      case h_1 =>
        cases moved
        exact .leaves
      case h_2 =>
        cases moved
        exact .keeps .inside
  | connecting => contradiction
  | closing fresh stale => contradiction

theorem moves_install (fresh : ChannelId) :
    pool.lock.Moves task .inside (useAfter (install room pool fresh).2)
      (install room pool fresh).1.lock := by
  unfold install
  dsimp only
  split
  case h_1 stale _ =>
    split
    case isTrue => exact .leaves
    case isFalse => exact .keeps .inside
  case h_2 => exact .leaves

theorem moves_resume {call : Call} {answer : Answer} (waits : lookup.call? room = some call)
    (returns : call.Returns answer) :
    pool.lock.Moves task lookup.use (useAfter (lookup.resume room pool answer).2)
      (lookup.resume room pool answer).1.lock := by
  cases lookup with
  | connecting =>
      cases waits
      cases returns with
      | connected _ fresh => exact moves_install fresh
      | refused => exact .leaves
  | closing fresh stale =>
      cases waits
      cases returns
      exact .leaves
  | _ => contradiction

theorem goes_on (turn : lookup.use = .queued → pool.lock.isHeldBy task = true) :
    (lookup.move? view task room pool).isSome = true ∨ (lookup.call? room).isSome = true := by
  cases lookup with
  | looking =>
      left
      rw [move?]
      split <;> rfl
  | asking => exact .inl rfl
  | waiting =>
      left
      rw [move?, if_pos (turn rfl)]
      rfl
  | rechecking =>
      left
      rw [move?]
      split <;> rfl
  | connecting => exact .inr rfl
  | closing fresh stale => exact .inr rfl

end Lookup

namespace Reopening

/-- How a task stands to the lock that reopens a channel. -/
def use : Reopening → LockUse
  | asking => .away
  | waiting => .queued
  | checking => .inside
  | reconnecting => .inside

/-- How a task stands to the lock after a step of its reopening. -/
def useAfter : Progress Reopening Result → LockUse
  | .going reopening => reopening.use
  | .ended _ => .away

variable {reopening : Reopening} {view : View} {task : TaskId} {channel : ChannelId}
  {pool later : Pool} {progress : Progress Reopening Result}

theorem moves_of_move? (moved : reopening.move? view task channel pool = some (later, progress)) :
    pool.lock.Moves task reopening.use (useAfter progress) later.lock := by
  cases reopening with
  | asking =>
      cases moved
      exact .asks
  | waiting =>
      rw [move?] at moved
      split at moved
      case isTrue held =>
        cases moved
        exact .enters held
      case isFalse => contradiction
  | checking =>
      rw [move?] at moved
      split at moved
      case isTrue =>
        cases moved
        exact .leaves
      case isFalse =>
        cases moved
        exact .keeps .inside
  | reconnecting => contradiction

theorem moves_resume {call : Call} {answer : Answer}
    (waits : reopening.call? channel = some call) (returns : call.Returns answer) :
    pool.lock.Moves task reopening.use (useAfter (reopening.resume pool answer).2)
      (reopening.resume pool answer).1.lock := by
  cases reopening with
  | reconnecting =>
      cases waits
      cases returns with
      | reconnected => exact .leaves
      | unreachable => exact .leaves
  | _ => contradiction

theorem goes_on (turn : reopening.use = .queued → pool.lock.isHeldBy task = true) :
    (reopening.move? view task channel pool).isSome = true ∨
      (reopening.call? channel).isSome = true := by
  cases reopening with
  | asking => exact .inl rfl
  | waiting =>
      left
      rw [move?, if_pos (turn rfl)]
      rfl
  | checking =>
      left
      rw [move?]
      split <;> rfl
  | reconnecting => exact .inr rfl

end Reopening

end RoomLoad
