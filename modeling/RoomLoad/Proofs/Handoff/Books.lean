import RoomLoad.Proofs.Handoff.Stream

/-!
# The books of a main phase

The workers that have ended are counted, their reports are added up, and each of them has
let go of the queue.  A worker that ended without having been asked to stop has seen the
end of the stream.
-/

namespace RoomLoad

namespace Worker

/-- One until the worker comes to its end. -/
def atWork (worker : Worker) : Nat :=
  if worker.phase.isOver then 0 else 1

/-- What the report of a worker amounts to once the worker has come to its end. -/
def settled (amount : WorkerReport → Nat) (worker : Worker) : Nat :=
  if worker.phase.isOver then amount worker.report else 0

theorem settled_add_atWork (worker : Worker) : worker.settled (fun _ => 1) + worker.atWork = 1 := by
  unfold settled atWork
  split <;> rfl

variable {now : Instant} {desk later : Desk} {worker next : Worker}

theorem Advances.atWork_eq_one (advances : Advances now desk worker later next) :
    worker.atWork = 1 := by
  rw [atWork, advances.isOver_eq_false]
  rfl

theorem Advances.settled_eq_zero (advances : Advances now desk worker later next)
    (amount : WorkerReport → Nat) : worker.settled amount = 0 := by
  rw [settled, advances.isOver_eq_false]
  rfl

end Worker

namespace RunTask

variable {state : RunState} {desk : Desk} {next : Worker}

theorem withWorker_ended :
    (withWorker state desk next).ended = state.ended + next.settled fun _ => 1 := by
  rw [withWorker, Worker.settled]
  split <;> rfl

theorem withWorker_sent :
    (withWorker state desk next).tally.sent =
      state.tally.sent + next.settled fun report => report.sent := by
  rw [withWorker, Worker.settled]
  split <;> rfl

theorem withWorker_abandoned :
    (withWorker state desk next).tally.abandoned =
      state.tally.abandoned + next.settled fun report => report.abandoned := by
  rw [withWorker, Worker.settled]
  split <;> rfl

theorem withWorker_interrupted :
    (withWorker state desk next).tally.interrupted = false ↔
      state.tally.interrupted = false ∧
        next.settled (fun report => report.interrupted.toNat) = 0 := by
  rw [withWorker, Worker.settled]
  split
  case isTrue => simp [WorkerReport.add]
  case isFalse => simp

end RunTask

namespace MainPhase

/-- The books are right: what the run has counted is what the workers amount to. -/
structure Books (situation : Situation RunState RunTask) : Prop where
  receivers : situation.common.desk.queue.receivers = office.sum Worker.atWork situation
  ended : situation.common.ended = office.sum (Worker.settled fun _ => 1) situation
  sent : situation.common.tally.sent =
    office.sum (Worker.settled fun report => report.sent) situation
  abandoned : situation.common.tally.abandoned =
    office.sum (Worker.settled fun report => report.abandoned) situation
  interrupted : situation.common.tally.interrupted = false →
    office.sum (Worker.settled fun report => report.interrupted.toNat) situation = 0

variable {stoppable : Bool} {trace : List (Transition RunState RunTask)}
  {before after : Situation RunState RunTask} {act : Act RunTask}

private theorem books_of_same (books : Books before)
    (receivers : after.common.desk.queue.receivers = before.common.desk.queue.receivers)
    (ended : after.common.ended = before.common.ended)
    (tally : after.common.tally = before.common.tally)
    (sums : ∀ measure, office.sum measure after = office.sum measure before) : Books after := by
  constructor
  case receivers =>
    rw [receivers, sums]
    exact books.receivers
  case ended =>
    rw [ended, sums]
    exact books.ended
  case sent =>
    rw [tally, sums]
    exact books.sent
  case abandoned =>
    rw [tally, sums]
    exact books.abandoned
  case interrupted =>
    rw [tally, sums]
    exact books.interrupted

private theorem books_of_works {id : TaskId} {worker next : Worker} {desk : Desk}
    (books : Books before)
    (found : before.tasks[id]? = some (.worker worker))
    (advances : worker.Advances before.view.now before.common.desk desk next) :
    Books (before.put id (RunTask.withWorker before.common desk next, .worker next)) := by
  generalize isLater :
    before.put id (RunTask.withWorker before.common desk next, .worker next) = later
  have state : later.common = RunTask.withWorker before.common desk next := by
    rw [← isLater]
    rfl
  have sums : ∀ measure : Worker → Nat, office.sum measure later + measure worker =
      office.sum measure before + measure next := by
    rw [← isLater]
    exact office.sum_put found _
  have settles : ∀ amount, office.sum (Worker.settled amount) later =
      office.sum (Worker.settled amount) before + next.settled amount := by
    intro amount
    have change := sums (Worker.settled amount)
    rw [advances.settled_eq_zero amount] at change
    exact change
  constructor
  case receivers =>
    have one := advances.atWork_eq_one
    have present : worker.atWork ≤ office.sum Worker.atWork before :=
      Office.le_sum (List.mem_of_getElem? found) rfl Worker.atWork
    have kept := books.receivers
    have change := sums Worker.atWork
    have leaves := advances.receivers_eq
    rw [state]
    refine leaves.trans ?_
    rw [one, Worker.atWork] at change
    split
    case isTrue finished =>
      rw [if_pos finished] at change
      omega
    case isFalse atWork =>
      rw [if_neg atWork] at change
      omega
  case ended => rw [settles, ← books.ended, state, RunTask.withWorker_ended]
  case sent => rw [settles, ← books.sent, state, RunTask.withWorker_sent]
  case abandoned => rw [settles, ← books.abandoned, state, RunTask.withWorker_abandoned]
  case interrupted =>
    intro uninterrupted
    rw [state] at uninterrupted
    obtain ⟨earlier, now⟩ := RunTask.withWorker_interrupted.mp uninterrupted
    rw [settles, books.interrupted earlier, now]

theorem Books.goes (books : Books before) (goes : Goes before act after) : Books after := by
  cases goes with
  | idles acts frames =>
      refine books_of_same books frames.receivers frames.ended frames.tally ?_
      intro measure
      rw [Office.sum, frames.tasks, Office.sum]
  | conducts acts found conducts =>
      obtain ⟨queue, _, _, ended, tally, _⟩ := conducts.advances.desk_eq
      exact books_of_same books (congrArg UnitQueue.receivers queue) ended tally
        (office.sum_put found _)
  | generates acts found advances =>
      exact books_of_same books advances.receivers_eq rfl rfl (office.sum_put found _)
  | works acts found works => exact books_of_works books found works.advances

theorem Books.step (books : Books before) (advances : Advances stoppable before act after) :
    Books after := by
  cases advances with
  | conducts acts found conducts =>
      obtain ⟨queue, _, _, ended, tally, _⟩ := conducts.desk_eq
      exact books_of_same books (congrArg UnitQueue.receivers queue) ended tally
        (office.sum_put found _)
  | generates acts found advances =>
      exact books_of_same books advances.receivers_eq rfl rfl (office.sum_put found _)
  | works acts found advances => exact books_of_works books found advances
  | hears => exact books_of_same books rfl rfl rfl fun _ => rfl
  | stops => exact books_of_same books rfl rfl rfl fun _ => rfl
  | shifts => exact books_of_same books rfl rfl rfl fun _ => rfl

end MainPhase

end RoomLoad
