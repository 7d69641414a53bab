import RoomLoad.Proofs.Delivery.Progress
import RoomLoad.Proofs.Pool.Lock

/-!
# What holds a worker up

A worker uses the lock of the pool as its lookups and reopenings do.  It is held up only
while it waits for its turn at the lock, for a call to return or for an item.
-/

namespace RoomLoad

open CreationLock (Moves)

namespace Worker

/-- How a worker stands to the lock of the pool. -/
def use (worker : Worker) : LockUse :=
  match worker.phase with
  | .resolving _ lookup => lookup.use
  | .reopening _ _ reopening => reopening.use
  | _ => .away

variable {view : View} {task : TaskId} {desk : Desk} {worker : Worker}

theorem use_afterLookup (unit : OutboundUnit) (progress : Progress Lookup Lookup.Result) :
    (worker.afterLookup unit progress).use = Lookup.useAfter progress := by
  rcases progress with lookup | (fault | channel) <;> rfl

theorem use_afterReopening (unit : OutboundUnit) (channel : ChannelId)
    (progress : Progress Reopening Reopening.Result) :
    (worker.afterReopening unit channel progress).use = Reopening.useAfter progress := by
  rcases progress with reopening | (fault | ⟨⟩) <;> rfl

theorem Goes.moves {answer : Option Answer} {later : Desk} {next : Worker}
    (goes : Goes view task desk worker answer later next) :
    Moves task desk.pool.lock worker.use next.use later.pool.lock := by
  have away : worker.use = .away → next.use = .away →
      later.pool.lock = desk.pool.lock →
      Moves task desk.pool.lock worker.use next.use later.pool.lock := by
    intro before stays lock
    rw [before, stays, lock]
    exact .keeps .away
  cases goes with
  | looks resolving moved =>
      rw [use_afterLookup, use, resolving]
      exact Lookup.moves_of_move? moved
  | looksOn resolving waits returns =>
      rw [use_afterLookup, use, resolving]
      exact Lookup.moves_resume waits returns
  | reopens reopens moved =>
      rw [use_afterReopening, use, reopens]
      exact Reopening.moves_of_move? moved
  | reopensOn reopens waits returns =>
      rw [use_afterReopening, use, reopens]
      exact Reopening.moves_resume waits returns
  | stops idle =>
      refine away ?_ rfl rfl
      rcases idle with ready | receiving
      · rw [use, ready]
      · rw [use, receiving]
  | asks phase | takes phase | endsAtStop phase | endsAtHangUp phase | tries phase
  | hasTried phase | findsOpen phase | findsClosed phase | enters phase | withdraws phase
  | findsAcknowledged phase | rests phase | hasFailed phase | isInterrupted phase | sends phase
  | fails phase | wakes phase =>
      exact away (by rw [use, phase]) rfl rfl

/-- A worker that has asked for the lock neither waits for an item nor has ended. -/
theorem of_use_ne_away (busy : worker.use ≠ .away) :
    worker.phase.isOver = false ∧ worker.phase ≠ .receiving := by
  unfold use at busy
  split at busy
  case h_1 unit lookup resolving =>
    rw [resolving]
    exact ⟨rfl, WorkerPhase.noConfusion⟩
  case h_2 unit channel reopening reopens =>
    rw [reopens]
    exact ⟨rfl, WorkerPhase.noConfusion⟩
  case h_3 => exact absurd rfl busy

theorem receive_ne_nil (supplied : desk.queue.take ≠ .empty) : worker.receive desk ≠ [] := by
  unfold receive
  dsimp only
  cases taken : desk.queue.take with
  | item envelope queue => cases envelope <;> split <;> exact List.cons_ne_nil _ _
  | disconnected => split <;> exact List.cons_ne_nil _ _
  | empty => exact absurd taken supplied

theorem receive_ne_nil_of_shutdown (shutdown : desk.shutdown = true) :
    worker.receive desk ≠ [] := by
  simp [receive, shutdown]

theorem goes_on (atWork : worker.phase.isOver = false)
    (turn : worker.use = .queued → desk.pool.lock.isHeldBy task = true)
    (supplied : worker.phase = .receiving → worker.receive desk ≠ []) :
    worker.moves view task desk ≠ [] ∨ worker.call?.isSome = true := by
  unfold moves
  split
  case h_1 ready =>
    left
    split <;> exact List.cons_ne_nil _ _
  case h_2 receiving => exact .inl (supplied receiving)
  case h_3 unit trying =>
    left
    split <;> exact List.cons_ne_nil _ _
  case h_4 unit lookup resolving =>
    rw [use, resolving] at turn
    have either : (lookup.move? view task unit.room desk.pool).isSome = true ∨
      (lookup.call? unit.room).isSome = true := Lookup.goes_on turn
    rcases either with moved | waits
    · left
      obtain ⟨⟨pool, progress⟩, found⟩ := Option.isSome_iff_exists.mp moved
      rw [found]
      exact List.cons_ne_nil _ _
    · right
      rw [call?, resolving]
      exact waits
  case h_5 unit channel checking =>
    left
    split <;> exact List.cons_ne_nil _ _
  case h_6 unit channel reopening reopens =>
    rw [use, reopens] at turn
    have either : (reopening.move? view task channel desk.pool).isSome = true ∨
      (reopening.call? channel).isSome = true := Reopening.goes_on turn
    rcases either with moved | waits
    · left
      obtain ⟨⟨pool, progress⟩, found⟩ := Option.isSome_iff_exists.mp moved
      rw [found]
      exact List.cons_ne_nil _ _
    · right
      rw [call?, reopens]
      exact waits
  case h_7 => exact .inl (List.cons_ne_nil _ _)
  case h_8 unit channel sending =>
    right
    rw [call?, sending]
    rfl
  case h_9 => exact .inl (List.cons_ne_nil _ _)
  case h_10 unit failing =>
    left
    dsimp only
    split <;> exact List.cons_ne_nil _ _
  case h_11 unit resting =>
    right
    rw [call?, resting]
    rfl
  case h_12 finished =>
    rw [finished] at atWork
    contradiction
  case h_13 crashed =>
    rw [crashed] at atWork
    contradiction

theorem goes_on_of_asked (asked : worker.use ≠ .away)
    (turn : worker.use = .queued → desk.pool.lock.isHeldBy task = true) :
    worker.moves view task desk ≠ [] ∨ worker.call?.isSome = true := by
  obtain ⟨atWork, notReceiving⟩ := of_use_ne_away asked
  exact goes_on atWork turn fun receiving => absurd receiving notReceiving

theorem goes_on_of_seq? (inHand : worker.phase.seq?.isSome = true)
    (turn : worker.use = .queued → desk.pool.lock.isHeldBy task = true) :
    worker.moves view task desk ≠ [] ∨ worker.call?.isSome = true := by
  refine goes_on ?_ turn ?_
  · cases phase : worker.phase <;> first | rfl | (rw [phase] at inHand; contradiction)
  · intro receiving
    rw [receiving] at inHand
    contradiction

end Worker

end RoomLoad
