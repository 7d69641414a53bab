import RoomLoad.Proofs.Runs.Basic
import RoomLoad.Worker.Basic

/-!
# The steps of a worker

`Worker.Goes` lists everything that a worker can do in one step, each with what it looks at
and what it changes.  All else that is said about the steps of a worker is read off this
list.
-/

namespace RoomLoad

/-- The answer that a step brings, if it is the return of a call. -/
def Act.answer? {τ : Type} : Act τ → Option Answer
  | .answer _ given => some given
  | _ => none

namespace Worker

/-- What one step of a worker can be, by the answer that it brings. -/
inductive Goes (view : View) (task : TaskId) (desk : Desk) (worker : Worker) :
    Option Answer → Desk → Worker → Prop where
  | asks :
      worker.phase = .ready →
      desk.shutdown = false →
      Goes view task desk worker none desk (worker.goTo .receiving)
  | stops :
      worker.phase = .ready ∨ worker.phase = .receiving →
      desk.shutdown = true →
      Goes view task desk worker none { desk with queue := desk.queue.dropReceiver }
        { worker with report.interrupted := true, phase := .finished }
  | takes {unit : OutboundUnit} {queue : UnitQueue} :
      worker.phase = .receiving →
      desk.queue.take = .item (.unit unit) queue →
      Goes view task desk worker none { desk with queue := queue } (worker.goTo (.trying unit))
  | endsAtStop {queue : UnitQueue} :
      worker.phase = .receiving →
      desk.queue.take = .item .stop queue →
      Goes view task desk worker none { desk with queue := queue.dropReceiver }
        (worker.goTo .finished)
  | endsAtHangUp :
      worker.phase = .receiving →
      desk.queue.take = .disconnected →
      Goes view task desk worker none { desk with queue := desk.queue.dropReceiver }
        (worker.goTo .finished)
  | tries {unit : OutboundUnit} :
      worker.phase = .trying unit →
      unit.attempt < worker.policy.maxAttempts →
      Goes view task desk worker none desk (worker.goTo (.resolving unit .looking))
  | hasTried {unit : OutboundUnit} :
      worker.phase = .trying unit →
      worker.policy.maxAttempts ≤ unit.attempt →
      Goes view task desk worker none { desk with ledger := desk.ledger.countFailure }
        { worker with report.abandoned := worker.report.abandoned + 1, phase := .ready }
  | looks {unit : OutboundUnit} {lookup : Lookup} {pool : Pool}
      {progress : Progress Lookup Lookup.Result} :
      worker.phase = .resolving unit lookup →
      lookup.move? view task unit.room desk.pool = some (pool, progress) →
      Goes view task desk worker none { desk with pool := pool } (worker.afterLookup unit progress)
  | findsOpen {unit : OutboundUnit} {channel : ChannelId} :
      worker.phase = .checking unit channel →
      view.isOpen channel = true →
      Goes view task desk worker none desk (worker.goTo (.registering unit channel))
  | findsClosed {unit : OutboundUnit} {channel : ChannelId} :
      worker.phase = .checking unit channel →
      view.isOpen channel = false →
      Goes view task desk worker none desk (worker.goTo (.reopening unit channel .asking))
  | reopens {unit : OutboundUnit} {channel : ChannelId} {reopening : Reopening} {pool : Pool}
      {progress : Progress Reopening Reopening.Result} :
      worker.phase = .reopening unit channel reopening →
      reopening.move? view task channel desk.pool = some (pool, progress) →
      Goes view task desk worker none { desk with pool := pool }
        (worker.afterReopening unit channel progress)
  | enters {unit : OutboundUnit} {channel : ChannelId} :
      worker.phase = .registering unit channel →
      Goes view task desk worker none { desk with ledger := desk.ledger.onSend view.now unit }
        (worker.goTo (.sending unit channel))
  | withdraws {unit : OutboundUnit} {entry : InFlight} :
      worker.phase = .withdrawing unit →
      desk.ledger.correlator.entry? unit.seq = some entry →
      Goes view task desk worker none { desk with ledger := (desk.ledger.withdraw unit.seq).2 }
        (worker.goTo (.failing unit))
  | findsAcknowledged {unit : OutboundUnit} :
      worker.phase = .withdrawing unit →
      desk.ledger.correlator.entry? unit.seq = none →
      Goes view task desk worker none desk worker.deliver
  | rests {unit : OutboundUnit} :
      worker.phase = .failing unit →
      unit.nextAttempt.attempt < worker.policy.maxAttempts →
      Goes view task desk worker none desk (worker.goTo (.resting unit.nextAttempt))
  | hasFailed {unit : OutboundUnit} :
      worker.phase = .failing unit →
      worker.policy.maxAttempts ≤ unit.nextAttempt.attempt →
      Goes view task desk worker none { desk with ledger := desk.ledger.countFailure }
        { worker with report.abandoned := worker.report.abandoned + 1, phase := .ready }
  | isInterrupted {unit : OutboundUnit} :
      worker.phase = .resting unit →
      desk.shutdown = true →
      Goes view task desk worker none
        { desk with
          ledger := desk.ledger.countFailure
          queue := desk.queue.dropReceiver }
        { worker with
          report.abandoned := worker.report.abandoned + 1
          report.interrupted := true
          phase := .finished }
  | looksOn {unit : OutboundUnit} {lookup : Lookup} {call : Call} {answer : Answer} :
      worker.phase = .resolving unit lookup →
      lookup.call? unit.room = some call →
      call.Returns answer →
      Goes view task desk worker (some answer)
        { desk with pool := (lookup.resume unit.room desk.pool answer).1 }
        (worker.afterLookup unit (lookup.resume unit.room desk.pool answer).2)
  | reopensOn {unit : OutboundUnit} {channel : ChannelId} {reopening : Reopening} {call : Call}
      {answer : Answer} :
      worker.phase = .reopening unit channel reopening →
      reopening.call? channel = some call →
      call.Returns answer →
      Goes view task desk worker (some answer)
        { desk with pool := (reopening.resume desk.pool answer).1 }
        (worker.afterReopening unit channel (reopening.resume desk.pool answer).2)
  | sends {unit : OutboundUnit} {channel : ChannelId} :
      worker.phase = .sending unit channel →
      Goes view task desk worker (some .done) desk worker.deliver
  | fails {unit : OutboundUnit} {channel : ChannelId} {fault : Fault} :
      worker.phase = .sending unit channel →
      Goes view task desk worker (some (.failed fault)) desk (worker.goTo (.withdrawing unit))
  | wakes {unit : OutboundUnit} :
      worker.phase = .resting unit →
      Goes view task desk worker (some .done) desk (worker.goTo (.trying unit))

@[simp]
theorem policy_afterLookup (worker : Worker) (unit : OutboundUnit)
    (progress : Progress Lookup Lookup.Result) :
    (worker.afterLookup unit progress).policy = worker.policy := by
  rcases progress with lookup | (fault | channel) <;> rfl

@[simp]
theorem policy_afterReopening (worker : Worker) (unit : OutboundUnit) (channel : ChannelId)
    (progress : Progress Reopening Reopening.Result) :
    (worker.afterReopening unit channel progress).policy = worker.policy := by
  rcases progress with reopening | (fault | ⟨⟩) <;> rfl

variable {view : View} {task : TaskId} {desk : Desk} {worker : Worker}

theorem Goes.policy_eq {answer : Option Answer} {later : Desk} {next : Worker}
    (goes : Goes view task desk worker answer later next) : next.policy = worker.policy := by
  cases goes <;> simp [goTo, deliver]

theorem Goes.answer_eq_none {answer : Option Answer} {later : Desk} {next : Worker}
    (goes : Goes view task desk worker answer later next) (ready : worker.phase = .ready) :
    answer = none := by
  cases goes with
  | looksOn phase | reopensOn phase | sends phase | fails phase | wakes phase =>
      rw [ready] at phase
      contradiction
  | _ => rfl

private theorem goes_of_mem_receive {after : Desk × Worker}
    (receiving : worker.phase = .receiving) (member : after ∈ worker.receive desk) :
    Goes view task desk worker none after.1 after.2 := by
  have ofTaken : ∀ taken : List (Desk × Worker),
      (∀ other ∈ taken, Goes view task desk worker none other.1 other.2) →
      after ∈ (if desk.shutdown then taken ++ [worker.stop desk] else taken) →
      Goes view task desk worker none after.1 after.2 := by
    intro taken allGo inMoves
    split at inMoves
    case isTrue shutdown =>
      rcases List.mem_append.mp inMoves with first | second
      · exact allGo after first
      · cases List.mem_singleton.mp second
        exact .stops (.inr receiving) shutdown
    case isFalse => exact allGo after inMoves
  refine ofTaken _ ?_ member
  intro other inTaken
  split at inTaken
  case h_1 unit queue taken =>
    cases List.mem_singleton.mp inTaken
    exact .takes receiving taken
  case h_2 queue taken =>
    cases List.mem_singleton.mp inTaken
    exact .endsAtStop receiving taken
  case h_3 taken =>
    cases List.mem_singleton.mp inTaken
    exact .endsAtHangUp receiving taken
  case h_4 => contradiction

theorem goes_of_mem_moves {after : Desk × Worker} (member : after ∈ worker.moves view task desk) :
    Goes view task desk worker none after.1 after.2 := by
  unfold moves at member
  split at member
  case h_1 ready =>
    split at member
    case isTrue shutdown =>
      cases List.mem_singleton.mp member
      exact .stops (.inl ready) shutdown
    case isFalse calm =>
      cases List.mem_singleton.mp member
      exact .asks ready (Bool.eq_false_iff.mpr calm)
  case h_2 receiving => exact goes_of_mem_receive receiving member
  case h_3 unit trying =>
    split at member
    case isTrue left =>
      cases List.mem_singleton.mp member
      exact .tries trying left
    case isFalse none =>
      cases List.mem_singleton.mp member
      exact .hasTried trying (Nat.le_of_not_lt none)
  case h_4 unit lookup resolving =>
    split at member
    case h_1 pool progress moved =>
      cases List.mem_singleton.mp member
      exact .looks resolving moved
    case h_2 => contradiction
  case h_5 unit channel checking =>
    split at member
    case isTrue isOpen =>
      cases List.mem_singleton.mp member
      exact .findsOpen checking isOpen
    case isFalse closed =>
      cases List.mem_singleton.mp member
      exact .findsClosed checking (Bool.eq_false_iff.mpr closed)
  case h_6 unit channel reopening reopens =>
    split at member
    case h_1 pool progress moved =>
      cases List.mem_singleton.mp member
      exact .reopens reopens moved
    case h_2 => contradiction
  case h_7 unit channel registering =>
    cases List.mem_singleton.mp member
    exact .enters registering
  case h_8 => contradiction
  case h_9 unit withdrawing =>
    rw [List.mem_singleton] at member
    subst member
    cases found : desk.ledger.correlator.entry? unit.seq with
    | none =>
        have unchanged : desk.ledger.withdraw unit.seq = (false, desk.ledger) := by
          simp [Ledger.withdraw, Correlator.withdraw, found]
        rw [unchanged]
        exact .findsAcknowledged withdrawing found
    | some entry =>
        have existed : (desk.ledger.withdraw unit.seq).1 = true := by
          simp [Ledger.withdraw, Correlator.withdraw, found]
        simp only [existed, if_true]
        exact .withdraws withdrawing found
  case h_10 unit failing =>
    dsimp only at member
    split at member
    case isTrue left =>
      cases List.mem_singleton.mp member
      exact .rests failing left
    case isFalse none =>
      cases List.mem_singleton.mp member
      exact .hasFailed failing (Nat.le_of_not_lt none)
  case h_11 unit resting =>
    split at member
    case isTrue shutdown =>
      cases List.mem_singleton.mp member
      exact .isInterrupted resting shutdown
    case isFalse => contradiction
  case h_12 => contradiction
  case h_13 => contradiction

theorem goes_resume {call : Call} {answer : Answer} (waits : worker.call? = some call)
    (returns : call.Returns answer) :
    Goes view task desk worker (some answer) (worker.resume task desk answer).1
      (worker.resume task desk answer).2 := by
  unfold call? at waits
  split at waits
  case h_1 unit lookup resolving =>
    have resumed : worker.resume task desk answer =
        ({ desk with pool := (lookup.resume unit.room desk.pool answer).1 },
          worker.afterLookup unit (lookup.resume unit.room desk.pool answer).2) := by
      cases returns <;> simp only [resume, resolving]
    rw [resumed]
    exact .looksOn resolving waits returns
  case h_2 unit channel reopening reopens =>
    have resumed : worker.resume task desk answer =
        ({ desk with pool := (reopening.resume desk.pool answer).1 },
          worker.afterReopening unit channel (reopening.resume desk.pool answer).2) := by
      cases returns <;> simp only [resume, reopens]
    rw [resumed]
    exact .reopensOn reopens waits returns
  case h_3 unit channel sending =>
    cases waits
    cases returns with
    | sent =>
        simp only [resume, sending]
        exact .sends sending
    | unsent =>
        simp only [resume, sending]
        exact .fails sending
  case h_4 unit resting =>
    cases waits
    cases returns
    simp only [resume, resting]
    exact .wakes resting
  case h_5 => contradiction

end Worker

end RoomLoad
