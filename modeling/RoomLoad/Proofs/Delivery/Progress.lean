import RoomLoad.Proofs.Delivery.Moves

/-!
# What a step of a worker comes to

Between taking a unit and disposing of it a worker has the unit in hand.  From the
moment at which it enters the unit as in flight until the send is over, the unit counts
as entered; before and after it does not.  `Worker.Advances` says everything that one
step comes to for this, for the ledger and for the queue; what happens on the way to an open
channel is all alike.
-/

namespace RoomLoad

namespace WorkerPhase

def seq? : WorkerPhase → Option SeqId
  | ready => none
  | receiving => none
  | trying unit => some unit.seq
  | resolving unit _ => some unit.seq
  | checking unit _ => some unit.seq
  | reopening unit _ _ => some unit.seq
  | registering unit _ => some unit.seq
  | sending unit _ => some unit.seq
  | withdrawing unit => some unit.seq
  | failing unit => some unit.seq
  | resting unit => some unit.seq
  | finished => none
  | crashed => none

/-- Whether the unit in hand is entered as in flight, or was acknowledged since. -/
def isEntered : WorkerPhase → Bool
  | sending _ _ => true
  | withdrawing _ => true
  | _ => false

def isOver : WorkerPhase → Bool
  | finished => true
  | crashed => true
  | _ => false

variable {unit : OutboundUnit} {channel : ChannelId}

@[simp] theorem seq?_ready : seq? ready = none := rfl
@[simp] theorem seq?_receiving : seq? receiving = none := rfl
@[simp] theorem seq?_trying : seq? (trying unit) = some unit.seq := rfl
@[simp] theorem seq?_registering : seq? (registering unit channel) = some unit.seq := rfl
@[simp] theorem seq?_sending : seq? (sending unit channel) = some unit.seq := rfl
@[simp] theorem seq?_withdrawing : seq? (withdrawing unit) = some unit.seq := rfl
@[simp] theorem seq?_failing : seq? (failing unit) = some unit.seq := rfl
@[simp] theorem seq?_resting : seq? (resting unit) = some unit.seq := rfl
@[simp] theorem seq?_finished : seq? finished = none := rfl

@[simp] theorem isEntered_ready : isEntered ready = false := rfl
@[simp] theorem isEntered_receiving : isEntered receiving = false := rfl
@[simp] theorem isEntered_trying : isEntered (trying unit) = false := rfl
@[simp] theorem isEntered_registering : isEntered (registering unit channel) = false := rfl
@[simp] theorem isEntered_sending : isEntered (sending unit channel) = true := rfl
@[simp] theorem isEntered_withdrawing : isEntered (withdrawing unit) = true := rfl
@[simp] theorem isEntered_failing : isEntered (failing unit) = false := rfl
@[simp] theorem isEntered_resting : isEntered (resting unit) = false := rfl
@[simp] theorem isEntered_finished : isEntered finished = false := rfl

theorem seq?_of_isOver {phase : WorkerPhase} (finished : phase.isOver = true) :
    phase.seq? = none := by
  cases phase <;> first | rfl | contradiction

end WorkerPhase

namespace UnitQueue

variable {queue later : UnitQueue} {envelope : Envelope}

theorem frame_of_take (taken : queue.take = .item envelope later) :
    later.senders = queue.senders ∧ later.receivers = queue.receivers ∧
      later.capacity = queue.capacity := by
  unfold take at taken
  split at taken
  case h_1 =>
    cases taken
    exact ⟨rfl, rfl, rfl⟩
  case h_2 => split at taken <;> contradiction

end UnitQueue

namespace Worker

/-- What one step of a worker comes to, for itself and for the desk. -/
inductive Advances (now : Instant) (desk : Desk) (worker : Worker) : Desk → Worker → Prop where
  /-- It goes on with what it has in hand, and at most the pool changes. -/
  | goesOn {pool : Pool} {phase : WorkerPhase} :
      worker.phase.isOver = false →
      phase.isOver = false →
      phase.seq? = worker.phase.seq? →
      phase.isEntered = worker.phase.isEntered →
      Advances now desk worker { desk with pool := pool } (worker.goTo phase)
  | takes {unit : OutboundUnit} {queue : UnitQueue} :
      worker.phase = .receiving →
      desk.queue.take = .item (.unit unit) queue →
      Advances now desk worker { desk with queue := queue } (worker.goTo (.trying unit))
  | endsAtStop {queue : UnitQueue} :
      worker.phase = .receiving →
      desk.queue.take = .item .stop queue →
      Advances now desk worker { desk with queue := queue.dropReceiver } (worker.goTo .finished)
  | endsAtHangUp :
      worker.phase = .receiving →
      desk.queue.take = .disconnected →
      Advances now desk worker { desk with queue := desk.queue.dropReceiver }
        (worker.goTo .finished)
  | endsAtShutdown :
      worker.phase = .ready ∨ worker.phase = .receiving →
      desk.shutdown = true →
      Advances now desk worker { desk with queue := desk.queue.dropReceiver }
        { worker with report.interrupted := true, phase := .finished }
  | enters {unit : OutboundUnit} {channel : ChannelId} :
      worker.phase = .registering unit channel →
      Advances now desk worker { desk with ledger := desk.ledger.onSend now unit }
        (worker.goTo (.sending unit channel))
  | sends {unit : OutboundUnit} {channel : ChannelId} :
      worker.phase = .sending unit channel →
      Advances now desk worker desk worker.deliver
  | withdraws {unit : OutboundUnit} {entry : InFlight} :
      worker.phase = .withdrawing unit →
      desk.ledger.correlator.entry? unit.seq = some entry →
      Advances now desk worker { desk with ledger := (desk.ledger.withdraw unit.seq).2 }
        (worker.goTo (.failing unit))
  | findsAcknowledged {unit : OutboundUnit} :
      worker.phase = .withdrawing unit →
      desk.ledger.correlator.entry? unit.seq = none →
      Advances now desk worker desk worker.deliver
  | abandons {seq : SeqId} :
      worker.phase.seq? = some seq →
      worker.phase.isEntered = false →
      Advances now desk worker { desk with ledger := desk.ledger.countFailure }
        { worker with report.abandoned := worker.report.abandoned + 1, phase := .ready }
  | abandonsAtShutdown {unit : OutboundUnit} :
      worker.phase = .resting unit →
      desk.shutdown = true →
      Advances now desk worker
        { desk with
          ledger := desk.ledger.countFailure
          queue := desk.queue.dropReceiver }
        { worker with
          report.abandoned := worker.report.abandoned + 1
          report.interrupted := true
          phase := .finished }

@[simp]
theorem goTo_phase (worker : Worker) (phase : WorkerPhase) : (worker.goTo phase).phase = phase :=
  rfl

@[simp]
theorem goTo_report (worker : Worker) (phase : WorkerPhase) :
    (worker.goTo phase).report = worker.report :=
  rfl

variable {now : Instant} {desk : Desk} {worker : Worker}

private theorem advances_afterLookup {unit : OutboundUnit} {pool : Pool}
    (progress : Progress Lookup Lookup.Result)
    (atWork : worker.phase.isOver = false)
    (inHand : worker.phase.seq? = some unit.seq)
    (notEntered : worker.phase.isEntered = false) :
    Advances now desk worker { desk with pool := pool } (worker.afterLookup unit progress) := by
  rcases progress with lookup | (fault | channel)
  · exact .goesOn atWork rfl inHand.symm notEntered.symm
  · exact .goesOn atWork rfl inHand.symm notEntered.symm
  · exact .goesOn atWork rfl inHand.symm notEntered.symm

private theorem advances_afterReopening {unit : OutboundUnit} {channel : ChannelId} {pool : Pool}
    (progress : Progress Reopening Reopening.Result)
    (atWork : worker.phase.isOver = false)
    (inHand : worker.phase.seq? = some unit.seq)
    (notEntered : worker.phase.isEntered = false) :
    Advances now desk worker { desk with pool := pool }
      (worker.afterReopening unit channel progress) := by
  rcases progress with reopening | (fault | ⟨⟩)
  · exact .goesOn atWork rfl inHand.symm notEntered.symm
  · exact .goesOn atWork rfl inHand.symm notEntered.symm
  · exact .goesOn atWork rfl inHand.symm notEntered.symm

theorem Goes.advances {view : View} {task : TaskId} {answer : Option Answer} {later : Desk}
    {next : Worker} (goes : Goes view task desk worker answer later next) :
    Advances view.now desk worker later next := by
  cases goes with
  | asks ready =>
      exact .goesOn (by rw [ready]; rfl) rfl (by rw [ready]; rfl) (by rw [ready]; rfl)
  | stops idle shutdown => exact .endsAtShutdown idle shutdown
  | takes receiving taken => exact .takes receiving taken
  | endsAtStop receiving taken => exact .endsAtStop receiving taken
  | endsAtHangUp receiving ended => exact .endsAtHangUp receiving ended
  | tries trying =>
      exact .goesOn (by rw [trying]; rfl) rfl (by rw [trying]; rfl) (by rw [trying]; rfl)
  | hasTried trying => exact .abandons (by rw [trying]; rfl) (by rw [trying]; rfl)
  | looks resolving =>
      exact advances_afterLookup _ (by rw [resolving]; rfl) (by rw [resolving]; rfl)
        (by rw [resolving]; rfl)
  | findsOpen checking =>
      exact .goesOn (by rw [checking]; rfl) rfl (by rw [checking]; rfl) (by rw [checking]; rfl)
  | findsClosed checking =>
      exact .goesOn (by rw [checking]; rfl) rfl (by rw [checking]; rfl) (by rw [checking]; rfl)
  | reopens reopens =>
      exact advances_afterReopening _ (by rw [reopens]; rfl) (by rw [reopens]; rfl)
        (by rw [reopens]; rfl)
  | enters registering => exact .enters registering
  | withdraws withdrawing found => exact .withdraws withdrawing found
  | findsAcknowledged withdrawing found => exact .findsAcknowledged withdrawing found
  | rests failing =>
      exact .goesOn (by rw [failing]; rfl) rfl (by rw [failing]; rfl) (by rw [failing]; rfl)
  | hasFailed failing => exact .abandons (by rw [failing]; rfl) (by rw [failing]; rfl)
  | isInterrupted resting shutdown => exact .abandonsAtShutdown resting shutdown
  | looksOn resolving =>
      exact advances_afterLookup _ (by rw [resolving]; rfl) (by rw [resolving]; rfl)
        (by rw [resolving]; rfl)
  | reopensOn reopens =>
      exact advances_afterReopening _ (by rw [reopens]; rfl) (by rw [reopens]; rfl)
        (by rw [reopens]; rfl)
  | sends sending => exact .sends sending
  | fails sending =>
      exact .goesOn (by rw [sending]; rfl) rfl (by rw [sending]; rfl) (by rw [sending]; rfl)
  | wakes resting =>
      exact .goesOn (by rw [resting]; rfl) rfl (by rw [resting]; rfl) (by rw [resting]; rfl)

theorem advances_of_mem_moves {view : View} {task : TaskId} {after : Desk × Worker}
    (member : after ∈ worker.moves view task desk) :
    Advances view.now desk worker after.1 after.2 :=
  (goes_of_mem_moves member).advances

theorem advances_resume {task : TaskId} {call : Call} {answer : Answer}
    (waits : worker.call? = some call) (returns : call.Returns answer) :
    Advances now desk worker (worker.resume task desk answer).1
      (worker.resume task desk answer).2 := by
  have goes : Goes ⟨now, fun _ => false⟩ task desk worker (some answer)
      (worker.resume task desk answer).1 (worker.resume task desk answer).2 :=
    goes_resume waits returns
  exact goes.advances

namespace Advances

variable {later : Desk} {next : Worker}

theorem phase_ne_crashed (advances : Advances now desk worker later next) :
    next.phase ≠ .crashed := by
  cases advances with
  | goesOn _ atWork =>
      rintro crashed
      rw [goTo_phase] at crashed
      rw [crashed] at atWork
      contradiction
  | _ => exact WorkerPhase.noConfusion

theorem isOver_eq_false (advances : Advances now desk worker later next) :
    worker.phase.isOver = false := by
  cases advances with
  | goesOn atWork => exact atWork
  | takes receiving => rw [receiving]; rfl
  | endsAtStop receiving => rw [receiving]; rfl
  | endsAtHangUp receiving => rw [receiving]; rfl
  | endsAtShutdown idle =>
      rcases idle with ready | receiving
      · rw [ready]; rfl
      · rw [receiving]; rfl
  | enters registering => rw [registering]; rfl
  | sends sending => rw [sending]; rfl
  | withdraws withdrawing => rw [withdrawing]; rfl
  | findsAcknowledged withdrawing => rw [withdrawing]; rfl
  | abandons inHand =>
      cases phase : worker.phase <;> first | rfl | (rw [phase] at inHand; contradiction)
  | abandonsAtShutdown resting => rw [resting]; rfl

theorem shutdown_eq (advances : Advances now desk worker later next) :
    later.shutdown = desk.shutdown := by
  cases advances <;> rfl

theorem capacity_eq (advances : Advances now desk worker later next) :
    later.queue.capacity = desk.queue.capacity := by
  cases advances with
  | takes receiving taken => exact (UnitQueue.frame_of_take taken).2.2
  | endsAtStop receiving taken => exact (UnitQueue.frame_of_take taken).2.2
  | _ => rfl

theorem senders_eq (advances : Advances now desk worker later next) :
    later.queue.senders = desk.queue.senders := by
  cases advances with
  | takes receiving taken => exact (UnitQueue.frame_of_take taken).1
  | endsAtStop receiving taken => exact (UnitQueue.frame_of_take taken).1
  | _ => rfl

/-- A worker lets go of the queue when it comes to its end, and no earlier. -/
theorem receivers_eq (advances : Advances now desk worker later next) :
    later.queue.receivers =
      if next.phase.isOver then desk.queue.receivers - 1 else desk.queue.receivers := by
  cases advances with
  | goesOn _ atWork =>
      rw [goTo_phase, atWork]
      rfl
  | takes receiving taken => exact (UnitQueue.frame_of_take taken).2.1
  | endsAtStop receiving taken =>
      exact congrArg (· - 1) (UnitQueue.frame_of_take taken).2.1
  | _ => rfl

end Advances

end Worker

end RoomLoad
