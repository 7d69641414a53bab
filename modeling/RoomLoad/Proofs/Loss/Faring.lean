import RoomLoad.Proofs.Delivery.Effort
import RoomLoad.Proofs.Loss.Service

/-!
# How a worker fares before a service that loses connections

A worker whose unit is in its first try, and whose channel is open when it is about to send,
stays so with every step, as long as it sees its channel as it is and is answered as the
service answers.
-/

namespace RoomLoad

namespace Lookup

variable {lookup : Lookup} {view : View} {task : TaskId} {room : RoomId} {pool later : Pool}
  {result : Result} {progress : Progress Lookup Result}

theorem ok_of_move? (moved : lookup.move? view task room pool = some (later, .ended result)) :
    ∃ channel, result = .ok channel := by
  cases lookup with
  | looking | rechecking =>
      rw [move?] at moved
      split at moved
      case h_1 channel _ =>
        cases moved
        exact ⟨channel, rfl⟩
      case h_2 => cases moved
  | waiting =>
      rw [move?] at moved
      split at moved <;> cases moved
  | asking | connecting | closing => cases moved

theorem ok_of_resume {call : Call} {answer : Answer} {stubs : Stubs} {now : Timestamp}
    (waits : lookup.call? room = some call) (replied : stubs.replies now call answer = true)
    (ended : (lookup.resume room pool answer).2 = .ended result) :
    ∃ channel, result = .ok channel := by
  cases lookup with
  | connecting =>
      cases waits
      cases answer with
      | connected fresh =>
          rw [resume, install] at ended
          split at ended
          case h_1 =>
            split at ended
            case isTrue =>
              cases ended
              exact ⟨fresh, rfl⟩
            case isFalse => cases ended
          case h_2 =>
            cases ended
            exact ⟨fresh, rfl⟩
      | _ => contradiction
  | closing fresh stale =>
      cases ended
      exact ⟨fresh, rfl⟩
  | _ => contradiction

end Lookup

namespace WorkerPhase

/-- The unit that a worker has begun to try and not let go of. -/
def tried? : WorkerPhase → Option SeqId
  | trying _ => none
  | phase => phase.seq?

/-- The unit that a worker has entered and not let go of. -/
def entered? (phase : WorkerPhase) : Option SeqId :=
  if phase.isEntered then phase.seq? else none

/-- Nothing has failed so far: a unit in hand is in its first try, and the channel that it
is about to be sent on is open. -/
def Fares (stubs : Stubs) : WorkerPhase → Prop
  | trying unit => unit.attempt = 0
  | resolving unit _ => unit.attempt = 0
  | checking unit _ => unit.attempt = 0
  | reopening unit _ _ => unit.attempt = 0
  | registering unit channel => unit.attempt = 0 ∧ (stubs channel).state.isOpen = true
  | sending unit channel => unit.attempt = 0 ∧ (stubs channel).state.isOpen = true
  | withdrawing _ => False
  | failing _ => False
  | resting _ => False
  | crashed => False
  | _ => True

/-- How many steps a worker takes at most until it has sent the unit in hand, or the next one
if it has none. -/
def load : WorkerPhase → Nat
  | ready => 19
  | phase => phase.stepsLeft true

/-- What happens to channels while a worker waits is no concern of it. -/
theorem Fares.of_yields {stubs others : Stubs} {phase : WorkerPhase} (fares : phase.Fares stubs)
    (yields : phase.yields = true) : phase.Fares others := by
  cases phase <;> first | exact fares | contradiction

end WorkerPhase

namespace Worker

variable {view : View} {task : TaskId} {desk later : Desk} {worker next : Worker}
  {answer : Option Answer} {stubs : Stubs} {now : Timestamp}

private theorem fares_of_lookup {unit : OutboundUnit} {others : Stubs}
    {progress : Progress Lookup Lookup.Result} (first : unit.attempt = 0)
    (succeeds : ∀ result, progress = .ended result → ∃ channel, result = .ok channel) :
    (worker.afterLookup unit progress).phase.Fares others := by
  cases progress with
  | going lookup => exact first
  | ended result =>
      obtain ⟨channel, rfl⟩ := succeeds result rfl
      exact first

private theorem fares_of_reopens {unit : OutboundUnit} {channel : ChannelId} {pool : Pool}
    {reopening : Reopening} {progress : Progress Reopening Reopening.Result}
    (first : unit.attempt = 0)
    (moved : reopening.move? view task channel desk.pool = some (pool, progress))
    (seen : reopening = .checking → view.isOpen channel = (stubs channel).state.isOpen) :
    (worker.afterReopening unit channel progress).phase.Fares
      (Crew.afterWorker stubs now none worker (worker.afterReopening unit channel progress)) := by
  cases reopening with
  | checking =>
      rw [Reopening.move?] at moved
      split at moved
      case isTrue isOpen =>
        cases moved
        exact ⟨first, (seen rfl).symm.trans isOpen⟩
      case isFalse =>
        cases moved
        exact first
  | asking =>
      cases moved
      exact first
  | waiting =>
      rw [Reopening.move?] at moved
      split at moved <;> cases moved
      exact first
  | reconnecting => contradiction

private theorem fares_of_reopensOn {unit : OutboundUnit} {channel : ChannelId}
    {reopening : Reopening} {call : Call} {given : Answer} (first : unit.attempt = 0)
    (reopens : worker.phase = .reopening unit channel reopening)
    (waits : reopening.call? channel = some call)
    (replied : stubs.replies now call given = true) :
    (worker.afterReopening unit channel (reopening.resume desk.pool given).2).phase.Fares
      (Crew.afterWorker stubs now (some given) worker
        (worker.afterReopening unit channel (reopening.resume desk.pool given).2)) := by
  cases reopening with
  | reconnecting =>
      cases waits
      cases given with
      | done =>
          refine ⟨first, ?_⟩
          have calls : worker.call? = some (.reconnect channel) := by
            rw [call?, reopens]
            rfl
          rw [Crew.afterWorker, calls, Option.elim_some, Stubs.endCall, Stubs.change, if_pos rfl]
          rfl
      | _ => contradiction
  | _ => contradiction

/-- Nothing fails as long as every worker sees the channels as they are and the service
answers as it does. -/
theorem Goes.fares (goes : Goes view task desk worker answer later next)
    (fares : worker.phase.Fares stubs) (delivers : ∀ channel, (stubs channel).script.Delivers)
    (fresh : ∀ unit, .unit unit ∈ desk.queue.items → unit.attempt = 0)
    (tries : 1 ≤ worker.policy.maxAttempts)
    (seen : answer = none → ∀ channel, worker.phase.looksAt? desk.pool = some channel →
      view.isOpen channel = (stubs channel).state.isOpen)
    (replied : ∀ given call, answer = some given → worker.call? = some call →
      stubs.replies now call given = true) :
    next.phase.Fares (Crew.afterWorker stubs now answer worker next) := by
  cases goes with
  | asks | endsAtStop | endsAtHangUp | stops | sends => exact True.intro
  | @takes unit queue receiving taken =>
      apply fresh
      rw [UnitQueue.items_of_take taken]
      exact List.mem_cons_self
  | tries here | findsClosed here =>
      rw [here] at fares
      exact fares
  | hasTried here none =>
      rw [here] at fares
      have first : _ = 0 := fares
      omega
  | looks here moved =>
      rw [here] at fares
      apply fares_of_lookup fares
      rintro result rfl
      exact Lookup.ok_of_move? moved
  | looksOn here waits =>
      have calls := waits
      rw [here] at fares
      apply fares_of_lookup fares
      intro result ended
      exact Lookup.ok_of_resume waits (replied _ _ rfl (by rw [call?, here]; exact calls)) ended
  | findsOpen here isOpen =>
      rw [here] at fares
      exact ⟨fares, (seen rfl _ (by rw [here]; rfl)).symm.trans isOpen⟩
  | reopens here moved =>
      rw [here] at fares
      apply fares_of_reopens fares moved
      rintro rfl
      exact seen rfl _ (by rw [here]; rfl)
  | reopensOn here waits =>
      have calls := waits
      rw [here] at fares
      exact fares_of_reopensOn fares here waits
        (replied _ _ rfl (by rw [call?, here]; exact calls))
  | enters here =>
      rw [here] at fares
      exact fares
  | @fails unit channel fault here =>
      rw [here] at fares
      have calls : worker.call? = some (.send channel unit.wireText) := by
        rw [call?, here]
      have succeeds := Stubs.eq_done_of_replies (delivers channel) fares.2
        (replied _ _ rfl calls)
      contradiction
  | withdraws here | findsAcknowledged here | rests here | hasFailed here | isInterrupted here
  | wakes here =>
      rw [here] at fares
      exact fares.elim

/-- What a step of a worker comes to that has every unit sent on its first try. -/
structure Carries (desk : Desk) (worker : Worker) (later : Desk) (next : Worker) : Prop where
  taken : worker.phase.seq?.toList ++
      (Sight.taken desk worker later next).toList.filterMap Envelope.seq? =
    (Sight.sent desk worker later next).toList ++ next.phase.seq?.toList
  tried : worker.phase.tried?.toList ++ (Sight.tried desk worker later next).toList =
    (Sight.sent desk worker later next).toList ++ next.phase.tried?.toList
  transmitted : worker.phase.entered?.toList ++
      (Sight.transmitted desk worker later next).toList =
    (Sight.sent desk worker later next).toList ++ next.phase.entered?.toList
  abandoned : next.report.abandoned = worker.report.abandoned
  failures : later.ledger.metrics.failure = desk.ledger.metrics.failure

private theorem carries_of_lookup {unit : OutboundUnit} {lookup : Lookup} {pool : Pool}
    {progress : Progress Lookup Lookup.Result}
    (resolving : worker.phase = .resolving unit lookup) :
    Carries desk worker { desk with pool := pool } (worker.afterLookup unit progress) := by
  rcases progress with going | (fault | channel) <;> constructor <;>
    simp [Sight.taken, Sight.tried, Sight.transmitted, Sight.sent, WorkerPhase.tried?,
      WorkerPhase.entered?, WorkerPhase.isEntered, WorkerPhase.seq?, afterLookup, resolving]

private theorem carries_of_reopening {unit : OutboundUnit} {channel : ChannelId}
    {reopening : Reopening} {pool : Pool} {progress : Progress Reopening Reopening.Result}
    (reopens : worker.phase = .reopening unit channel reopening) :
    Carries desk worker { desk with pool := pool }
      (worker.afterReopening unit channel progress) := by
  rcases progress with going | (fault | ⟨⟩) <;> constructor <;>
    simp [Sight.taken, Sight.tried, Sight.transmitted, Sight.sent, WorkerPhase.tried?,
      WorkerPhase.entered?, WorkerPhase.isEntered, WorkerPhase.seq?, afterReopening, reopens]

theorem Goes.carries (goes : Goes view task desk worker answer later next)
    (fares : worker.phase.Fares stubs) (tries : 1 ≤ worker.policy.maxAttempts) :
    Carries desk worker later next := by
  cases goes with
  | looks here | looksOn here => exact carries_of_lookup here
  | reopens here | reopensOn here => exact carries_of_reopening here
  | hasTried here none =>
      rw [here] at fares
      have first : _ = 0 := fares
      omega
  | withdraws here | findsAcknowledged here | rests here | hasFailed here | isInterrupted here
  | wakes here =>
      rw [here] at fares
      exact fares.elim
  | takes here taken | endsAtStop here taken =>
      have shorter := UnitQueue.items_of_take taken
      constructor <;>
        simp [Sight.taken, Sight.tried, Sight.transmitted, Sight.sent, WorkerPhase.tried?,
          WorkerPhase.entered?, here, shorter]
  | stops idle =>
      rcases idle with here | here <;> constructor <;>
        simp [Sight.taken, Sight.tried, Sight.transmitted, Sight.sent, WorkerPhase.tried?,
          WorkerPhase.entered?, here]
  | asks here | endsAtHangUp here | tries here | findsOpen here | findsClosed here
  | enters here | sends here | fails here =>
      constructor <;>
        simp [Sight.taken, Sight.tried, Sight.transmitted, Sight.sent, WorkerPhase.tried?,
          WorkerPhase.entered?, WorkerPhase.isEntered, WorkerPhase.seq?, deliver,
          Ledger.onSend, here]

theorem afterLookup_ne_ready {unit : OutboundUnit} (progress : Progress Lookup Lookup.Result) :
    (worker.afterLookup unit progress).phase ≠ .ready := by
  rcases progress with going | (fault | channel) <;> exact WorkerPhase.noConfusion

theorem afterReopening_ne_ready {unit : OutboundUnit} {channel : ChannelId}
    (progress : Progress Reopening Reopening.Result) :
    (worker.afterReopening unit channel progress).phase ≠ .ready := by
  rcases progress with going | (fault | ⟨⟩) <;> exact WorkerPhase.noConfusion

theorem load_of_ne_ready {phase : WorkerPhase} (busy : phase ≠ .ready) :
    phase.load = phase.stepsLeft true := by
  cases phase <;> first | rfl | exact absurd rfl busy

/-- Every step brings a worker nearer to the end of a send. -/
theorem Goes.load_lt (goes : Goes view task desk worker answer later next)
    (fares : worker.phase.Fares stubs) (calm : desk.shutdown = false)
    (tries : 1 ≤ worker.policy.maxAttempts) :
    next.phase.load <
      worker.phase.load + 18 * (Sight.sent desk worker later next).toList.length := by
  -- a worker that is ready has the next unit before it, all others have less left with each step
  have less : worker.phase ≠ .ready →
      next.phase.stepsLeft true < worker.phase.stepsLeft true := by
    intro busy
    have dwindles : Dwindles true desk worker later next := by
      apply goes.dwindles
      · exact fun ready => absurd ready busy
      · intro unit _ resting
        rw [resting] at fares
        exact fares.elim
    exact dwindles.steps
  have onTheWay : worker.phase ≠ .ready → next.phase ≠ .ready → next.phase.load <
      worker.phase.load + 18 * (Sight.sent desk worker later next).toList.length := by
    intro busy stays
    rw [load_of_ne_ready busy, load_of_ne_ready stays]
    exact Nat.lt_add_right _ (less busy)
  cases goes with
  | asks here => simp [WorkerPhase.load, WorkerPhase.stepsLeft, Sight.sent, here]
  | stops idle shutdown =>
      rw [calm] at shutdown
      contradiction
  | sends here => simp [WorkerPhase.load, WorkerPhase.stepsLeft, Sight.sent, deliver, here]
  | hasTried here none =>
      rw [here] at fares
      have first : _ = 0 := fares
      omega
  | withdraws here | findsAcknowledged here | rests here | hasFailed here | isInterrupted here
  | wakes here =>
      rw [here] at fares
      exact fares.elim
  | looks here | looksOn here =>
      apply onTheWay
      · simp [here]
      · exact afterLookup_ne_ready _
  | reopens here | reopensOn here =>
      apply onTheWay
      · simp [here]
      · exact afterReopening_ne_ready _
  | takes here | endsAtStop here | endsAtHangUp here | tries here | findsOpen here
  | findsClosed here | enters here | fails here =>
      apply onTheWay
      · simp [here]
      · simp

end Worker

end RoomLoad
