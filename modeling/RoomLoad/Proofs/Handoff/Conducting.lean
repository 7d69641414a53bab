import RoomLoad.Proofs.Delivery.Moves
import RoomLoad.Run.MainPhase

/-!
# The steps of a conductor

`Conductor.Goes` lists everything that a conductor can do in one step, each with what it
looks at and what it changes.
-/

namespace RoomLoad

namespace Conductor

/-- What one step of a conductor can be, by the answer that it brings. -/
inductive Goes (view : View) (task : TaskId) (state : RunState) (phase : ConductorPhase) :
    Option Answer → RunState → ConductorPhase → Prop where
  | refuses {fault : Fault} :
      phase = .starting →
      state.config.validate = .error fault →
      Goes view task state phase none state (.finished (.error fault))
  | begins :
      phase = .starting →
      state.config.validate = .ok () →
      Goes view task state phase none state
        (.prewarming state.config.rooms.low.toNat .looking)
  | looks {room : Nat} {lookup : Lookup} {pool : Pool}
      {progress : Progress Lookup Lookup.Result} :
      phase = .prewarming room lookup →
      lookup.move? view task (UInt32.ofNat room) state.desk.pool = some (pool, progress) →
      Goes view task state phase none (state.withPool pool)
        (afterLookup state.config room progress)
  | hasNoPlan {fault : Fault} :
      phase = .launching →
      state.config.generatorPlan = .error fault →
      Goes view task state phase none state (.finished (.error fault))
  | launches {plan : GeneratorPlan} :
      phase = .launching →
      state.config.generatorPlan = .ok plan →
      Goes view task state phase none
        { state.changeMetrics (fun metrics => metrics.start view.now) with launched := true }
        .awaiting
  | collects {deadline : Instant} :
      phase = .awaiting →
      state.generated.isSome = true →
      state.config.senderWorkers ≤ state.ended →
      deadline? view.now state.config.drainTimeout = some deadline →
      Goes view task state phase none state (.draining deadline)
  | falls :
      phase = .awaiting →
      state.generated.isSome = true →
      state.config.senderWorkers ≤ state.ended →
      deadline? view.now state.config.drainTimeout = none →
      Goes view task state phase none state .crashed
  | isDrained {deadline : Instant} :
      phase = .draining deadline →
      state.inflight = 0 ∨ state.desk.shutdown = true →
      Goes view task state phase none state (.clearing false)
  | timesOut {deadline : Instant} :
      phase = .draining deadline →
      state.inflight ≠ 0 →
      state.desk.shutdown = false →
      deadline ≤ view.now →
      Goes view task state phase none state (.clearing true)
  | pauses {deadline : Instant} :
      phase = .draining deadline →
      state.inflight ≠ 0 →
      state.desk.shutdown = false →
      view.now < deadline →
      Goes view task state phase none state (.pausing deadline state.config.drainPollInterval)
  | clears {timedOut : Bool} :
      phase = .clearing timedOut →
      Goes view task state phase none (state.withPool state.desk.pool.clear)
        (.closing (state.desk.pool.channels.map Prod.snd) timedOut)
  | looksOn {room : Nat} {lookup : Lookup} {call : Call} {answer : Answer} :
      phase = .prewarming room lookup →
      lookup.call? (UInt32.ofNat room) = some call →
      call.Returns answer →
      Goes view task state phase (some answer)
        (state.withPool (lookup.resume (UInt32.ofNat room) state.desk.pool answer).1)
        (afterLookup state.config room
          (lookup.resume (UInt32.ofNat room) state.desk.pool answer).2)
  | wakes {deadline : Instant} {interval : Duration} :
      phase = .pausing deadline interval →
      Goes view task state phase (some .done) state (.draining deadline)
  | finishes {channels : List ChannelId} {timedOut : Bool} {later : RunState} :
      phase = .closing channels timedOut →
      later = state.changeMetrics (fun metrics => metrics.stop view.now) →
      Goes view task state phase (some .done) later
        (.finished (.ok (later.summary (state.generated.getD ⟨0, true⟩) timedOut view.now)))

variable {view : View} {task : TaskId} {state later : RunState} {phase next : ConductorPhase}

private theorem goes_of_draining {deadline : Instant}
    (member : (later, next) ∈ moves view task state (.draining deadline)) :
    Goes view task state (.draining deadline) none later next := by
  unfold moves at member
  dsimp only at member
  split at member
  case isTrue drained =>
    cases List.mem_singleton.mp member
    exact .isDrained rfl (by simpa using drained)
  case isFalse left =>
    simp only [Bool.or_eq_true, decide_eq_true_eq, not_or, Bool.not_eq_true] at left
    obtain ⟨inflight, calm⟩ := left
    split at member
    case isTrue late =>
      cases List.mem_singleton.mp member
      exact .timesOut rfl inflight calm late
    case isFalse early =>
      cases List.mem_singleton.mp member
      exact .pauses rfl inflight calm (Nat.lt_of_not_le early)

theorem goes_of_mem_moves (member : (later, next) ∈ moves view task state phase) :
    Goes view task state phase none later next := by
  cases phase with
  | starting =>
      unfold moves at member
      dsimp only at member
      split at member
      case h_1 fault invalid =>
        cases List.mem_singleton.mp member
        exact .refuses rfl invalid
      case h_2 valid =>
        cases List.mem_singleton.mp member
        exact .begins rfl valid
  | prewarming room lookup =>
      unfold moves at member
      dsimp only at member
      split at member
      case h_1 pool progress moved =>
        cases List.mem_singleton.mp member
        exact .looks rfl moved
      case h_2 => contradiction
  | launching =>
      unfold moves at member
      dsimp only at member
      split at member
      case h_1 fault unplanned =>
        cases List.mem_singleton.mp member
        exact .hasNoPlan rfl unplanned
      case h_2 plan planned =>
        cases List.mem_singleton.mp member
        exact .launches rfl planned
  | awaiting =>
      unfold moves at member
      dsimp only at member
      split at member
      case isTrue done =>
        simp only [Bool.and_eq_true, decide_eq_true_eq] at done
        split at member
        case h_1 deadline named =>
          cases List.mem_singleton.mp member
          exact .collects rfl done.1 done.2 named
        case h_2 unnamed =>
          cases List.mem_singleton.mp member
          exact .falls rfl done.1 done.2 unnamed
      case isFalse => contradiction
  | draining deadline => exact goes_of_draining member
  | clearing timedOut =>
      cases List.mem_singleton.mp member
      exact .clears rfl
  | pausing deadline interval => contradiction
  | closing channels timedOut => contradiction
  | finished result => contradiction
  | crashed => contradiction

theorem goes_resume {call : Call} {answer : Answer} (waits : call? phase = some call)
    (returns : call.Returns answer) :
    Goes view task state phase (some answer) (resume view task state phase answer).1
      (resume view task state phase answer).2 := by
  unfold call? at waits
  split at waits
  case h_1 room lookup =>
    have resumed : resume view task state (.prewarming room lookup) answer =
        (state.withPool (lookup.resume (UInt32.ofNat room) state.desk.pool answer).1,
          afterLookup state.config room
            (lookup.resume (UInt32.ofNat room) state.desk.pool answer).2) := by
      cases returns <;> rfl
    rw [resumed]
    exact .looksOn rfl waits returns
  case h_2 deadline interval =>
    cases waits
    cases returns
    exact .wakes rfl
  case h_3 channels timedOut =>
    cases waits
    cases returns
    exact .finishes rfl rfl
  case h_4 => contradiction

end Conductor

end RoomLoad
