import RoomLoad.Proofs.Correlation.History
import RoomLoad.Proofs.Delivery.Disposition
import RoomLoad.Proofs.Wire.RoundTrip

/-!
# Acknowledgements of withdrawn transmissions

A unit that is transmitted again has its old sequence id, and the wire text does not tell
its attempts apart.  The acknowledgement of a withdrawn transmission is therefore dropped
only as long as no retry of the unit awaits its own: otherwise it claims the entry of the
retry, and the record shows the time since the retry.
-/

namespace RoomLoad

theorem acknowledges_echo (unit : OutboundUnit) (answeredAt : Timestamp) :
    Acknowledges (AckFrame.echo unit.payload answeredAt).wireText unit.seq .ok := by
  rw [← Correlator.readAck?_eq_some_iff, Correlator.readAck?, AckFrame.parse?_wireText_echo,
    Option.bind_eq_bind, Option.bind_some, AckFrame.seq?_echo]
  have found : Tag.find? unit.payload.message = some unit.seq :=
    Tag.find?_attach unit.seq unit.text
  rw [found]
  rfl

section Histories

variable {history : List LedgerEvent} {seq : SeqId}

theorem awaits_or_leavesAlone (unclaimed : ∀ event ∈ history, ¬ event.Claims seq) :
    (∃ entry, Awaits history seq entry) ∨ ∀ event ∈ history, event.LeavesAlone seq := by
  induction history with
  | nil => exact .inr nofun
  | cons first rest induction =>
      have firstUnclaimed := unclaimed first List.mem_cons_self
      rcases induction fun event member => unclaimed event (List.mem_cons_of_mem first member)
        with ⟨entry, awaits⟩ | undisturbed
      · have later : Awaits ([first] ++ rest) seq entry := awaits_append.mpr (.inl awaits)
        exact .inl ⟨entry, later⟩
      · by_cases enters : ∃ entry, first.Enters seq entry
        · obtain ⟨entry, enters⟩ := enters
          exact .inl ⟨entry, [], first, rest, rfl, enters, undisturbed⟩
        · refine .inr ?_
          intro event member
          rcases List.mem_cons.mp member with rfl | inRest
          · exact ⟨firstUnclaimed, not_exists.mp enters⟩
          · exact undisturbed event inRest

theorem Logs.exists_record {records : List LatencyRecord} (logs : Logs history records)
    {event : LedgerEvent} (member : event ∈ history) {text : String} {status : AckStatus}
    {latency : Duration} (arrives : event.request = .frame text)
    (acknowledges : Acknowledges text seq status)
    (recorded : event.reply = .heard (.recorded latency)) :
    ∃ record ∈ records, record.seq = seq := by
  induction logs with
  | nothing => contradiction
  | @silent history records last logs unrecorded induction =>
      rcases List.mem_append.mp member with earlier | now
      · exact induction earlier
      · rw [List.mem_singleton] at now
        exact absurd (now ▸ recorded) (unrecorded latency)
  | record logs alsoAcknowledges awaits isLatency induction =>
      rcases List.mem_append.mp member with earlier | now
      · obtain ⟨record, logged, ofId⟩ := induction earlier
        exact ⟨record, List.mem_append_left _ logged, ofId⟩
      · rw [List.mem_singleton] at now
        subst now
        cases arrives
        exact ⟨_, List.mem_append_right _ List.mem_cons_self,
          acknowledges.seq_eq alsoAcknowledges⟩

end Histories

/-- An entry of an id is withdrawn in a part of a history. -/
def Withdrawn (history : List LedgerEvent) (seq : SeqId) : Prop :=
  ∃ event ∈ history, event.request = .withdraw seq ∧ event.reply = .withdrawn true

/-- An id that was entered, is no longer awaited and has no record was withdrawn. -/
theorem withdrawn_of_unclaimed {earlier between : List LedgerEvent} {sent : LedgerEvent}
    {seq : SeqId} {entry : InFlight} {records : List LatencyRecord}
    (enters : sent.Enters seq entry)
    (logs : Logs (earlier ++ sent :: between) records)
    (unrecorded : ∀ record ∈ records, record.seq ≠ seq)
    (unawaited : ∀ entry, ¬ Awaits (earlier ++ sent :: between) seq entry) :
    Withdrawn between seq := by
  by_cases claimed : ∃ event ∈ between, event.Claims seq
  · obtain ⟨event, member, withdrawal | ⟨text, status, latency, arrives, acknowledges, recorded⟩⟩ :=
      claimed
    · exact ⟨event, member, withdrawal⟩
    · obtain ⟨record, logged, ofId⟩ := logs.exists_record
        (List.mem_append_right earlier (List.mem_cons_of_mem sent member)) arrives acknowledges
        recorded
      exact absurd ofId (unrecorded record logged)
  · have unclaimed : ∀ event ∈ between, ¬ event.Claims seq := by
      intro event member claims
      exact claimed ⟨event, member, claims⟩
    rcases awaits_or_leavesAlone unclaimed with ⟨retry, awaits⟩ | undisturbed
    · have whole : Awaits (earlier ++ sent :: between) seq retry := by
        rw [List.append_cons, awaits_append]
        exact .inl awaits
      exact absurd whole (unawaited retry)
    · exact absurd ⟨earlier, sent, between, rfl, enters, undisturbed⟩ (unawaited entry)

namespace Worker

/-- What a step of a worker asks of the ledger. -/
def request? (worker next : Worker) : Option LedgerRequest :=
  match worker.phase, next.phase with
  | .registering unit _, .sending _ _ => some (.send unit)
  | .withdrawing unit, .failing _ => some (.withdraw unit.seq)
  | .withdrawing unit, .ready => some (.withdraw unit.seq)
  | _, _ => none

variable {now : Instant} {desk later : Desk} {worker next : Worker}

/-- What is asked of the ledger is all that a step does to it, and only failures are
counted beside it. -/
theorem Advances.asks (advances : Advances now desk worker later next) :
    (∃ request, worker.request? next = some request ∧
      later.ledger = (desk.ledger.handle now request).2) ∨
    worker.request? next = none ∧ later.ledger.correlator = desk.ledger.correlator ∧
      later.ledger.metrics.success = desk.ledger.metrics.success := by
  cases advances with
  | @goesOn pool phase _ _ sameUnit sameSide =>
      refine .inr ⟨?_, rfl, rfl⟩
      unfold request?
      split
      case h_1 registering sending =>
        simp only [goTo_phase] at sending
        simp [registering, sending] at sameSide
      case h_2 withdrawing failing =>
        simp only [goTo_phase] at failing
        simp [withdrawing, failing] at sameSide
      case h_3 withdrawing ready =>
        simp only [goTo_phase] at ready
        simp [withdrawing, ready] at sameUnit
      case h_4 => rfl
  | takes receiving => exact .inr ⟨by simp [request?, receiving], rfl, rfl⟩
  | endsAtStop receiving => exact .inr ⟨by simp [request?, receiving], rfl, rfl⟩
  | endsAtHangUp receiving => exact .inr ⟨by simp [request?, receiving], rfl, rfl⟩
  | endsAtShutdown idle =>
      rcases idle with ready | receiving
      · exact .inr ⟨by simp [request?, ready], rfl, rfl⟩
      · exact .inr ⟨by simp [request?, receiving], rfl, rfl⟩
  | enters registering => exact .inl ⟨.send _, by simp [request?, registering], rfl⟩
  | sends sending => exact .inr ⟨by simp [request?, sending], rfl, rfl⟩
  | withdraws withdrawing found =>
      exact .inl ⟨.withdraw _, by simp [request?, withdrawing], rfl⟩
  | @findsAcknowledged unit withdrawing missing =>
      refine .inl ⟨.withdraw unit.seq, by simp [request?, withdrawing, deliver], ?_⟩
      simp [Ledger.handle, Ledger.withdraw, Correlator.withdraw, missing]
  | abandons inHand notEntered =>
      refine .inr ⟨?_, rfl, rfl⟩
      unfold request?
      split
      case h_3 withdrawing _ =>
        rw [withdrawing] at notEntered
        contradiction
      case h_4 => rfl
      all_goals contradiction
  | abandonsAtShutdown resting => exact .inr ⟨by simp [request?, resting], rfl, rfl⟩

end Worker

namespace Crew

/-- What a step of a crew asks of the ledger. -/
def request? (transition : Transition Desk Worker) : Option LedgerRequest :=
  match transition.act with
  | .frame text => some (.frame text)
  | _ => (office.worked? transition).bind fun (_, worker, next) => worker.request? next

/-- What a step of a crew asks of the ledger, with the reply. -/
def event? (transition : Transition Desk Worker) : Option LedgerEvent :=
  (request? transition).map fun request =>
    ⟨transition.before.view.now, request,
      (transition.before.common.ledger.handle transition.before.view.now request).1⟩

/-- What a crew has asked of the ledger, with the replies, the first one in front. -/
def events (trace : List (Transition Desk Worker)) : List LedgerEvent :=
  trace.filterMap event?

variable {policies : List RetryPolicy} {queue : UnitQueue} {shutdown : Bool} {view : View}
  {trace : List (Transition Desk Worker)} {before after last : Situation Desk Worker}
  {act : Act Worker} {transition : Transition Desk Worker} {seq : SeqId}

theorem request?_of_put {id : TaskId} {worker : Worker} {next : Desk × Worker}
    (acts : act.task? = some id) (found : before.tasks[id]? = some worker) :
    request? ⟨before, act, before.put id next⟩ = worker.request? next.2 := by
  have works : office.worked? ⟨before, act, before.put id next⟩ = some (id, worker, next.2) :=
    worked_of_put acts found
  cases act with
  | move task => rw [request?, works, Option.bind_some]
  | answer task answer => rw [request?, works, Option.bind_some]
  | _ => contradiction

/-- The ledger comes out of a step as what is asked of it says; only failures and
reconnects are counted beside it. -/
theorem asks_of_step (step : crew.Step before act after)
    (allowed : rules trace ⟨before, act, after⟩) :
    (∃ request, request? ⟨before, act, after⟩ = some request ∧
      after.common.ledger = (before.common.ledger.handle before.view.now request).2) ∨
    request? ⟨before, act, after⟩ = none ∧
      after.common.ledger.correlator = before.common.ledger.correlator ∧
      after.common.ledger.metrics.success = before.common.ledger.metrics.success := by
  cases step with
  | move found member =>
      rw [request?_of_put rfl found]
      exact (Worker.advances_of_mem_moves member).asks
  | answer found waits returns =>
      rw [request?_of_put rfl found]
      exact (Worker.advances_resume waits returns).asks
  | frame text => exact .inl ⟨.frame text, rfl, rfl⟩
  | countReconnect => exact .inr ⟨rfl, rfl, rfl⟩
  | outside common =>
      have happened : Happens before.common _ common := allowed
      have sameLedger : common.ledger = before.common.ledger := by
        cases happened <;> rfl
      exact .inr ⟨rfl, by rw [sameLedger], by rw [sameLedger]⟩
  | shift view => exact .inr ⟨rfl, rfl, rfl⟩
  | begin task => exact allowed.elim

/-- The ledger of a crew is what the crew has asked of it. -/
theorem reflects_of_run
    (run : crew.Run rules (beginning policies queue shutdown view) trace last) :
    last.common.ledger.Reflects (events trace) := by
  induction run with
  | rest => exact Ledger.reflects_fresh
  | @step trace before after act run step allowed induction =>
      rcases asks_of_step step allowed with ⟨request, asked, later⟩ | ⟨silent, same, successes⟩
      · have grown : events (trace ++ [⟨before, act, after⟩]) = events trace ++
            [⟨before.view.now, request,
              (before.common.ledger.handle before.view.now request).1⟩] := by
          simp [events, event?, asked]
        rw [grown, later]
        exact induction.step (before.common.ledger.handles before.view.now request)
      · have grown : events (trace ++ [⟨before, act, after⟩]) = events trace := by
          simp [events, event?, silent]
        rw [grown]
        exact induction.congr same successes

theorem transmitted_of_request? {unit : OutboundUnit}
    (asks : request? transition = some (.send unit)) :
    ∃ id, office.deed? .transmitted transition = some (id, unit.seq) := by
  unfold request? at asks
  split at asks
  case h_1 => simp at asks
  case h_2 =>
    obtain ⟨⟨id, worker, next⟩, works, asks⟩ := Option.bind_eq_some_iff.mp asks
    have asks : worker.request? next = some (.send unit) := asks
    refine ⟨id, ?_⟩
    unfold Worker.request? at asks
    split at asks
    case h_1 registering sending =>
      cases asks
      simp [Office.deed?, works, Sight.transmitted, registering, sending]
    all_goals simp at asks

theorem exists_run_of_events
    (run : crew.Run rules (beginning policies queue shutdown view) trace last)
    {earlier later : List LedgerEvent} {event : LedgerEvent}
    (parts : events trace = earlier ++ event :: later) :
    ∃ part transition,
      crew.Run rules (beginning policies queue shutdown view) part transition.before ∧
      events part = earlier ∧ event? transition = some event := by
  obtain ⟨front, rest, rfl, isEarlier, isRest⟩ := List.filterMap_eq_append_iff.mp parts
  obtain ⟨silent, transition, back, rfl, none, isEvent, _⟩ := List.filterMap_eq_cons_iff.mp isRest
  obtain ⟨reached, _⟩ := run.split (List.append_assoc front silent (transition :: back)).symm
  refine ⟨front ++ silent, transition, reached, ?_, isEvent⟩
  rw [events, List.filterMap_append, isEarlier, List.filterMap_eq_nil_iff.mpr none, List.append_nil]

/-- Before a unit is transmitted again, its entry has been withdrawn. -/
theorem withdrawn_of_retry
    (run : crew.Run rules (beginning policies queue shutdown view) trace last)
    (distinct : queue.seqs.Nodup) {earlier between later : List LedgerEvent}
    {sent retry : LedgerEvent} {entry renewed : InFlight}
    (parts : events trace = earlier ++ sent :: between ++ retry :: later)
    (enters : sent.Enters seq entry) (again : retry.Enters seq renewed) :
    Withdrawn between seq := by
  obtain ⟨part, transition, reached, isEarlier, isRetry⟩ := exists_run_of_events run parts
  obtain ⟨unit, asks, rfl, _⟩ := again
  obtain ⟨request, asked, rfl⟩ := Option.map_eq_some_iff.mp isRetry
  cases asks
  obtain ⟨id, transmits⟩ := transmitted_of_request? asked
  obtain ⟨custody, apart⟩ := custody_of_run reached distinct
  obtain ⟨noEntry, noRecord⟩ :=
    absent_of_transmitted custody (List.nodup_append.mp apart).1 transmits
  have reflects := reflects_of_run reached
  rw [isEarlier] at reflects
  apply withdrawn_of_unclaimed enters reflects.logs
  · exact Correlator.recordsOf_eq_zero_iff.mp noRecord
  · exact (reflects.entry?_eq_none_iff unit.seq).mp (Correlator.entry?_eq_none_iff.mpr noEntry)

theorem follows_of_events
    (run : crew.Run rules (beginning policies queue shutdown view) trace last)
    {earlier later : List LedgerEvent} {event : LedgerEvent}
    (parts : events trace = earlier ++ event :: later) : event.Follows earlier := by
  obtain ⟨part, transition, reached, isEarlier, isEvent⟩ := exists_run_of_events run parts
  obtain ⟨request, _, rfl⟩ := Option.map_eq_some_iff.mp isEvent
  have handles := transition.before.common.ledger.handles transition.before.view.now request
  exact isEarlier ▸ handles.follows (reflects_of_run reached)

/-- An acknowledgement that arrives after a transmission of its id, which it may answer.
If the transmission was withdrawn, the acknowledgement is dropped exactly when no retry
awaits its own; a retry that does was sent after a withdrawal, and the acknowledgement
claims its entry.  If none does, an acknowledgement becomes a record only of a
transmission that was not withdrawn, with the time since that transmission. -/
theorem answer_of_run
    (run : crew.Run rules (beginning policies queue shutdown view) trace last)
    (distinct : queue.seqs.Nodup) {earlier between later : List LedgerEvent}
    {sent arrival : LedgerEvent} {entry : InFlight} {text : String} {status : AckStatus}
    (parts : events trace = earlier ++ sent :: between ++ arrival :: later)
    (enters : sent.Enters seq entry) (arrives : arrival.request = .frame text)
    (acknowledges : Acknowledges text seq status) :
    last.common.ledger.Reflects (events trace) ∧
    (Withdrawn between seq →
      (arrival.reply = .heard .uncorrelated ↔ ∀ retry, ¬ Awaits between seq retry)) ∧
    (∀ retry, Awaits between seq retry →
      Withdrawn between seq ∧
        arrival.reply = .heard (.recorded (.ofNanos (arrival.now - retry.startedAt)))) ∧
    ∀ latency, arrival.reply = .heard (.recorded latency) →
      (∀ retry, ¬ Awaits between seq retry) →
      ¬ Withdrawn between seq ∧ latency = .ofNanos (arrival.now - sent.now) := by
  have follows := follows_of_events run parts
  simp only [LedgerEvent.Follows, arrives] at follows
  obtain ⟨outcome, replies, _, answers⟩ := follows
  obtain ⟨awaited, unawaited⟩ := answers seq status acknowledges
  have disturbed : Withdrawn between seq → ¬ ∀ other ∈ between, other.LeavesAlone seq := by
    rintro ⟨withdrawal, member, withdraws⟩ undisturbed
    exact (undisturbed withdrawal member).1 (.inl withdraws)
  -- what awaits the acknowledgement was sent since, or was in flight and nothing touched it since
  have wholeAwaits : ∀ other, Awaits (earlier ++ sent :: between) seq other ↔
      Awaits between seq other ∨ (∀ event ∈ between, event.LeavesAlone seq) ∧
        Awaits (earlier ++ [sent]) seq other := by
    intro other
    rw [List.append_cons, awaits_append]
  refine ⟨reflects_of_run run, ?_, ?_, ?_⟩
  · intro withdrawn
    constructor
    · intro uncorrelated retry awaits
      have recorded := awaited retry ((wholeAwaits retry).mpr (.inl awaits))
      rw [replies, recorded] at uncorrelated
      cases uncorrelated
    · intro noRetry
      rw [replies, unawaited]
      intro other awaits
      rcases (wholeAwaits other).mp awaits with retries | ⟨undisturbed, _⟩
      · exact noRetry other retries
      · exact disturbed withdrawn undisturbed
  · intro retry awaits
    constructor
    · obtain ⟨front, renewal, back, rfl, renews, _⟩ := awaits
      have again : events trace = earlier ++ sent :: front ++ renewal ::
          (back ++ arrival :: later) := by
        simpa using parts
      obtain ⟨withdrawal, member, withdraws⟩ := withdrawn_of_retry run distinct again enters renews
      exact ⟨withdrawal, List.mem_append_left _ member, withdraws⟩
    · rw [replies, awaited retry ((wholeAwaits retry).mpr (.inl awaits))]
  · intro latency recorded noRetry
    obtain ⟨other, awaits⟩ : ∃ other, Awaits (earlier ++ sent :: between) seq other := by
      apply Classical.byContradiction
      intro none
      rw [replies, unawaited (not_exists.mp none)] at recorded
      cases recorded
    obtain ⟨undisturbed, awaits⟩ := ((wholeAwaits other).mp awaits).resolve_left (noRetry other)
    have own : sent.Enters seq other := by
      rcases awaits_append.mp awaits with latest | ⟨alone, _⟩
      · exact awaits_singleton.mp latest
      · exact absurd enters ((alone sent (List.mem_singleton_self sent)).2 entry)
    obtain ⟨unit, _, _, rfl⟩ := own
    have recordedNow := awaited _ ((wholeAwaits _).mpr (.inr ⟨undisturbed, awaits⟩))
    rw [replies, recordedNow] at recorded
    cases recorded
    exact ⟨fun withdrawn => disturbed withdrawn undisturbed, rfl⟩

/-- The frame with which the service accepts a note. -/
def noteEcho : String :=
  (AckFrame.echo (note 0).payload ⟨0, 0⟩).wireText

/-- A worker with two tries: the first send fails at once, the retry is sent after 20 ms,
and after 30 ms the acknowledgement of the first one arrives. -/
def lateAcknowledgement : List (Cue Desk Worker) :=
  List.flatten
    [.replicate 7 (.move 0 0), [.answer 0 (.connected 0)],
      .replicate 2 (.move 0 0), [.answer 0 (.failed .notOpen)],
      .replicate 2 (.move 0 0), [.shift ⟨20000000, fun _ => true⟩, .answer 0 .done],
      .replicate 4 (.move 0 0), [.shift ⟨30000000, fun _ => true⟩, .frame noteEcho]]

theorem answer_of_run_of_lateAcknowledgement :
    ∃ queue policies view trace last sent between arrival,
      crew.Run rules (beginning policies queue false view) trace last ∧
      queue.seqs.Nodup ∧
      events trace = [sent] ++ between ++ [arrival] ∧
      sent.Enters 0 ⟨0, .text, 0⟩ ∧
      arrival.request = .frame noteEcho ∧
      Acknowledges noteEcho 0 .ok ∧
      last.common.ledger.Reflects (events trace) ∧
      Withdrawn between 0 ∧
      arrival.reply ≠ .heard .uncorrelated ∧
      arrival.reply = .heard (.recorded (.ofMillis 10)) := by
  let queue : UnitQueue := ⟨1, .ofList [.unit (note 0)], 1, 1⟩
  let policies : List RetryPolicy := [⟨2, .ofMillis 20, .ofMillis 20⟩]
  let view : View := ⟨0, fun _ => true⟩
  let sent : LedgerEvent := ⟨0, .send (note 0), .entered⟩
  let withdrawal : LedgerEvent := ⟨0, .withdraw 0, .withdrawn true⟩
  let retry : LedgerEvent := ⟨20000000, .send (note 0).nextAttempt, .entered⟩
  let arrival : LedgerEvent :=
    ⟨30000000, .frame noteEcho, .heard (.recorded (.ofMillis 10))⟩
  have distinct : queue.seqs.Nodup := by decide
  have replayed : (crew.replay (fun _ transition => transition.act.isInner) []
      (beginning policies queue false view) lateAcknowledgement).any
      (fun ending => events ending.1 == [sent, withdrawal, retry, arrival]) = true := by
    decide +kernel
  obtain ⟨trace, last, run, shown⟩ := System.exists_run_of_replay rules_of_isInner replayed
  have parts : events trace = [] ++ sent :: [withdrawal, retry] ++ arrival :: [] :=
    eq_of_beq shown
  have enters : sent.Enters 0 ⟨0, .text, 0⟩ := ⟨note 0, rfl, rfl, rfl⟩
  have renews : Awaits [withdrawal, retry] 0 ⟨20000000, .text, 0⟩ :=
    ⟨[withdrawal], retry, [], rfl, ⟨(note 0).nextAttempt, rfl, rfl, rfl⟩, nofun⟩
  have arrives : arrival.request = .frame noteEcho := rfl
  have acknowledges : Acknowledges noteEcho 0 .ok := acknowledges_echo (note 0) ⟨0, 0⟩
  obtain ⟨reflects, dropped, claimed, _⟩ :=
    answer_of_run run distinct parts enters arrives acknowledges
  obtain ⟨withdrawn, recorded⟩ := claimed _ renews
  have since : Duration.ofNanos (30000000 - 20000000) = .ofMillis 10 := by decide
  rw [since] at recorded
  refine ⟨queue, policies, view, trace, last, sent, [withdrawal, retry], arrival, run, distinct,
    parts, enters, arrives, acknowledges, reflects, withdrawn, ?_, recorded⟩
  intro uncorrelated
  exact (dropped withdrawn).mp uncorrelated _ renews

end Crew

end RoomLoad
