import RoomLoad.Correlator
import RoomLoad.Proofs.Runs.Basic

/-!
# What a ledger makes of its history

Requests to a ledger and its replies make up a history.  The history alone tells what
becomes of the next request: an id is awaited if its last entry has been claimed neither
by a withdrawal nor by an acknowledgement, and only what is awaited can be claimed.  The
entries in flight, the records and the counters of a ledger are those that its history
tells, whatever ids repeat and whatever texts arrive.
-/

namespace RoomLoad

inductive LedgerRequest where
  | send (unit : OutboundUnit)
  | withdraw (seq : SeqId)
  | frame (text : String)
deriving DecidableEq

inductive LedgerReply where
  | entered
  | withdrawn (existed : Bool)
  | heard (outcome : AckOutcome)
deriving DecidableEq

structure LedgerEvent where
  now : Instant
  request : LedgerRequest
  reply : LedgerReply
deriving DecidableEq

namespace Ledger

def handle (ledger : Ledger) (now : Instant) : LedgerRequest → LedgerReply × Ledger
  | .send unit => (.entered, ledger.onSend now unit)
  | .withdraw seq =>
      let (existed, later) := ledger.withdraw seq
      (.withdrawn existed, later)
  | .frame text =>
      let (outcome, later) := ledger.onAck now text
      (.heard outcome, later)

/-- Handles one more request, after those of a history. -/
def serveNext (served : List LedgerEvent × Ledger) (asked : Instant × LedgerRequest) :
    List LedgerEvent × Ledger :=
  let (reply, later) := served.2.handle asked.1 asked.2
  (served.1 ++ [⟨asked.1, asked.2, reply⟩], later)

/-- Handles requests one after another, from the beginning. -/
def serve (requests : List (Instant × LedgerRequest)) : List LedgerEvent × Ledger :=
  requests.foldl serveNext ([], fresh)

end Ledger

/-- A text is an acknowledgement frame with the tag of a sequence id in the message that
it echoes. -/
def Acknowledges (text : String) (seq : SeqId) (status : AckStatus) : Prop :=
  ∃ frame data message, AckFrame.parse text = .ok frame ∧ frame.data = some data ∧
    data.member? "message" = some (.string message) ∧ Tag.find? message = some seq ∧
    frame.ackStatus = status

namespace LedgerEvent

/-- The event enters a unit of an id. -/
def Enters (event : LedgerEvent) (seq : SeqId) (entry : InFlight) : Prop :=
  ∃ unit, event.request = .send unit ∧ unit.seq = seq ∧
    entry = ⟨event.now, unit.kind, unit.room⟩

/-- The event claims the entry of an id: by a withdrawal, or by a recorded
acknowledgement. -/
def Claims (event : LedgerEvent) (seq : SeqId) : Prop :=
  event.request = .withdraw seq ∧ event.reply = .withdrawn true ∨
    ∃ text status latency, event.request = .frame text ∧ Acknowledges text seq status ∧
      event.reply = .heard (.recorded latency)

/-- The event neither enters a unit of an id nor claims its entry. -/
def LeavesAlone (event : LedgerEvent) (seq : SeqId) : Prop :=
  ¬ event.Claims seq ∧ ∀ entry, ¬ event.Enters seq entry

end LedgerEvent

/-- The last entry of an id comes after all that claimed an entry of the id. -/
def Awaits (history : List LedgerEvent) (seq : SeqId) (entry : InFlight) : Prop :=
  ∃ earlier event later, history = earlier ++ event :: later ∧ event.Enters seq entry ∧
    ∀ other ∈ later, other.LeavesAlone seq

/-- A reply is the one that the history before it calls for. -/
def LedgerEvent.Follows (event : LedgerEvent) (history : List LedgerEvent) : Prop :=
  match event.request with
  | .send _ => event.reply = .entered
  | .withdraw seq =>
      ∃ existed, event.reply = .withdrawn existed ∧
        (existed = true ↔ ∃ entry, Awaits history seq entry)
  | .frame text =>
      ∃ outcome, event.reply = .heard outcome ∧
        (outcome = .unparseable ↔ ∀ seq status, ¬ Acknowledges text seq status) ∧
        ∀ seq status, Acknowledges text seq status →
          (∀ entry, Awaits history seq entry →
            outcome = .recorded (.ofNanos (event.now - entry.startedAt))) ∧
          ((∀ entry, ¬ Awaits history seq entry) → outcome = .uncorrelated)

/-- The records that a history calls for, in the order of their acknowledgements. -/
inductive Logs : List LedgerEvent → List LatencyRecord → Prop where
  | nothing : Logs [] []
  | silent {history : List LedgerEvent} {records : List LatencyRecord} {event : LedgerEvent} :
      Logs history records →
      (∀ latency, event.reply ≠ .heard (.recorded latency)) →
      Logs (history ++ [event]) records
  | record {history : List LedgerEvent} {records : List LatencyRecord} {now : Instant}
      {text : String} {seq : SeqId} {status : AckStatus} {entry : InFlight}
      {latency : Duration} :
      Logs history records →
      Acknowledges text seq status →
      Awaits history seq entry →
      latency = .ofNanos (now - entry.startedAt) →
      Logs (history ++ [⟨now, .frame text, .heard (.recorded latency)⟩])
        (records ++ [⟨seq, .ofInstant now, entry.kind, latency, status, entry.room⟩])

def LedgerEvent.isFrame (event : LedgerEvent) : Bool :=
  match event.request with
  | .frame _ => true
  | _ => false

/-- A ledger is what its history tells. -/
structure Ledger.Reflects (ledger : Ledger) (history : List LedgerEvent) : Prop where
  inflight : ∀ seq entry,
    ledger.correlator.entry? seq = some entry ↔ Awaits history seq entry
  distinct : (ledger.correlator.inflight.map Prod.fst).Nodup
  logs : Logs history ledger.correlator.records
  successes : ledger.metrics.success = ledger.correlator.records.length
  unparseable : ledger.correlator.unparseable =
    history.countP fun event => event.reply == .heard .unparseable
  uncorrelated : ledger.correlator.uncorrelated =
    history.countP fun event => event.reply == .heard .uncorrelated
  frames : history.countP LedgerEvent.isFrame =
    ledger.correlator.records.length + ledger.correlator.unparseable +
      ledger.correlator.uncorrelated

namespace Correlator

variable {correlator : Correlator} {seq other : SeqId}

theorem readAck?_eq_some_iff {text : String} {status : AckStatus} :
    readAck? text = some (seq, status) ↔ Acknowledges text seq status := by
  have parsed : ∀ frame, AckFrame.parse text = .ok frame ↔ AckFrame.parse? text = some frame := by
    intro frame
    rw [AckFrame.parse]
    cases AckFrame.parse? text <;> simp
  have isString : ∀ value message, Json.Value.string? value = some message ↔
      value = .string message := by
    intro value message
    cases value <;> simp [Json.Value.string?]
  constructor
  · intro read
    simp only [readAck?, AckFrame.seq?, Option.bind_eq_bind, Option.bind_eq_some_iff,
      Option.pure_def, Option.some.injEq, Prod.mk.injEq] at read
    obtain ⟨frame, isFrame, _, ⟨data, isData, value, found, message, isMessage, tag⟩, rfl, rfl⟩ :=
      read
    rw [isString] at isMessage
    exact ⟨frame, data, message, (parsed frame).mpr isFrame, isData, isMessage ▸ found, tag, rfl⟩
  · rintro ⟨frame, data, message, isFrame, isData, found, tag, rfl⟩
    rw [parsed] at isFrame
    simp [readAck?, AckFrame.seq?, isFrame, isData, found, Json.Value.string?, tag]

theorem entry?_without :
    entry? (correlator.without seq) other =
      if other = seq then none else correlator.entry? other := by
  by_cases same : other = seq
  · subst same
    rw [if_pos rfl]
    refine List.lookup_eq_none_iff.mpr ?_
    intro entry member
    have different := (List.mem_filter.mp member).2
    simp only [bne_iff_ne] at different
    simpa using different.symm
  · rw [if_neg same]
    exact lookup_filter_of_ne same correlator.inflight

theorem entry?_onSend {now : Instant} {unit : OutboundUnit} :
    entry? (correlator.onSend now unit) other =
      if other = unit.seq then some ⟨now, unit.kind, unit.room⟩ else correlator.entry? other := by
  have cleared : entry? (correlator.without unit.seq) other =
      if other = unit.seq then none else correlator.entry? other := entry?_without
  unfold entry? at cleared ⊢
  rw [onSend, List.lookup_cons]
  by_cases same : other = unit.seq
  · simp [same]
  · rw [if_neg same] at cleared ⊢
    rw [beq_false_of_ne same]
    exact cleared

theorem distinct_without (distinct : (correlator.inflight.map Prod.fst).Nodup) :
    ((correlator.without seq).inflight.map Prod.fst).Nodup :=
  distinct.sublist (List.filter_sublist.map Prod.fst)

theorem distinct_onSend (distinct : (correlator.inflight.map Prod.fst).Nodup) (now : Instant)
    (unit : OutboundUnit) : ((correlator.onSend now unit).inflight.map Prod.fst).Nodup := by
  rw [onSend, List.map_cons, List.nodup_cons]
  refine ⟨?_, distinct_without distinct⟩
  simp [without]

end Correlator

/-- What the handling of a request comes to. -/
inductive Ledger.Handles (ledger : Ledger) (now : Instant) :
    LedgerRequest → LedgerReply → Ledger → Prop where
  | enters (unit : OutboundUnit) :
      Handles ledger now (.send unit) .entered
        { ledger with correlator := ledger.correlator.onSend now unit }
  | withdraws {seq : SeqId} {entry : InFlight} :
      ledger.correlator.entry? seq = some entry →
      Handles ledger now (.withdraw seq) (.withdrawn true)
        { ledger with correlator := ledger.correlator.without seq }
  | misses {seq : SeqId} :
      ledger.correlator.entry? seq = none →
      Handles ledger now (.withdraw seq) (.withdrawn false) ledger
  | garbled {text : String} :
      (∀ seq status, ¬ Acknowledges text seq status) →
      Handles ledger now (.frame text) (.heard .unparseable)
        { ledger with
          correlator.unparseable := ledger.correlator.unparseable + 1 }
  | unclaimed {text : String} {seq : SeqId} {status : AckStatus} :
      Acknowledges text seq status →
      ledger.correlator.entry? seq = none →
      Handles ledger now (.frame text) (.heard .uncorrelated)
        { ledger with
          correlator.uncorrelated := ledger.correlator.uncorrelated + 1 }
  | records {text : String} {seq : SeqId} {status : AckStatus} {entry : InFlight} :
      Acknowledges text seq status →
      ledger.correlator.entry? seq = some entry →
      Handles ledger now (.frame text) (.heard (.recorded (.ofNanos (now - entry.startedAt))))
        { correlator :=
            { ledger.correlator.without seq with
              recorded :=
                ⟨seq, .ofInstant now, entry.kind, .ofNanos (now - entry.startedAt), status,
                  entry.room⟩ :: ledger.correlator.recorded }
          metrics := ledger.metrics.countSuccess }

theorem Ledger.handles (ledger : Ledger) (now : Instant) (request : LedgerRequest) :
    ledger.Handles now request (ledger.handle now request).1 (ledger.handle now request).2 := by
  cases request with
  | send unit => exact .enters unit
  | withdraw seq =>
      cases found : ledger.correlator.entry? seq with
      | none =>
          simp only [handle, withdraw, Correlator.withdraw, found]
          exact .misses found
      | some entry =>
          simp only [handle, withdraw, Correlator.withdraw, found]
          exact .withdraws found
  | frame text =>
      cases read : Correlator.readAck? text with
      | none =>
          simp only [handle, onAck, Correlator.onAck, read]
          apply Handles.garbled
          intro seq status acknowledges
          rw [← Correlator.readAck?_eq_some_iff, read] at acknowledges
          contradiction
      | some carried =>
          obtain ⟨seq, status⟩ := carried
          have acknowledges := Correlator.readAck?_eq_some_iff.mp read
          cases found : ledger.correlator.entry? seq with
          | none =>
              simp only [handle, onAck, Correlator.onAck, read, found]
              exact .unclaimed acknowledges found
          | some entry =>
              simp only [handle, onAck, Correlator.onAck, read, found]
              exact .records acknowledges found

variable {history : List LedgerEvent} {event : LedgerEvent} {seq : SeqId} {entry : InFlight}

/-- An id is awaited because of the later part of a history, or because of the earlier
part if the later one leaves it alone. -/
theorem awaits_append {left right : List LedgerEvent} :
    Awaits (left ++ right) seq entry ↔
      Awaits right seq entry ∨
        (∀ other ∈ right, other.LeavesAlone seq) ∧ Awaits left seq entry := by
  constructor
  · rintro ⟨earlier, entering, later, parts, enters, alone⟩
    rcases List.append_eq_append_iff.mp parts with ⟨between, rfl, inRight⟩ | ⟨between, rfl, rest⟩
    · exact .inl ⟨between, entering, later, inRight, enters, alone⟩
    · cases between with
      | nil => exact .inl ⟨[], entering, later, rest.symm, enters, alone⟩
      | cons first between =>
          obtain ⟨rfl, rfl⟩ := List.cons.inj rest
          refine .inr ⟨?_, earlier, entering, between, rfl, enters, ?_⟩
          · intro other member
            exact alone other (List.mem_append_right between member)
          · intro other member
            exact alone other (List.mem_append_left right member)
  · rintro (⟨earlier, entering, later, rfl, enters, alone⟩ |
      ⟨undisturbed, earlier, entering, later, rfl, enters, alone⟩)
    · exact ⟨left ++ earlier, entering, later, by simp, enters, alone⟩
    · refine ⟨earlier, entering, later ++ right, by simp, enters, ?_⟩
      intro other member
      rcases List.mem_append.mp member with inLater | inRight
      · exact alone other inLater
      · exact undisturbed other inRight

theorem awaits_singleton : Awaits [event] seq entry ↔ event.Enters seq entry := by
  constructor
  · rintro ⟨earlier, entering, later, parts, enters, _⟩
    have member : entering ∈ [event] := by simp [parts]
    exact List.mem_singleton.mp member ▸ enters
  · intro enters
    exact ⟨[], event, [], rfl, enters, nofun⟩

theorem Acknowledges.seq_eq {text : String} {other : SeqId} {status otherStatus : AckStatus}
    (acknowledges : Acknowledges text seq status)
    (alsoAcknowledges : Acknowledges text other otherStatus) : other = seq := by
  have first := Correlator.readAck?_eq_some_iff.mpr acknowledges
  have second := Correlator.readAck?_eq_some_iff.mpr alsoAcknowledges
  rw [first] at second
  exact (Prod.mk.inj (Option.some.inj second)).1.symm

namespace LedgerEvent

variable {now : Instant} {unit : OutboundUnit} {own : SeqId} {text : String}
  {status : AckStatus} {outcome : AckOutcome}

theorem enters_send : Enters ⟨now, .send unit, .entered⟩ seq entry ↔
    seq = unit.seq ∧ entry = ⟨now, unit.kind, unit.room⟩ := by
  simp [Enters, eq_comm]

theorem leavesAlone_send : LeavesAlone ⟨now, .send unit, .entered⟩ seq ↔ seq ≠ unit.seq := by
  simp [LeavesAlone, Claims, enters_send]

theorem leavesAlone_withdraw (existed : Bool) :
    LeavesAlone ⟨now, .withdraw own, .withdrawn existed⟩ seq ↔
      (existed = true → seq ≠ own) := by
  cases existed <;> simp [LeavesAlone, Claims, Enters, eq_comm]

theorem leavesAlone_unrecorded (unrecorded : ∀ latency, outcome ≠ .recorded latency) :
    LeavesAlone ⟨now, .frame text, .heard outcome⟩ seq := by
  refine ⟨?_, by simp [Enters]⟩
  rintro (⟨contrary, _⟩ | ⟨_, _, latency, _, _, recorded⟩)
  · cases contrary
  · cases recorded
    exact unrecorded latency rfl

theorem leavesAlone_recorded (acknowledges : Acknowledges text own status)
    (latency : Duration) :
    LeavesAlone ⟨now, .frame text, .heard (.recorded latency)⟩ seq ↔ seq ≠ own := by
  constructor
  · rintro ⟨unclaimed, _⟩ rfl
    exact unclaimed (.inr ⟨text, status, latency, rfl, acknowledges, rfl⟩)
  · intro different
    refine ⟨?_, by simp [Enters]⟩
    rintro (⟨contrary, _⟩ | ⟨_, _, _, isFrame, alsoAcknowledges, _⟩)
    · cases contrary
    · cases isFrame
      exact different (acknowledges.seq_eq alsoAcknowledges)

end LedgerEvent

namespace Ledger

variable {ledger later : Ledger} {now : Instant} {request : LedgerRequest} {reply : LedgerReply}

theorem reflects_fresh : fresh.Reflects [] := by
  refine ⟨?_, List.nodup_nil, .nothing, rfl, rfl, rfl, rfl⟩
  intro seq entry
  constructor
  · intro found
    contradiction
  · rintro ⟨earlier, event, later, contrary, _⟩
    simp at contrary

theorem Reflects.entry?_eq_none_iff (reflects : ledger.Reflects history) (seq : SeqId) :
    ledger.correlator.entry? seq = none ↔ ∀ entry, ¬ Awaits history seq entry := by
  simp [Option.eq_none_iff_forall_ne_some, reflects.inflight]

/-- Only entries, records and what is counted of them matter. -/
theorem Reflects.congr (reflects : ledger.Reflects history)
    (same : later.correlator = ledger.correlator)
    (successes : later.metrics.success = ledger.metrics.success) : later.Reflects history := by
  obtain ⟨inflight, distinct, logs, sameSuccesses, unparseable, uncorrelated, frames⟩ := reflects
  rw [← same] at inflight distinct logs sameSuccesses unparseable uncorrelated frames
  exact ⟨inflight, distinct, logs, successes.trans sameSuccesses, unparseable, uncorrelated, frames⟩

theorem Handles.follows (handles : ledger.Handles now request reply later)
    (reflects : ledger.Reflects history) : LedgerEvent.Follows ⟨now, request, reply⟩ history := by
  cases handles with
  | enters unit => rfl
  | @withdraws seq entry found =>
      have awaits := (reflects.inflight seq entry).mp found
      exact ⟨true, rfl, iff_of_true rfl ⟨entry, awaits⟩⟩
  | @misses seq missing =>
      rw [reflects.entry?_eq_none_iff] at missing
      refine ⟨false, rfl, iff_of_false Bool.false_ne_true ?_⟩
      rintro ⟨entry, awaits⟩
      exact missing entry awaits
  | garbled garbled =>
      refine ⟨.unparseable, rfl, iff_of_true rfl garbled, ?_⟩
      intro seq status acknowledges
      exact absurd acknowledges (garbled seq status)
  | @unclaimed text seq status acknowledges missing =>
      rw [reflects.entry?_eq_none_iff] at missing
      refine ⟨.uncorrelated, rfl, iff_of_false AckOutcome.noConfusion ?_, ?_⟩
      · intro garbled
        exact garbled seq status acknowledges
      · intro other otherStatus alsoAcknowledges
        cases acknowledges.seq_eq alsoAcknowledges
        refine ⟨?_, fun _ => rfl⟩
        intro entry awaits
        exact absurd awaits (missing entry)
  | @records text seq status entry acknowledges found =>
      have awaits := (reflects.inflight seq entry).mp found
      refine ⟨_, rfl, iff_of_false AckOutcome.noConfusion ?_, ?_⟩
      · intro garbled
        exact garbled seq status acknowledges
      · intro other otherStatus alsoAcknowledges
        cases acknowledges.seq_eq alsoAcknowledges
        constructor
        · intro other alsoAwaits
          rw [← reflects.inflight, found] at alsoAwaits
          cases alsoAwaits
          rfl
        · intro unawaited
          exact absurd awaits (unawaited entry)

theorem Handles.entry?_eq_some_iff (handles : ledger.Handles now request reply later)
    (seq : SeqId) (entry : InFlight) :
    later.correlator.entry? seq = some entry ↔
      LedgerEvent.Enters ⟨now, request, reply⟩ seq entry ∨
        LedgerEvent.LeavesAlone ⟨now, request, reply⟩ seq ∧
          ledger.correlator.entry? seq = some entry := by
  cases handles with
  | enters unit =>
      rw [Correlator.entry?_onSend, LedgerEvent.enters_send, LedgerEvent.leavesAlone_send]
      by_cases own : seq = unit.seq <;> simp [own, eq_comm]
  | @withdraws withdrawn _ found =>
      rw [Correlator.entry?_without, LedgerEvent.leavesAlone_withdraw]
      by_cases own : seq = withdrawn <;> simp [own, LedgerEvent.Enters]
  | misses missing =>
      rw [LedgerEvent.leavesAlone_withdraw]
      simp [LedgerEvent.Enters]
  | garbled garbled =>
      simp [LedgerEvent.leavesAlone_unrecorded, LedgerEvent.Enters, Correlator.entry?]
  | unclaimed acknowledges missing =>
      simp [LedgerEvent.leavesAlone_unrecorded, LedgerEvent.Enters, Correlator.entry?]
  | @records _ recorded _ _ acknowledges found =>
      have kept : Correlator.entry? (ledger.correlator.without recorded) seq =
          if seq = recorded then none else ledger.correlator.entry? seq :=
        Correlator.entry?_without
      unfold Correlator.entry? at kept ⊢
      rw [LedgerEvent.leavesAlone_recorded acknowledges, kept]
      by_cases own : seq = recorded <;> simp [own, LedgerEvent.Enters]

theorem Handles.distinct (handles : ledger.Handles now request reply later)
    (distinct : (ledger.correlator.inflight.map Prod.fst).Nodup) :
    (later.correlator.inflight.map Prod.fst).Nodup := by
  cases handles with
  | enters unit => exact Correlator.distinct_onSend distinct now unit
  | withdraws found => exact Correlator.distinct_without distinct
  | misses missing => exact distinct
  | garbled garbled => exact distinct
  | unclaimed acknowledges missing => exact distinct
  | records acknowledges found => exact Correlator.distinct_without distinct

theorem Handles.logs (handles : ledger.Handles now request reply later)
    (reflects : ledger.Reflects history) :
    Logs (history ++ [⟨now, request, reply⟩]) later.correlator.records := by
  cases handles with
  | enters unit => exact .silent reflects.logs nofun
  | withdraws found => exact .silent reflects.logs nofun
  | misses missing => exact .silent reflects.logs nofun
  | garbled garbled => exact .silent reflects.logs nofun
  | unclaimed acknowledges missing => exact .silent reflects.logs nofun
  | @records text seq status entry acknowledges found =>
      have awaits := (reflects.inflight seq entry).mp found
      rw [Correlator.records, List.reverse_cons]
      exact .record reflects.logs acknowledges awaits rfl

theorem Reflects.step (reflects : ledger.Reflects history)
    (handles : ledger.Handles now request reply later) :
    later.Reflects (history ++ [⟨now, request, reply⟩]) where
  inflight := by
    intro seq entry
    rw [awaits_append, awaits_singleton, handles.entry?_eq_some_iff, reflects.inflight]
    simp
  distinct := handles.distinct reflects.distinct
  logs := handles.logs reflects
  successes := by
    have successes := reflects.successes
    cases handles <;>
      simp_all [Correlator.records, Correlator.onSend, Correlator.without, Metrics.countSuccess]
  unparseable := by
    have unparseable := reflects.unparseable
    cases handles <;> simp_all [Correlator.onSend, Correlator.without]
  uncorrelated := by
    have uncorrelated := reflects.uncorrelated
    cases handles <;> simp_all [Correlator.onSend, Correlator.without]
  frames := by
    have frames := reflects.frames
    cases handles <;>
      simp_all [Correlator.records, Correlator.onSend, Correlator.without, LedgerEvent.isFrame] <;>
      omega

/-- The requests of a history are those served, each reply follows what came before it,
and the ledger is what the history tells. -/
structure Keeps (ledger : Ledger) (history : List LedgerEvent)
    (requests : List (Instant × LedgerRequest)) : Prop where
  requests : history.map (fun event => (event.now, event.request)) = requests
  follows : ∀ earlier event later, history = earlier ++ event :: later →
    event.Follows earlier
  reflects : ledger.Reflects history

theorem keeps_fresh : fresh.Keeps [] [] := by
  refine ⟨rfl, ?_, reflects_fresh⟩
  intro earlier event later contrary
  simp at contrary

theorem Keeps.serveNext {requests : List (Instant × LedgerRequest)}
    (keeps : ledger.Keeps history requests) (asked : Instant × LedgerRequest) :
    (Ledger.serveNext (history, ledger) asked).2.Keeps
      (Ledger.serveNext (history, ledger) asked).1 (requests ++ [asked]) := by
  have handles := ledger.handles asked.1 asked.2
  refine ⟨?_, ?_, keeps.reflects.step handles⟩
  · simp [Ledger.serveNext, keeps.requests]
  · intro earlier event later parts
    simp only [Ledger.serveNext] at parts
    rcases List.eq_nil_or_concat later with rfl | ⟨between, last, rfl⟩
    · obtain ⟨rfl, same⟩ := List.append_inj' parts rfl
      cases same
      exact handles.follows keeps.reflects
    · rw [List.concat_eq_append, ← List.cons_append, ← List.append_assoc] at parts
      exact keeps.follows earlier event between (List.append_inj' parts rfl).1

theorem Keeps.foldl_serveNext {requests : List (Instant × LedgerRequest)}
    (keeps : ledger.Keeps history requests) (others : List (Instant × LedgerRequest)) :
    (others.foldl Ledger.serveNext (history, ledger)).2.Keeps
      (others.foldl Ledger.serveNext (history, ledger)).1 (requests ++ others) := by
  induction others generalizing ledger history requests with
  | nil => simpa using keeps
  | cons asked others induction => simpa using induction (keeps.serveNext asked)

/-- Whatever is asked of a ledger at whatever moments, however ids repeat: every frame and
every withdrawal is answered as the history before it says, and in the end the entries in
flight, the records and the counters are those that the whole history tells. -/
theorem keeps_serve (requests : List (Instant × LedgerRequest)) :
    (serve requests).2.Keeps (serve requests).1 requests :=
  keeps_fresh.foldl_serveNext requests

end Ledger

end RoomLoad
