import RoomLoad.Proofs.Correlation.Retries
import RoomLoad.Proofs.Faultless.Channels

/-!
# Every echo finds its unit

Before a faultless service there is an echo to come for every entry in flight, and each one
comes before the conductor loses patience.  It becomes the record of its unit.
-/

namespace RoomLoad

namespace Letter

def carries (seq : SeqId) (letter : Letter) : Bool :=
  Stub.payloadSeq? letter.payload == some seq

variable {stubs other : Stubs} {letter : Letter}

theorem congr_scripts (same : ∀ channel, (stubs channel).script = (other channel).script) :
    letter.travel stubs = letter.travel other ∧ letter.delay? stubs = letter.delay? other ∧
      letter.due? stubs = letter.due? other ∧
        ∀ now text, letter.isIn stubs now text = letter.isIn other now text := by
  have delays : letter.delay? stubs = letter.delay? other := by
    rw [delay?, delay?, same]
  have travels : letter.travel stubs = letter.travel other := by
    rw [travel, travel, delays]
  have dues : letter.due? stubs = letter.due? other := by
    rw [due?, due?, travels]
  refine ⟨travels, delays, dues, ?_⟩
  intro now text
  rw [isIn, isIn, travels, dues, same]

theorem readAck?_of_isIn {unit : OutboundUnit} {now : Instant} {text : String}
    (listens : (stubs letter.channel).script.listens = true)
    (sent : letter.payload = unit.wireText) (isIn : letter.isIn stubs now text = true) :
    Correlator.readAck? text = some (unit.seq, .ok) := by
  rw [Letter.isIn, sent, Stub.echo_unit listens, Bool.and_eq_true] at isIn
  have same := isIn.2
  simp only [List.any_cons, List.any_nil, Bool.or_false, beq_iff_eq] at same
  rw [← same, Correlator.readAck?_eq_some_iff]
  exact acknowledges_echo unit _

theorem carries_of_sent {unit : OutboundUnit} (sent : letter.payload = unit.wireText)
    (seq : SeqId) : letter.carries seq = (unit.seq == seq) := by
  rw [carries, sent, Stub.payloadSeq?_wireText]
  rfl

end Letter

theorem eq_add_of_deadline? {now deadline : Instant} {duration : Duration}
    (named : deadline? now duration = some deadline) : deadline = now + duration.nanos := by
  unfold deadline? at named
  split at named
  case isTrue => exact (Option.some.inj named).symm
  case isFalse => contradiction

/-- Everything was acknowledged in time, and nothing else was heard. -/
structure RunSummary.IsClean (summary : RunSummary) : Prop where
  abandoned : summary.abandoned = 0
  unacknowledged : summary.unacknowledged = 0
  unparseable : summary.unparseable = 0
  uncorrelated : summary.uncorrelated = 0
  interrupted : summary.interrupted = false
  drainTimedOut : summary.drainTimedOut = false

namespace MainPhase

variable {stubs : Stubs} {trace : List (Transition RunState RunTask)}
  {transition : Transition RunState RunTask} {before after situation : Situation RunState RunTask}
  {act : Act RunTask} {id : TaskId} {config : Config} {plan : GeneratorPlan}
  {phase next : ConductorPhase} {letter : Letter}

private theorem script_after {traffic : Traffic} (channel : ChannelId) :
    ((traffic.after transition).stubs channel).script = (traffic.stubs channel).script := by
  have atEnd : ((((ends? transition).elim traffic
      (traffic.finish transition.before.view.now)).stubs) channel).script =
        (traffic.stubs channel).script := by
    cases ends? transition with
    | none => rfl
    | some ended => exact Stubs.script_endCall ended.2.1 channel
  unfold Traffic.after
  split
  case h_1 => rfl
  case h_2 =>
    cases begins? transition with
    | none => exact atEnd
    | some begun => exact (Stubs.script_beginCall begun.2 channel).trans atEnd

theorem script_traffic (channel : ChannelId) :
    ((traffic stubs trace).stubs channel).script = (stubs channel).script := by
  have folded : ∀ start : Traffic, ((trace.foldl Traffic.after start).stubs channel).script =
      (start.stubs channel).script := by
    induction trace with
    | nil => exact fun _ => rfl
    | cons first rest induction => exact fun start => (induction _).trans (script_after channel)
  exact folded ⟨stubs, [], []⟩

/-- An echo to come is that of a known unit, and is neither too early nor too late. -/
structure Posted (config : Config) (stubs : Stubs) (trace : List (Transition RunState RunTask))
    (situation : Situation RunState RunTask) (letter : Letter) : Prop where
  known : ∃ unit, Known config trace unit ∧ letter.payload = unit.wireText
  sender : letter.doneAt = none → ∃ worker unit,
    situation.tasks[letter.sender]? = some (.worker worker) ∧
      worker.phase = .sending unit letter.channel
  begun : letter.begun ≤ situation.view.now
  doneAt : ∀ moment, letter.doneAt = some moment →
    letter.begun ≤ moment ∧ moment ≤ situation.view.now ∧
      situation.view.now ≤ moment + letter.travel stubs ∧ (letter.delay? stubs).isSome = true

/-- The entries in flight are those of known units, and the records show what is known. -/
structure Credited (config : Config) (trace : List (Transition RunState RunTask))
    (correlator : Correlator) : Prop where
  inflight : ∀ entry ∈ correlator.inflight, ∃ unit, Known config trace unit ∧
    unit.seq = entry.1 ∧ unit.kind = entry.2.kind ∧ unit.room = entry.2.room
  records : ∀ record ∈ correlator.recorded, record.status = .ok ∧ ∃ unit,
    Known config trace unit ∧ unit.seq = record.seq ∧ unit.kind = record.kind ∧
      unit.room = record.room
  unparseable : correlator.unparseable = 0
  uncorrelated : correlator.uncorrelated = 0

def ComesBefore (stubs : Stubs) (deadline : Instant) (letter : Letter) : Prop :=
  ∃ moment, letter.doneAt = some moment ∧ moment + letter.travel stubs < deadline

/-- What the conductor waits for at the end of a run, and what it ends with. -/
def Awaits (config : Config) (stubs : Stubs) (letters : List Letter) (now rested : Instant) :
    ConductorPhase → Prop
  | .draining deadline => ∀ letter ∈ letters, ComesBefore stubs deadline letter
  | .pausing deadline interval =>
      (∀ letter ∈ letters, ComesBefore stubs deadline letter) ∧
        interval = config.drainPollInterval ∧ now ≤ rested + interval.nanos
  | .clearing timedOut => timedOut = false ∧ letters = []
  | .closing _ timedOut => timedOut = false ∧ letters = []
  | .finished result => letters = [] ∧ ∃ summary, result = .ok summary ∧ summary.IsClean
  | .crashed => deadline? rested config.drainTimeout = none
  | _ => True

/-- Echoes and entries in flight belong together. -/
structure Echoed (config : Config) (stubs : Stubs) (trace : List (Transition RunState RunTask))
    (situation : Situation RunState RunTask) (phase : ConductorPhase) : Prop where
  posted : ∀ letter ∈ (traffic stubs trace).letters, Posted config stubs trace situation letter
  entries : ∀ seq, (traffic stubs trace).letters.countP (Letter.carries seq) =
    situation.common.desk.ledger.correlator.entries seq
  credited : Credited config trace situation.common.desk.ledger.correlator
  awaits : Awaits config stubs (traffic stubs trace).letters situation.view.now (lastStep 0 trace)
    phase

theorem Credited.append {correlator : Correlator} (credited : Credited config trace correlator) :
    Credited config (trace ++ [transition]) correlator := by
  constructor
  case inflight =>
    intro entry member
    obtain ⟨unit, known, same⟩ := credited.inflight entry member
    exact ⟨unit, known.append, same⟩
  case records =>
    intro record member
    obtain ⟨status, unit, known, same⟩ := credited.records record member
    exact ⟨status, unit, known.append, same⟩
  case unparseable => exact credited.unparseable
  case uncorrelated => exact credited.uncorrelated

theorem Echoed.exists_letter (echoed : Echoed config stubs trace situation phase)
    (left : situation.common.inflight ≠ 0) : ∃ letter, letter ∈ (traffic stubs trace).letters := by
  have some := List.length_pos_iff.mp (Nat.pos_of_ne_zero left)
  obtain ⟨entry, member⟩ := List.exists_mem_of_ne_nil _ some
  have present : 0 < situation.common.desk.ledger.correlator.entries entry.1 :=
    List.countP_pos_iff.mpr ⟨entry, member, beq_self_eq_true entry.1⟩
  rw [← echoed.entries, List.countP_pos_iff] at present
  obtain ⟨letter, found, _⟩ := present
  exact ⟨letter, found⟩

theorem Echoed.letters_eq_nil_iff (echoed : Echoed config stubs trace situation phase) :
    (traffic stubs trace).letters = [] ↔ situation.common.inflight = 0 := by
  constructor
  · intro none
    apply Decidable.byContradiction
    intro left
    obtain ⟨letter, member⟩ := echoed.exists_letter left
    rw [none] at member
    contradiction
  · intro nothing
    rw [List.eq_nil_iff_forall_not_mem]
    intro letter member
    obtain ⟨unit, _, sent⟩ := (echoed.posted letter member).known
    have present : 0 < (traffic stubs trace).letters.countP (Letter.carries unit.seq) := by
      rw [List.countP_pos_iff]
      refine ⟨letter, member, ?_⟩
      rw [Letter.carries_of_sent sent, beq_self_eq_true]
    have noEntry := List.length_eq_zero_iff.mp nothing
    rw [echoed.entries, Correlator.entries, noEntry] at present
    contradiction

theorem Posted.put {next : RunTask} {state : RunState}
    (posted : Posted config stubs trace before letter)
    (others : letter.doneAt = none → letter.sender ≠ id) :
    Posted config stubs (trace ++ [transition]) (before.put id (state, next)) letter := by
  obtain ⟨unit, known, sent⟩ := posted.known
  refine ⟨⟨unit, known.append, sent⟩, ?_, posted.begun, posted.doneAt⟩
  intro unfinished
  obtain ⟨worker, own, present, sending⟩ := posted.sender unfinished
  refine ⟨worker, own, ?_, sending⟩
  rw [Situation.tasks_put_of_ne (others unfinished).symm]
  exact present

/-- Only a worker that sends waits for its send to be over. -/
theorem Posted.sender_ne {task : RunTask} (posted : Posted config stubs trace before letter)
    (found : before.tasks[id]? = some task)
    (quiet : ∀ worker unit channel, task = .worker worker → worker.phase ≠ .sending unit channel)
    (unfinished : letter.doneAt = none) : letter.sender ≠ id := by
  rintro rfl
  obtain ⟨worker, unit, present, sending⟩ := posted.sender unfinished
  rw [found] at present
  exact quiet worker unit letter.channel (Option.some.inj present) sending

private theorem echoed_of_put {task other : RunTask} {state : RunState}
    (echoed : Echoed config stubs trace before phase) (found : before.tasks[id]? = some task)
    (quiet : ∀ worker unit channel, task = .worker worker → worker.phase ≠ .sending unit channel)
    (letters : (traffic stubs (trace ++ [⟨before, act, before.put id (state, other)⟩])).letters =
      (traffic stubs trace).letters)
    (correlator : state.desk.ledger.correlator = before.common.desk.ledger.correlator)
    (awaits : Awaits config stubs (traffic stubs trace).letters before.view.now
      (lastStep 0 (trace ++ [⟨before, act, before.put id (state, other)⟩])) next) :
    Echoed config stubs (trace ++ [⟨before, act, before.put id (state, other)⟩])
      (before.put id (state, other)) next := by
  constructor
  case posted =>
    intro letter member
    rw [letters] at member
    have posted := echoed.posted letter member
    exact posted.put (posted.sender_ne found quiet)
  case entries =>
    intro seq
    rw [letters, echoed.entries]
    exact (congrArg (Correlator.entries · seq) correlator).symm
  case credited =>
    show Credited config _ state.desk.ledger.correlator
    rw [correlator]
    exact echoed.credited.append
  case awaits =>
    rw [letters]
    exact awaits

private theorem letters_of_conducts {state : RunState} (acts : act.task? = some id)
    (found : before.tasks[id]? = some (.conductor phase)) :
    (traffic stubs (trace ++ [⟨before, act, before.put id (state, .conductor next)⟩])).letters =
      (traffic stubs trace).letters := by
  rw [traffic_append]
  apply Traffic.letters_after acts
  · intro other channel payload begun
    exact Conductor.call?_ne_send (calls_of_begins? acts found begun)
  · intro other channel payload answer ended
    exact Conductor.call?_ne_send (called_of_ends? acts found ended).2

private theorem comesBefore_of_collected (echoed : Echoed config stubs trace before phase)
    (regular : Regular config plan trace before)
    (inTime : ∀ channel, (stubs channel).Echoes config.drainTimeout)
    (ended : config.senderWorkers ≤ before.common.ended) {deadline : Instant}
    (named : deadline? before.view.now config.drainTimeout = some deadline)
    (member : letter ∈ (traffic stubs trace).letters) : ComesBefore stubs deadline letter := by
  have posted := echoed.posted letter member
  cases done : letter.doneAt with
  | none =>
      obtain ⟨worker, unit, found, sending⟩ := posted.sender done
      have finished := regular.kept.isOver ended (List.mem_of_getElem? found) rfl
      rw [sending] at finished
      contradiction
  | some moment =>
      obtain ⟨_, past, _, delayed⟩ := posted.doneAt moment done
      obtain ⟨delay, isDelay⟩ := Option.isSome_iff_exists.mp delayed
      have less := (inTime letter.channel).inTime delay isDelay
      have travels : letter.travel stubs = delay.nanos := by
        rw [Letter.travel, isDelay]
        rfl
      refine ⟨moment, done, ?_⟩
      calc
        moment + letter.travel stubs = moment + delay.nanos := by rw [travels]
        _ < before.view.now + config.drainTimeout.nanos := Nat.add_lt_add_of_le_of_lt past less
        _ = deadline := (eq_add_of_deadline? named).symm

private theorem lt_of_draining {deadline : Instant}
    (echoed : Echoed config stubs trace before (.draining deadline))
    (left : before.common.inflight ≠ 0) : before.view.now < deadline := by
  obtain ⟨letter, member⟩ := echoed.exists_letter left
  obtain ⟨moment, done, soon⟩ := echoed.awaits letter member
  obtain ⟨_, _, due, _⟩ := (echoed.posted letter member).doneAt moment done
  exact Nat.lt_of_le_of_lt due soon

private theorem isClean_of_closing {later : RunState} {now : Instant} {channels : List ChannelId}
    {timedOut : Bool} (echoed : Echoed config stubs trace before (.closing channels timedOut))
    (paved : Paved config stubs trace before (.closing channels timedOut))
    (regular : Regular config plan trace before)
    (same : later = before.common.changeMetrics fun metrics => metrics.stop now) :
    (later.summary (before.common.generated.getD ⟨0, true⟩) timedOut now).IsClean := by
  obtain ⟨inTime, none⟩ := echoed.awaits
  obtain ⟨reported, _⟩ := regular.conducted.windsDown 0 _ paved.found rfl
  obtain ⟨report, isReport⟩ := Option.isSome_iff_exists.mp reported
  subst same
  constructor
  case abandoned => exact paved.abandoned
  case unacknowledged => exact echoed.letters_eq_nil_iff.mp none
  case unparseable => exact echoed.credited.unparseable
  case uncorrelated => exact echoed.credited.uncorrelated
  case interrupted =>
    show (_ || _ || _) = false
    rw [isReport, Option.getD_some, paved.reported report isReport]
    exact Bool.or_eq_false_iff.mpr ⟨paved.interrupted, paved.shutdown⟩
  case drainTimedOut => exact inTime

private theorem awaits_of_conducts {answer : Option Answer} {later : RunState}
    (echoed : Echoed config stubs trace before phase)
    (paved : Paved config stubs trace before phase)
    (regular : Regular config plan trace before) (valid : config.validate = .ok ())
    (inTime : ∀ channel, (stubs channel).Echoes config.drainTimeout)
    (goes : Conductor.Goes before.view id before.common phase answer later next) :
    Awaits config stubs (traffic stubs trace).letters before.view.now before.view.now next := by
  have config_eq := regular.staffed.config_eq
  have prepares : ∀ room progress, Awaits config stubs (traffic stubs trace).letters
      before.view.now before.view.now
      (Conductor.afterLookup before.common.config room progress) := by
    intro room progress
    cases progress with
    | going lookup => trivial
    | ended result =>
        rw [Conductor.afterLookup, Conductor.nextRoom]
        split <;> trivial
  cases goes with
  | refuses _ invalid =>
      rw [config_eq] at invalid
      cases valid.symm.trans invalid
  | hasNoPlan _ unplanned =>
      rw [config_eq] at unplanned
      exact absurd unplanned (Config.generatorPlan_ne_error valid)
  | begins | launches => trivial
  | looks | looksOn => exact prepares _ _
  | collects _ _ ended named =>
      rw [config_eq] at ended named
      exact fun letter => comesBefore_of_collected echoed regular inTime ended named
  | falls _ _ _ unnamed =>
      rw [config_eq] at unnamed
      exact unnamed
  | isDrained here drained =>
      subst here
      rcases drained with nothing | asked
      · exact ⟨rfl, echoed.letters_eq_nil_iff.mpr nothing⟩
      · rw [paved.shutdown] at asked
        contradiction
  | timesOut here left _ late =>
      subst here
      exact absurd late (Nat.not_le.mpr (lt_of_draining echoed left))
  | pauses here =>
      subst here
      rw [config_eq]
      exact ⟨echoed.awaits, rfl, Nat.le_add_right _ _⟩
  | clears here =>
      subst here
      exact echoed.awaits
  | wakes here =>
      subst here
      exact echoed.awaits.1
  | finishes here same =>
      subst here
      exact ⟨echoed.awaits.2, _, rfl, isClean_of_closing echoed paved regular same⟩

private theorem entries_eq_zero (regular : Regular config plan trace before)
    (distinct : (office.takenSeqs trace).Nodup) {worker : Worker} {unit : OutboundUnit}
    {channel : ChannelId} (found : before.tasks[id]? = some (.worker worker))
    (registering : worker.phase = .registering unit channel) :
    before.common.desk.ledger.correlator.entries unit.seq = 0 := by
  have single := regular.kept.custody.single distinct unit.seq
  have balance := regular.balance unit.seq
  have inHand : worker.pending unit.seq = 1 := by
    simp [Worker.pending, registering]
  have present : worker.pending unit.seq ≤ office.sum (Worker.pending unit.seq) before :=
    Office.le_sum (List.mem_of_getElem? found) rfl _
  omega

private theorem credited_of_enters {correlator : Correlator} {unit : OutboundUnit} {now : Instant}
    (credited : Credited config trace correlator) (known : Known config trace unit) :
    Credited config trace (correlator.onSend now unit) := by
  constructor
  case inflight =>
    intro entry member
    rcases List.mem_cons.mp member with rfl | old
    · exact ⟨unit, known, rfl, rfl, rfl⟩
    · exact credited.inflight entry (List.mem_filter.mp old).1
  case records => exact credited.records
  case unparseable => exact credited.unparseable
  case uncorrelated => exact credited.uncorrelated

private theorem echoed_of_enters {worker : Worker} {unit : OutboundUnit} {channel : ChannelId}
    {state : RunState} (echoed : Echoed config stubs trace before .awaiting)
    (known : Known config trace unit) (acts : act.task? = some id) (answered : act.answer? = none)
    (found : before.tasks[id]? = some (.worker worker))
    (registering : worker.phase = .registering unit channel)
    (fresh : before.common.desk.ledger.correlator.entries unit.seq = 0)
    (entered : state.desk.ledger.correlator =
      before.common.desk.ledger.correlator.onSend before.view.now unit) :
    Echoed config stubs
      (trace ++ [⟨before, act,
        before.put id (state, .worker (worker.goTo (.sending unit channel)))⟩])
      (before.put id (state, .worker (worker.goTo (.sending unit channel)))) .awaiting := by
  have quiet : ∀ own other way, RunTask.worker worker = .worker own →
      own.phase ≠ .sending other way := by
    rintro own other way ⟨⟩ sending
    rw [registering] at sending
    contradiction
  have letters : (traffic stubs (trace ++ [⟨before, act,
      before.put id (state, .worker (worker.goTo (.sending unit channel)))⟩])).letters =
        ⟨id, channel, unit.wireText, before.view.now, none⟩ :: (traffic stubs trace).letters := by
    rw [traffic_append, Traffic.after_of_begins acts answered found rfl]
    rfl
  constructor
  case posted =>
    intro letter member
    rw [letters, List.mem_cons] at member
    rcases member with rfl | old
    · refine ⟨⟨unit, known.append, rfl⟩, ?_, Nat.le_refl _, nofun⟩
      intro _
      refine ⟨worker.goTo (.sending unit channel), unit, ?_, rfl⟩
      exact Situation.tasks_put_self found _
    · have posted := echoed.posted letter old
      exact posted.put (posted.sender_ne found quiet)
  case entries =>
    intro seq
    show _ = state.desk.ledger.correlator.entries seq
    have own : Letter.carries seq ⟨id, channel, unit.wireText, before.view.now, none⟩ =
        (unit.seq == seq) :=
      @Letter.carries_of_sent ⟨id, channel, unit.wireText, before.view.now, none⟩ unit rfl seq
    rw [entered, Correlator.entries_onSend, letters, List.countP_cons, echoed.entries, own]
    simp only [beq_iff_eq]
    by_cases same : unit.seq = seq
    · rw [if_pos same, if_pos same.symm, ← same, fresh]
    · rw [if_neg same, if_neg (Ne.symm same), Nat.add_zero]
  case credited =>
    show Credited config _ state.desk.ledger.correlator
    rw [entered]
    exact (credited_of_enters echoed.credited known).append
  case awaits => trivial

private theorem posted_endBy (posted : Posted config stubs trace before letter)
    {next : RunTask} {state : RunState}
    (delayed : letter.sender = id → letter.doneAt = none → (letter.delay? stubs).isSome = true) :
    Posted config stubs (trace ++ [transition]) (before.put id (state, next))
      (letter.endBy id before.view.now) := by
  rw [Letter.endBy]
  split
  case isTrue ends =>
    rw [Bool.and_eq_true, decide_eq_true_eq, Option.isNone_iff_eq_none] at ends
    obtain ⟨unit, known, sent⟩ := posted.known
    refine ⟨⟨unit, known.append, sent⟩, nofun, posted.begun, ?_⟩
    rintro moment ⟨⟩
    exact ⟨posted.begun, Nat.le_refl _, Nat.le_add_right _ _, delayed ends.1 ends.2⟩
  case isFalse stays =>
    apply posted.put
    rintro unfinished same
    apply stays
    simp [same, unfinished]

private theorem echoed_of_sends {worker : Worker} {unit : OutboundUnit} {channel : ChannelId}
    {state : RunState} (echoed : Echoed config stubs trace before .awaiting)
    (acts : act.task? = some id) (answered : act.answer? = some .done)
    (found : before.tasks[id]? = some (.worker worker))
    (sending : worker.phase = .sending unit channel)
    (relies : Relies stubs trace before id act.answer? worker.call?)
    (same : state.desk.ledger.correlator = before.common.desk.ledger.correlator) :
    Echoed config stubs (trace ++ [⟨before, act, before.put id (state, .worker worker.deliver)⟩])
      (before.put id (state, .worker worker.deliver)) .awaiting := by
  have waits : worker.call? = some (.send channel unit.wireText) := by
    rw [Worker.call?, sending]
  have letters : (traffic stubs (trace ++ [⟨before, act,
      before.put id (state, .worker worker.deliver)⟩])).letters =
        (traffic stubs trace).letters.map (Letter.endBy id before.view.now) := by
    rw [traffic_append, Traffic.after_of_ends acts answered found waits rfl]
    rfl
  have carries : ∀ seq,
      Letter.carries seq ∘ Letter.endBy id before.view.now = Letter.carries seq := by
    intro seq
    funext letter
    rw [Function.comp_apply, Letter.endBy]
    split <;> rfl
  have delayed := List.all_eq_true.mp (relies.ended _ _ answered waits)
  constructor
  case posted =>
    intro letter member
    rw [letters, List.mem_map] at member
    obtain ⟨own, old, rfl⟩ := member
    apply posted_endBy (echoed.posted own old)
    intro sender unfinished
    have either := delayed own old
    rw [(Letter.congr_scripts script_traffic).2.1] at either
    simpa [sender, unfinished] using either
  case entries =>
    intro seq
    show _ = state.desk.ledger.correlator.entries seq
    rw [same, letters, List.countP_map, carries, echoed.entries]
  case credited =>
    show Credited config _ state.desk.ledger.correlator
    rw [same]
    exact echoed.credited.append
  case awaits => trivial

theorem Awaits.mono {letters fewer : List Letter} {now later rested : Instant}
    (awaits : Awaits config stubs letters now rested phase) (part : fewer ⊆ letters)
    (soon : ∀ deadline interval, phase = .pausing deadline interval →
      later ≤ rested + interval.nanos) : Awaits config stubs fewer later rested phase := by
  cases phase with
  | draining deadline => exact fun letter member => awaits letter (part member)
  | pausing deadline interval =>
      obtain ⟨comes, polls, _⟩ := awaits
      exact ⟨fun letter member => comes letter (part member), polls, soon deadline interval rfl⟩
  | clearing timedOut | closing channels timedOut =>
      obtain ⟨inTime, rfl⟩ := awaits
      exact ⟨inTime, List.subset_nil.mp part⟩
  | finished result =>
      obtain ⟨rfl, summary⟩ := awaits
      exact ⟨List.subset_nil.mp part, summary⟩
  | _ => exact awaits

/-- A frame turns the entry of a known unit into a record. -/
private theorem credited_of_hears {correlator : Correlator} {now : Instant} {text : String}
    {seq : SeqId} {entry : InFlight} (credited : Credited config trace correlator)
    (read : Correlator.readAck? text = some (seq, .ok))
    (found : correlator.entry? seq = some entry) :
    Credited config trace (correlator.onAck now text).2 := by
  obtain ⟨front, back, split, _⟩ := List.lookup_eq_some_iff.mp found
  have member : (seq, entry) ∈ correlator.inflight := by
    rw [split]
    exact List.mem_append_right _ List.mem_cons_self
  simp only [Correlator.onAck, read, found]
  constructor
  case inflight =>
    intro other kept
    exact credited.inflight other (List.mem_filter.mp kept).1
  case records =>
    intro record recorded
    rcases List.mem_cons.mp recorded with rfl | old
    · exact ⟨rfl, credited.inflight (seq, entry) member⟩
    · exact credited.records record old
  case unparseable => exact credited.unparseable
  case uncorrelated => exact credited.uncorrelated

private theorem entries_of_hears {correlator : Correlator} {now : Instant} {text : String}
    {seq other : SeqId} {entry : InFlight} (read : Correlator.readAck? text = some (seq, .ok))
    (found : correlator.entry? seq = some entry) :
    (correlator.onAck now text).2.entries other =
      if other = seq then 0 else correlator.entries other := by
  simp only [Correlator.onAck, read, found]
  exact Correlator.entries_without

theorem correlator_onAck (ledger : Ledger) (now : Instant) (text : String) :
    (ledger.onAck now text).2.correlator = (ledger.correlator.onAck now text).2 := by
  unfold Ledger.onAck
  dsimp only
  split <;> rfl

theorem Echoed.exists_entry {text : String} (echoed : Echoed config stubs trace before phase)
    (listens : ∀ channel, (stubs channel).script.listens = true)
    (heard : (traffic stubs trace).letters.any
      (Letter.isIn (traffic stubs trace).stubs before.view.now text) = true) :
    ∃ seq entry, Correlator.readAck? text = some (seq, .ok) ∧
      before.common.desk.ledger.correlator.entry? seq = some entry ∧
      ∀ other, before.common.desk.ledger.correlator.entries other =
        ((traffic stubs trace).letters.eraseP
          (Letter.isIn (traffic stubs trace).stubs before.view.now text)).countP
            (Letter.carries other) + if seq = other then 1 else 0 := by
  obtain ⟨someone, present, matching⟩ := List.any_eq_true.mp heard
  obtain ⟨letter, front, back, _, isIn, split, rest⟩ := List.exists_of_eraseP present matching
  have member : letter ∈ (traffic stubs trace).letters := by
    rw [split]
    exact List.mem_append_right _ List.mem_cons_self
  obtain ⟨unit, known, sent⟩ := (echoed.posted letter member).known
  rw [(Letter.congr_scripts script_traffic).2.2.2] at isIn
  have read := Letter.readAck?_of_isIn (listens letter.channel) sent isIn
  have counts : ∀ other, before.common.desk.ledger.correlator.entries other =
      ((traffic stubs trace).letters.eraseP
        (Letter.isIn (traffic stubs trace).stubs before.view.now text)).countP
          (Letter.carries other) + if unit.seq = other then 1 else 0 := by
    intro other
    rw [← echoed.entries, rest, split, List.countP_append, List.countP_cons, List.countP_append,
      Letter.carries_of_sent sent]
    simp only [beq_iff_eq]
    omega
  cases found : before.common.desk.ledger.correlator.entry? unit.seq with
  | none =>
      have nothing := Correlator.entry?_eq_none_iff.mp found
      have one := counts unit.seq
      rw [if_pos rfl] at one
      omega
  | some entry => exact ⟨unit.seq, entry, read, found, counts⟩

private theorem echoed_of_hears {text : String} (echoed : Echoed config stubs trace before phase)
    (regular : Regular config plan trace before) (distinct : (office.takenSeqs trace).Nodup)
    (listens : ∀ channel, (stubs channel).script.listens = true)
    (heard : (traffic stubs trace).letters.any
      (Letter.isIn (traffic stubs trace).stubs before.view.now text) = true) :
    Echoed config stubs
      (trace ++ [⟨before, .frame text,
        { before with common.desk := before.common.desk.receive before.view.now text }⟩])
      { before with common.desk := before.common.desk.receive before.view.now text } phase := by
  obtain ⟨seq, entry, read, found, counts⟩ := echoed.exists_entry listens heard
  have letters : (traffic stubs (trace ++ [⟨before, .frame text, { before with
      common.desk := before.common.desk.receive before.view.now text }⟩])).letters =
        (traffic stubs trace).letters.eraseP
          (Letter.isIn (traffic stubs trace).stubs before.view.now text) := by
    rw [traffic_append]
    rfl
  have same : (before.common.desk.receive before.view.now text).ledger.correlator =
      (before.common.desk.ledger.correlator.onAck before.view.now text).2 :=
    correlator_onAck _ _ _
  constructor
  case posted =>
    intro letter kept
    rw [letters] at kept
    have posted := echoed.posted letter (List.mem_of_mem_eraseP kept)
    obtain ⟨own, knownOwn, sentOwn⟩ := posted.known
    exact ⟨⟨own, knownOwn.append, sentOwn⟩, posted.sender, posted.begun, posted.doneAt⟩
  case entries =>
    intro other
    show _ = (before.common.desk.receive before.view.now text).ledger.correlator.entries other
    rw [letters, same, entries_of_hears read found]
    have inHand := regular.kept.custody.single distinct other
    have balance := regular.balance other
    have count := counts other
    split
    case isTrue isOwn =>
      rw [if_pos isOwn.symm] at count
      omega
    case isFalse different =>
      rw [if_neg (Ne.symm different)] at count
      exact count.symm
  case credited =>
    show Credited config _ (before.common.desk.receive before.view.now text).ledger.correlator
    rw [same]
    exact (credited_of_hears echoed.credited read found).append
  case awaits =>
    rw [letters, lastStep_append_of_ne]
    · apply echoed.awaits.mono fun letter => List.mem_of_mem_eraseP
      rintro deadline interval rfl
      exact echoed.awaits.2.2
    · exact nofun

private theorem echoed_of_idle (echoed : Echoed config stubs trace before phase)
    (idle : act.task? = none) (noFrame : ∀ text, act ≠ .frame text)
    (tasks : after.tasks = before.tasks)
    (correlator : after.common.desk.ledger.correlator = before.common.desk.ledger.correlator)
    (later : before.view.now ≤ after.view.now)
    (inTime : ∀ letter ∈ (traffic stubs trace).letters, ∀ moment, letter.doneAt = some moment →
      after.view.now ≤ moment + letter.travel stubs)
    (soon : ∀ deadline interval, phase = .pausing deadline interval →
      after.view.now ≤ lastStep 0 trace + interval.nanos) :
    Echoed config stubs (trace ++ [⟨before, act, after⟩]) after phase := by
  have unchanged : traffic stubs (trace ++ [⟨before, act, after⟩]) = traffic stubs trace := by
    rw [traffic_append]
    exact Traffic.after_of_idle idle noFrame
  constructor
  case posted =>
    intro letter member
    rw [unchanged] at member
    have posted := echoed.posted letter member
    obtain ⟨unit, known, sent⟩ := posted.known
    refine ⟨⟨unit, known.append, sent⟩, ?_, Nat.le_trans posted.begun later, ?_⟩
    · rw [tasks]
      exact posted.sender
    · intro moment done
      obtain ⟨begun, past, _, delayed⟩ := posted.doneAt moment done
      exact ⟨begun, Nat.le_trans past later, inTime letter member moment done, delayed⟩
  case entries =>
    rw [unchanged, correlator]
    exact echoed.entries
  case credited =>
    rw [correlator]
    exact echoed.credited.append
  case awaits =>
    rw [unchanged, lastStep_append_of_ne (by simp [idle])]
    exact echoed.awaits.mono (List.Subset.refl _) soon

private theorem echoed_of_shifts {view : View} (echoed : Echoed config stubs trace before phase)
    (paved : Paved config stubs trace before phase) (later : before.view.now ≤ view.now)
    (due : ∀ alarm ∈ alarms stubs trace before, view.now ≤ alarm) :
    Echoed config stubs (trace ++ [⟨before, .shift, { before with view := view }⟩])
      { before with view := view } phase := by
  refine echoed_of_idle echoed rfl (fun _ => nofun) rfl rfl later ?_ ?_
  · intro letter member moment done
    apply due
    rw [alarms, List.mem_append, List.mem_filterMap]
    refine .inl ⟨letter, member, ?_⟩
    rw [(Letter.congr_scripts script_traffic).2.2.1, Letter.due?, done]
    rfl
  · rintro deadline interval rfl
    apply due
    rw [alarms, List.mem_append, List.mem_filterMap, List.mem_filterMap]
    obtain ⟨inside, _⟩ := List.getElem?_eq_some_iff.mp paved.found
    refine .inr ⟨0, List.mem_range.mpr inside, ?_⟩
    rw [wakesAt?, paved.found]
    rfl

variable {source : RandomSource} {view : View} {last : Situation RunState RunTask}

private theorem echoed_start :
    Echoed config stubs [] ⟨.start config false, tasks config source, view⟩ .starting := by
  constructor
  case posted => exact nofun
  case entries => exact fun _ => rfl
  case credited => exact ⟨nofun, nofun, rfl, rfl⟩
  case awaits => trivial

private theorem echoed_of_works {worker later : Worker} {desk : Desk}
    (echoed : Echoed config stubs trace before phase)
    (paved : Paved config stubs trace before phase)
    (regular : Regular config plan trace before) (valid : config.validate = .ok ())
    (distinct : (office.takenSeqs trace).Nodup) (acts : act.task? = some id)
    (present : before.tasks[id]? = some (.worker worker))
    (goes : worker.Goes before.view id before.common.desk act.answer? desk later)
    (launched : act.answer? = none → before.common.launched = true)
    (relies : Relies stubs trace before id act.answer? worker.call?) :
    Echoed config stubs
      (trace ++ [⟨before, act,
        before.put id (RunTask.withWorker before.common desk later, .worker later)⟩])
      (before.put id (RunTask.withWorker before.common desk later, .worker later)) phase := by
  obtain ⟨rfl, _, strides⟩ := paved.strides regular valid present goes launched relies
  generalize answered : act.answer? = answer at strides
  cases strides with
  | comesOn _ ledger _ waited waits =>
      refine echoed_of_put echoed present ?_ ?_ (congrArg Ledger.correlator ledger) trivial
      · rintro _ unit channel ⟨⟩ sending
        rw [Worker.call?, sending] at waited
        contradiction
      · rw [traffic_append]
        exact congrArg Traffic.letters (Traffic.after_of_moves acts present waited waits)
  | enters known registering =>
      exact echoed_of_enters echoed known acts answered present registering
        (entries_eq_zero regular distinct present registering) rfl
  | sends _ sending => exact echoed_of_sends echoed acts answered present sending relies rfl

private theorem Echoed.step (echoed : Echoed config stubs trace before phase)
    (paved : Paved config stubs trace before phase) (regular : Regular config plan trace before)
    (valid : config.validate = .ok ()) (distinct : (office.takenSeqs trace).Nodup)
    (inTime : ∀ channel, (stubs channel).Echoes config.drainTimeout)
    (proceeds : Proceeds stubs trace before act after)
    (found : after.tasks[0]? = some (.conductor next)) :
    Echoed config stubs (trace ++ [⟨before, act, after⟩]) after next := by
  have due : ∀ letter ∈ (traffic stubs trace).letters, ∀ moment, letter.doneAt = some moment →
      before.view.now ≤ moment + letter.travel stubs := by
    intro letter member moment done
    exact ((echoed.posted letter member).doneAt moment done).2.2.1
  have resting : ∀ deadline interval, phase = .pausing deadline interval →
      before.view.now ≤ lastStep 0 trace + interval.nanos := by
    rintro deadline interval rfl
    exact echoed.awaits.2.2
  cases proceeds with
  | conducts acts present goes =>
      obtain rfl := regular.staffed.first _ _ present
      have same := paved.found
      rw [present] at same
      cases same
      rw [Situation.tasks_put_self present] at found
      cases found
      apply echoed_of_put echoed present (fun _ _ _ => nofun) (letters_of_conducts acts present)
        goes.advances.desk_eq.2.2.2.2.2.2.1
      rw [lastStep_append_of_acts acts]
      exact awaits_of_conducts echoed paved regular valid inTime goes
  | @generates place _ _ _ acts present =>
      rw [stays_of_put paved.found present nofun] at found
      cases found
      have apart : act.task? ≠ some 0 := by
        rw [acts]
        rintro ⟨⟩
        rw [paved.found] at present
        cases present
      refine echoed_of_put echoed present (fun _ _ _ => nofun) ?_ rfl ?_
      · rw [traffic_append, Traffic.after_of_moves acts present rfl rfl]
      · rw [lastStep_append_of_ne apart]
        exact echoed.awaits
  | works acts present goes launched relies =>
      rw [stays_of_put paved.found present nofun] at found
      cases found
      exact echoed_of_works echoed paved regular valid distinct acts present goes launched relies
  | hears acts heard =>
      subst acts
      cases paved.found.symm.trans found
      exact echoed_of_hears echoed regular distinct (fun channel => (inTime channel).listens) heard
  | counts acts =>
      subst acts
      cases paved.found.symm.trans found
      exact echoed_of_idle echoed rfl (fun _ => nofun) rfl rfl (Nat.le_refl _) due resting
  | shifts acts early alarmed =>
      subst acts
      cases paved.found.symm.trans found
      exact echoed_of_shifts echoed paved early alarmed

/-- Echoes and entries in flight always belong together. -/
theorem echoed_of_run (valid : config.validate = .ok ())
    (planned : config.generatorPlan = .ok plan) (bounded : config.totalMessages < Text.word64)
    (inTime : ∀ channel, (stubs channel).Echoes config.drainTimeout)
    (run : mainPhase.Run (punctual stubs) ⟨.start config false, tasks config source, view⟩
      trace last)
    (found : last.tasks[0]? = some (.conductor phase)) :
    Echoed config stubs trace last phase := by
  obtain ⟨_, _, _, own, isPlan, total, _⟩ := Config.of_validate valid
  rw [isPlan] at planned
  cases planned
  induction run generalizing phase with
  | rest =>
      rcases of_found_start valid isPlan found with ⟨_, same⟩ | same | same
      · cases same
        exact echoed_start
      · cases same
      · cases same
  | step run step allowed induction =>
      obtain ⟨regular, own, paved⟩ := paved_of_run valid isPlan bounded inTime run
      obtain ⟨generator, stream⟩ := regular.kept.stream
      have distinct := stream.nodup_seqs (total ▸ Nat.le_of_lt bounded)
      exact (induction paved.found).step paved regular valid distinct inTime
        (proceeds_of_step step allowed) found

/-- All that is known of a run before a faultless service. -/
structure Untroubled (config : Config) (plan : GeneratorPlan) (stubs : Stubs)
    (trace : List (Transition RunState RunTask)) (situation : Situation RunState RunTask)
    (phase : ConductorPhase) : Prop where
  regular : Regular config plan trace situation
  paved : Paved config stubs trace situation phase
  echoed : Echoed config stubs trace situation phase

theorem untroubled_of_run (valid : config.validate = .ok ())
    (planned : config.generatorPlan = .ok plan) (bounded : config.totalMessages < Text.word64)
    (inTime : ∀ channel, (stubs channel).Echoes config.drainTimeout)
    (run : mainPhase.Run (punctual stubs) ⟨.start config false, tasks config source, view⟩
      trace last) :
    ∃ phase, Untroubled config plan stubs trace last phase := by
  obtain ⟨regular, phase, paved⟩ := paved_of_run valid planned bounded inTime run
  have echoed := echoed_of_run valid planned bounded inTime run paved.found
  exact ⟨phase, regular, paved, echoed⟩

end MainPhase

end RoomLoad
