import RoomLoad.Proofs.Faultless.Rounds

/-!
# A faultless service is measured completely

A run before a faultless service goes on until its conductor comes to its end, and then
every unit was sent and acknowledged once.  The one thing that can come between is a drain
timeout that reaches beyond the last moment that the clock can name.
-/

namespace RoomLoad

namespace IdRange

variable {range : IdRange} {number : UInt32}

theorem mem_upTo : number ∈ range.upTo (range.high.toNat + 1) ↔ range.holds number = true := by
  have top := range.high.toNat_lt
  rw [upTo, List.mem_map, holds, Bool.and_eq_true, decide_eq_true_eq, decide_eq_true_eq,
    UInt32.le_iff_toNat_le, UInt32.le_iff_toNat_le]
  constructor
  · rintro ⟨inner, member, rfl⟩
    rw [List.mem_range'_1] at member
    rw [UInt32.toNat_ofNat', Nat.mod_eq_of_lt (by omega)]
    omega
  · intro inside
    refine ⟨number.toNat, ?_, UInt32.ofNat_toNat⟩
    rw [List.mem_range'_1]
    omega

theorem nodup_upTo : (range.upTo (range.high.toNat + 1)).Nodup := by
  have top := range.high.toNat_lt
  rw [List.Nodup, upTo, List.pairwise_map]
  refine List.Pairwise.imp_of_mem ?_ List.pairwise_lt_range'
  intro first second inRange alsoInRange before same
  rw [List.mem_range'_1] at inRange alsoInRange
  have values := congrArg UInt32.toNat same
  rw [UInt32.toNat_ofNat', UInt32.toNat_ofNat', Nat.mod_eq_of_lt (by omega),
    Nat.mod_eq_of_lt (by omega)] at values
  omega

end IdRange

namespace MainPhase

variable {stubs : Stubs} {trace : List (Transition RunState RunTask)}
  {last : Situation RunState RunTask} {config : Config} {plan : GeneratorPlan}
  {phase : ConductorPhase} {source : RandomSource} {view : View}

/-- What has been measured when every unit was sent and acknowledged once. -/
structure Measured (config : Config) (trace : List (Transition RunState RunTask))
    (last : Situation RunState RunTask) (summary : RunSummary) : Prop where
  clean : summary.IsClean
  sent : summary.sent = config.totalMessages
  success : summary.metrics.success = config.totalMessages
  failure : summary.metrics.failure = 0
  /-- Every unit was generated and recorded once. -/
  generated : (fedBy 1 trace).filterMap Envelope.seq? =
    (List.range config.totalMessages).map UInt64.ofNat
  seqs : (last.common.desk.ledger.correlator.records.map fun record => record.seq).Perm
    ((List.range config.totalMessages).map UInt64.ofNat)
  records : ∀ record ∈ last.common.desk.ledger.correlator.records, record.status = .ok ∧
    ∃ unit, .unit unit ∈ fedBy 1 trace ∧ unit.seq = record.seq ∧ unit.kind = record.kind ∧
      unit.room = record.room
  connects : ∀ room, (connects trace).count room = if config.rooms.holds room then 1 else 0

/-- The workers have taken all units once the conductor no longer waits for them. -/
theorem Paved.takenSeqs_eq (paved : Paved config stubs trace last phase)
    (regular : Regular config plan trace last) (manned : 1 ≤ config.senderWorkers)
    (collected : Conductor.hasCollected phase = true) :
    office.takenSeqs trace = plan.seqs := by
  obtain ⟨reported, ended⟩ := paved.collected collected
  obtain ⟨report, isReport⟩ := Option.isSome_iff_exists.mp reported
  obtain ⟨generator, stream⟩ := regular.kept.stream
  obtain ⟨_, seqs, whole⟩ := stream.of_reported isReport
  have exhausted := regular.kept.exhausted manned ended paved.interrupted
  rw [exhausted.seqs_eq_nil stream, List.append_nil, whole (paved.reported report isReport),
    List.take_of_length_le (Nat.le_of_eq GeneratorPlan.length_seqs)] at seqs
  exact seqs

theorem Regular.fed_eq (regular : Regular config plan trace last)
    (uninterrupted : ∀ report, last.common.generated = some report → report.interrupted = false)
    (reported : last.common.generated.isSome = true) :
    (fedBy 1 trace).filterMap Envelope.seq? = plan.seqs := by
  obtain ⟨report, isReport⟩ := Option.isSome_iff_exists.mp reported
  obtain ⟨generator, stream⟩ := regular.kept.stream
  have supplies := regular.supplies 1 generator stream.found
  rw [stream.reported] at isReport
  obtain ⟨units, enough, interrupted⟩ := supplies.reports isReport
  have calm := uninterrupted report (stream.reported.trans isReport)
  have all : report.produced = plan.total := by
    apply Nat.le_antisymm enough
    apply Nat.le_of_not_lt
    rw [← interrupted, calm]
    exact Bool.false_ne_true
  rw [units, all, List.take_of_length_le (Nat.le_of_eq GeneratorPlan.length_seqs)]

/-- Every unit that was taken has its record when no echo is to come any more. -/
theorem Untroubled.recordsOf_eq (untroubled : Untroubled config plan stubs trace last phase)
    (ended : config.senderWorkers ≤ last.common.ended)
    (none : (traffic stubs trace).letters = []) (seq : SeqId) :
    last.common.desk.ledger.correlator.recordsOf seq = (office.takenSeqs trace).count seq := by
  obtain ⟨regular, paved, echoed⟩ := untroubled
  have entries := echoed.entries seq
  rw [none, List.countP_nil] at entries
  have abandoned := regular.kept.tally_abandoned ended
  rw [paved.abandoned] at abandoned
  have nothing := List.length_eq_zero_iff.mp abandoned.symm
  have whole := regular.kept.custody.whole seq
  have balance := regular.balance seq
  rw [regular.kept.entered_eq_zero ended, regular.kept.pending_eq_zero ended, nothing,
    List.count_nil] at whole
  rw [regular.kept.entered_eq_zero ended, ← entries] at balance
  omega

private theorem measured_of_finished {result : Except Fault RunSummary}
    (untroubled : Untroubled config plan stubs trace last (.finished result))
    (valid : config.validate = .ok ())
    (total : plan.total = config.totalMessages) :
    ∃ summary, result = .ok summary ∧ Measured config trace last summary := by
  have ⟨regular, paved, echoed⟩ := untroubled
  obtain ⟨none, summary, rfl, clean⟩ := echoed.awaits
  obtain ⟨reported, ended⟩ := paved.collected rfl
  have manned := (Config.of_validate valid).2.1
  have closes := regular.conducted.closes 0 summary paved.found
  obtain ⟨_, disposed, _⟩ := closes.complete clean.interrupted
  have deliveries := closes.deliveries
  rw [clean.unacknowledged, Nat.add_zero] at deliveries
  rw [clean.abandoned, Nat.add_zero, closes.total] at disposed
  have planned : plan.seqs = (List.range config.totalMessages).map UInt64.ofNat := by
    rw [GeneratorPlan.seqs, total]
  refine ⟨summary, rfl, ?_⟩
  constructor
  case clean => exact clean
  case sent => exact disposed
  case success => exact deliveries.trans disposed
  case failure => exact closes.failures.trans clean.abandoned
  case generated =>
    rw [← planned]
    exact regular.fed_eq paved.reported reported
  case seqs =>
    rw [← planned, ← paved.takenSeqs_eq regular manned rfl, List.perm_iff_count]
    intro seq
    rw [← untroubled.recordsOf_eq ended none, Correlator.recordsOf_eq_count,
      Correlator.records, List.map_reverse, List.count_reverse]
  case records =>
    intro record member
    obtain ⟨status, unit, known, same⟩ :=
      echoed.credited.records record (List.mem_reverse.mp member)
    exact ⟨status, unit, known.fed, same⟩
  case connects =>
    intro room
    rw [paved.paves, IdRange.nodup_upTo.count]
    simp only [IdRange.mem_upTo]

/-- Before a service without faults every unit is measured exactly once, whatever accepted
settings a run has and in whatever order things happen: as long as the conductor has not
come to its end somebody goes on, there is only so much to do, and a conductor that has
finished has measured everything.  It goes down only when the clock cannot name the moment
at which the drain times out, and never finishes when the clock can name no moment so far
away. -/
theorem measures_of_run (valid : config.validate = .ok ())
    (patient : 0 < config.drainPollInterval.nanos) (bounded : config.totalMessages < Text.word64)
    (faultless : ∀ channel, (stubs channel).Echoes config.drainTimeout)
    (run : mainPhase.Run (punctual stubs) ⟨.start config false, tasks config source, view⟩
      trace last) :
    ∃ phase, last.tasks[0]? = some (.conductor phase) ∧
      (∀ result, phase = .finished result →
        ∃ summary, result = .ok summary ∧ Measured config trace last summary) ∧
      ((RunTask.conductor phase).isOver = false →
        Resumes stubs ⟨.start config false, tasks config source, view⟩ trace last) ∧
      workIn trace ≤ 10 * config.totalMessages + 7 * config.senderWorkers +
        6 * (config.rooms.high.toNat - config.rooms.low.toNat) +
        2 * (config.drainTimeout.nanos / config.drainPollInterval.nanos) + 16 ∧
      (phase = .crashed → deadline? (lastStep 0 trace) config.drainTimeout = none) ∧
      (deadline? 0 config.drainTimeout = none → ∀ result, phase ≠ .finished result) := by
  obtain ⟨_, _, _, plan, planned, total, _⟩ := Config.of_validate valid
  obtain ⟨phase, untroubled⟩ := untroubled_of_run valid planned bounded faultless run
  have paved := untroubled.paved
  refine ⟨phase, paved.found, ?_, ?_, workIn_le_of_run valid patient bounded faultless run, ?_, ?_⟩
  · rintro result rfl
    exact measured_of_finished untroubled valid total
  · exact resumes_of_run valid planned bounded faultless run paved.found
  · rintro rfl
    exact untroubled.echoed.awaits
  · rintro unnamed result rfl
    rcases paved.named rfl with contrary | named
    · contradiction
    · rw [unnamed] at named
      contradiction

/-- One unit for one of two rooms, and some patience at the end. -/
def lenient : Config :=
  { brief with
    totalMessages := 1
    rooms := ⟨1, 2⟩
    drainTimeout := .ofMillis 20
    drainPollInterval := .ofMillis 10 }

/-- Every channel echoes five milliseconds later. -/
def trailing : Stubs := fun _ =>
  .opened { StubScript.plain with listens := true, echoDelay := some (.ofMillis 5) }

theorem trailing_echoes (channel : ChannelId) :
    (trailing channel).Echoes lenient.drainTimeout := by
  constructor
  case delivers => exact ⟨rfl, rfl, rfl⟩
  case listens => rfl
  case lasts => rfl
  case isOpen => rfl
  case inTime =>
    rintro delay ⟨⟩
    decide

/-- The worker has ended and the conductor sleeps when the echo comes. -/
def trailingCourse : List (Cue RunState RunTask) :=
  let unit : OutboundUnit := ⟨0, 1, "user1", "Message-1", 1, .text, .ofInstant 0, 0⟩
  List.flatten
    [List.replicate 5 (.move 0 0), [.answer 0 (.connected 0)],
      List.replicate 4 (.move 0 0), [.answer 0 (.connected 1), .move 0 0],
      List.replicate 5 (.move 1 0),
      List.replicate 6 (.move 2 0), [.answer 2 .done, .move 2 0, .move 2 0],
      [.move 0 0, .move 0 0, .shift ⟨5000000, fun _ => true⟩,
        .frame (AckFrame.echo unit.payload (.ofInstant 0)).wireText],
      [.shift ⟨10000000, fun _ => true⟩, .answer 0 .done, .move 0 0, .move 0 0, .answer 0 .done]]

theorem measures_of_run_of_trailing :
    ∃ source view trace last summary,
      mainPhase.Run (punctual trailing) ⟨.start lenient false, tasks lenient source, view⟩
        trace last ∧
      (∀ channel, (trailing channel).Echoes lenient.drainTimeout) ∧
      last.tasks[0]? = some (.conductor (.finished (.ok summary))) ∧
      Measured lenient trace last summary ∧ summary.metrics.success = 1 ∧
      workIn trace ≤ 43 := by
  let source : RandomSource := .scripted [] 0
  let view : View := ⟨0, fun _ => true⟩
  have sound : lenient.defect? = none := by decide +kernel
  have valid : lenient.validate = .ok () := by
    rw [Config.validate, sound]
  have patient : 0 < lenient.drainPollInterval.nanos := by decide
  have bounded : lenient.totalMessages < Text.word64 := by decide
  have replayed : (mainPhase.replay (isPunctual trailing) []
      ⟨.start lenient false, tasks lenient source, view⟩ trailingCourse).any
      (fun ending => (summary? ending.2).isSome) = true := by
    decide +kernel
  obtain ⟨trace, last, run, shown⟩ :=
    System.exists_run_of_replay (fun _ _ allowed => allowed) replayed
  obtain ⟨summary, ended⟩ := Option.isSome_iff_exists.mp shown
  obtain ⟨phase, found, measures, _, few, _⟩ :=
    measures_of_run valid patient bounded trailing_echoes run
  have finished : phase = .finished (.ok summary) := by
    rw [summary?, List.head?_eq_getElem?, found] at ended
    split at ended
    case h_1 own same =>
      cases ended
      cases same
      rfl
    case h_2 => contradiction
  obtain ⟨_, same, measured⟩ := measures _ finished
  cases same
  refine ⟨source, view, trace, last, summary, run, trailing_echoes, ?_, measured,
    measured.success, few⟩
  rw [found, finished]

end MainPhase

end RoomLoad
