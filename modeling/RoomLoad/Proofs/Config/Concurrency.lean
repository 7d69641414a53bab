import RoomLoad.Program
import RoomLoad.Proofs.Config.Acceptance
import RoomLoad.Proofs.Config.Configured

/-!
# The concurrency of a run

Little's law is applied to the number of messages that are under way at a time: the workers,
times what each of them is assumed to have under way.  The settings leave room for each of
the two numbers in a 64-bit word, but not for their product.  Where it fits the concurrency
is that of the product; where it does not, the reckoning goes down, and with it a run that
has come to its end otherwise.
-/

namespace RoomLoad.Config

variable {config : Config} {workers depth : Nat}

theorem underWay?_eq_some_iff {word : UInt64} :
    config.underWay? = some word ↔ word.toNat = config.senderWorkers * config.pipelineDepth := by
  unfold underWay?
  dsimp only
  constructor
  · intro fits
    split at fits
    case isTrue small =>
      cases fits
      exact UInt64.toNat_ofNat_of_lt small
    case isFalse => contradiction
  · intro same
    have small : config.senderWorkers * config.pipelineDepth < Text.word64 :=
      same ▸ UInt64.toNat_lt word
    rw [if_pos small, ← same, UInt64.ofNat_toNat]

theorem underWay?_eq_none_iff :
    config.underWay? = none ↔ Text.word64 ≤ config.senderWorkers * config.pipelineDepth := by
  unfold underWay?
  dsimp only
  split
  case isTrue small => simp [Nat.not_le.mpr small]
  case isFalse large => simp [Nat.not_lt.mp large]

/-- The standard settings with so many workers and so deep a pipeline. -/
def crewed (workers depth : Nat) : Config :=
  { standard with senderWorkers := workers, pipelineDepth := depth }

theorem configured_crewed (someWorkers : workers < Text.word64) (shallow : depth < Text.word64) :
    Configured (crewed workers depth) := by
  refine configured_iff_inRange.mpr ⟨?_, rfl, rfl, rfl⟩
  intro quantity
  cases quantity with
  | workers => exact (Quantity.fits_iff_lt rfl).mpr someWorkers
  | pipelineDepth => exact (Quantity.fits_iff_lt rfl).mpr shallow
  | _ => exact fits_standard _

theorem accepted_crewed (manned : 1 ≤ workers) (deep : 1 ≤ depth) :
    (crewed workers depth).Accepted :=
  { accepted_standard with manned := manned, somePipeline := deep }

variable {ended : MainPhase.World} {warmed : Option WarmupReport} {probed : Option ProbeReport}

theorem reportOn_eq_ok_iff {report : RunReport} :
    Program.reportOn config ended warmed probed = .ok report ↔
      ∃ summary concurrency, MainPhase.result? ended = some (.ok summary) ∧
        config.concurrency? = some concurrency ∧
        report = .build summary (MainPhase.records ended) warmed probed concurrency := by
  unfold Program.reportOn
  constructor
  · intro reports
    split at reports
    case h_1 summary concurrency isSummary reckoned =>
      cases reports
      exact ⟨summary, concurrency, isSummary, reckoned, rfl⟩
    all_goals contradiction
  · rintro ⟨summary, concurrency, isSummary, reckoned, rfl⟩
    rw [isSummary, reckoned]

theorem concurrency_of_reportOn {report : RunReport}
    (reports : Program.reportOn config ended warmed probed = .ok report) :
    ∃ word, config.underWay? = some word ∧ report.concurrency = word.toFloat ∧
      report.predictedThroughput = probed.map fun measured =>
        predictedThroughput word.toFloat measured.meanRttSecs := by
  obtain ⟨summary, concurrency, _, reckoned, rfl⟩ := reportOn_eq_ok_iff.mp reports
  obtain ⟨word, isWord, rfl⟩ := Option.map_eq_some_iff.mp reckoned
  exact ⟨word, isWord, rfl, rfl⟩

theorem concurrency_of_report {service : ConnectorScript} {source : RandomSource}
    {report : RunReport} (reports : Program.report config service source = .ok report) :
    ∃ word probed, config.underWay? = some word ∧ Program.probe config service = .ok probed ∧
      report.concurrency = word.toFloat ∧
      report.predictedThroughput = probed.map fun measured =>
        predictedThroughput word.toFloat measured.meanRttSecs := by
  unfold Program.report at reports
  split at reports
  case h_1 => contradiction
  case h_2 probed isProbed =>
    obtain ⟨word, isWord, concurrency, predicted⟩ := concurrency_of_reportOn reports
    exact ⟨word, probed, isWord, isProbed, concurrency, predicted⟩

/-- A run that has come to a summary is reported on if and only if its concurrency can be
reckoned; otherwise the reckoning is what goes down. -/
theorem reportOn_of_result? {summary : RunSummary}
    (ends : MainPhase.result? ended = some (.ok summary)) :
    (config.underWay? = none →
      Program.reportOn config ended warmed probed = .error (.crashed .concurrency)) ∧
    (config.underWay? ≠ none →
      ∃ report, Program.reportOn config ended warmed probed = .ok report) := by
  unfold Program.reportOn concurrency?
  rw [ends]
  cases config.underWay? with
  | none => exact ⟨fun _ => rfl, fun some => absurd rfl some⟩
  | some word => exact ⟨nofun, fun _ => ⟨_, rfl⟩⟩

/-- Whatever is configured and accepted: the number of messages under way is the product of
workers and depth if a word can hold it, and then it is positive and the concurrency of the
report and of the predicted throughput.  The reckoning goes down if and only if no word can
hold the product; then a run that has come to its summary goes down, and nothing is ever
reported.  All positive words can be configured as workers and depth, so that nothing keeps
the product from growing out of the word. -/
theorem concurrency_of_configured (configured : Configured config)
    (valid : config.validate = .ok ()) :
    (config.senderWorkers < Text.word64 ∧ config.pipelineDepth < Text.word64) ∧
    (∀ word : UInt64, config.underWay? = some word ↔
      word.toNat = config.senderWorkers * config.pipelineDepth) ∧
    (∀ word : UInt64, config.underWay? = some word → 0 < word.toNat) ∧
    (config.underWay? = none ↔ Text.word64 ≤ config.senderWorkers * config.pipelineDepth) ∧
    (∀ service source report, Program.report config service source = .ok report →
      ∃ word probed, config.underWay? = some word ∧ Program.probe config service = .ok probed ∧
        report.concurrency = word.toFloat ∧
        report.predictedThroughput = probed.map fun measured =>
          predictedThroughput word.toFloat measured.meanRttSecs) ∧
    (∀ ended warmed probed summary, MainPhase.result? ended = some (.ok summary) →
      (config.underWay? = none →
        Program.reportOn config ended warmed probed = .error (.crashed .concurrency)) ∧
      (config.underWay? ≠ none →
        ∃ report, Program.reportOn config ended warmed probed = .ok report)) ∧
    (∀ workers depth, 1 ≤ workers → workers < Text.word64 → 1 ≤ depth → depth < Text.word64 →
      ∃ other, Configured other ∧ other.validate = .ok () ∧ other.senderWorkers = workers ∧
        other.pipelineDepth = depth) := by
  have inRange := configured_iff_inRange.mp configured
  have accepted := validate_eq_ok_iff.mp valid
  refine ⟨⟨?_, ?_⟩, fun _ => underWay?_eq_some_iff, ?_, underWay?_eq_none_iff,
    fun _ _ _ => concurrency_of_report, fun _ _ _ _ => reportOn_of_result?, ?_⟩
  · exact (Quantity.fits_iff_lt rfl).mp (inRange.fits .workers)
  · exact (Quantity.fits_iff_lt rfl).mp (inRange.fits .pipelineDepth)
  · intro word isWord
    rw [underWay?_eq_some_iff.mp isWord]
    exact Nat.mul_pos accepted.manned accepted.somePipeline
  · intro workers depth manned someWorkers deep shallow
    exact ⟨crewed workers depth, configured_crewed someWorkers shallow,
      validate_eq_ok_iff.mpr (accepted_crewed manned deep), rfl, rfl⟩

/-- Two workers with half a word of messages each have more under way than a word can hold;
with one message less each they have not. -/
theorem concurrency_of_configured_of_flooded :
    let flooded := crewed 2 9223372036854775808
    let brimful := crewed 2 9223372036854775807
    Configured flooded ∧ flooded.validate = .ok () ∧ flooded.underWay? = none ∧
      (∀ service source report, Program.report flooded service source ≠ .ok report) ∧
      Configured brimful ∧ brimful.validate = .ok () ∧
      brimful.underWay? = some 18446744073709551614 := by
  intro flooded brimful
  have configured : Configured flooded := configured_crewed (by decide) (by decide)
  have valid : flooded.validate = .ok () :=
    validate_eq_ok_iff.mpr (accepted_crewed (by decide) (by decide))
  have configuredBrimful : Configured brimful := configured_crewed (by decide) (by decide)
  have validBrimful : brimful.validate = .ok () :=
    validate_eq_ok_iff.mpr (accepted_crewed (by decide) (by decide))
  obtain ⟨_, _, _, exceeds, reports, _⟩ := concurrency_of_configured configured valid
  have goesDown : flooded.underWay? = none := exceeds.mpr (by decide)
  refine ⟨configured, valid, goesDown, ?_, configuredBrimful, validBrimful, ?_⟩
  · intro service source report reported
    obtain ⟨word, _, isWord, _⟩ := reports service source report reported
    exact Option.some_ne_none word (isWord.symm.trans goesDown)
  · obtain ⟨_, fits, _⟩ := concurrency_of_configured configuredBrimful validBrimful
    exact (fits _).mpr (by decide)

end RoomLoad.Config
