import RoomLoad.Generator
import RoomLoad.Proofs.Delivery.Office

/-!
# What a generator feeds into its queue

The items that a generator has put into the queue are always the first units of its
plan, numbered from zero, and behind all of them some requests to stop.  How many there
are of each can be told from where the generator stands.
-/

namespace RoomLoad

theorem RandomSource.holds_ofRange {range : IdRange} (inhabited : range.isEmpty = false)
    (source : RandomSource) : range.holds (source.ofRange range).1 = true := by
  have ordered : range.low.toNat ≤ range.high.toNat := by
    simp only [IdRange.isEmpty, decide_eq_false_iff_not, UInt32.lt_iff_toNat_lt] at inhabited
    omega
  have top := range.high.toNat_lt
  have value : (source.ofRange range).1 =
      UInt32.ofNat (source.within 32 range.low.toNat range.high.toNat).1 := rfl
  have within : range.low.toNat ≤ (source.within 32 range.low.toNat range.high.toNat).1 ∧
      (source.within 32 range.low.toNat range.high.toNat).1 ≤ range.high.toNat := by
    unfold within
    dsimp only
    have power : Nat.pow 2 32 = 4294967296 := rfl
    rw [power]
    split
    case isTrue full =>
      have word := Nat.mod_lt source.next.1.toNat (show 0 < 4294967296 by decide)
      dsimp only
      omega
    case isFalse part =>
      have below := @drawBelow_lt 32 _ (source.patience + 1) source
        (Nat.pos_of_ne_zero part)
      dsimp only
      omega
  rw [IdRange.holds, value, Bool.and_eq_true, decide_eq_true_eq, decide_eq_true_eq,
    UInt32.le_iff_toNat_le, UInt32.le_iff_toNat_le, UInt32.toNat_ofNat']
  omega

namespace GeneratorPlan

/-- The sequence ids that a plan numbers its units with. -/
def seqs (plan : GeneratorPlan) : List SeqId :=
  (List.range plan.total).map UInt64.ofNat

/-- The first units of a plan by their ids, and some requests to stop behind them. -/
def marks (plan : GeneratorPlan) (units stops : Nat) : List (Option SeqId) :=
  (plan.seqs.take units).map some ++ List.replicate stops none

variable {plan : GeneratorPlan} {units stops number : Nat}

theorem nodup_seqs (bounded : plan.total ≤ Text.word64) : plan.seqs.Nodup := by
  rw [List.Nodup, seqs, List.pairwise_map]
  apply List.pairwise_lt_range.imp_of_mem
  intro first second inRange alsoInRange before same
  rw [List.mem_range] at inRange alsoInRange
  have values := congrArg UInt64.toNat same
  rw [UInt64.toNat_ofNat', UInt64.toNat_ofNat'] at values
  rw [Text.word64] at bounded
  omega

@[simp]
theorem length_seqs : plan.seqs.length = plan.total := by
  simp [seqs]

theorem marks_unit (more : number < plan.total) :
    plan.marks number 0 ++ [some (UInt64.ofNat number)] = plan.marks (number + 1) 0 := by
  have inside : number < plan.seqs.length := by
    rw [length_seqs]
    exact more
  have here : plan.seqs[number] = UInt64.ofNat number := by
    simp [seqs]
  rw [marks, marks, List.take_succ_eq_append_getElem inside, here]
  simp

theorem marks_stop : plan.marks units stops ++ [none] = plan.marks units (stops + 1) := by
  rw [marks, marks, List.append_assoc, List.replicate_succ']

theorem units_of_marks : (plan.marks units stops).filterMap id = plan.seqs.take units := by
  rw [marks, List.filterMap_append, List.filterMap_map, List.filterMap_replicate]
  simp

theorem stops_of_marks : (plan.marks units stops).count none = stops := by
  have noStops : ((plan.seqs.take units).map some).count none = 0 := by
    rw [List.count_eq_zero]
    simp only [List.mem_map, reduceCtorEq, and_false, exists_false, not_false_eq_true]
  rw [marks, List.count_append, noStops, List.count_replicate_self, Nat.zero_add]

theorem count_marks (bounded : plan.total ≤ Text.word64) (inPlan : number < plan.total) :
    (plan.marks plan.total stops).count (some (UInt64.ofNat number)) = 1 := by
  have present : UInt64.ofNat number ∈ plan.seqs :=
    List.mem_map.mpr ⟨number, List.mem_range.mpr inPlan, rfl⟩
  have atLeast := List.count_pos_iff.mpr present
  have atMost := List.nodup_iff_count.mp (plan.nodup_seqs bounded) (UInt64.ofNat number)
  have all : plan.seqs.take plan.total = plan.seqs :=
    List.take_of_length_le (Nat.le_of_eq length_seqs)
  have inUnits : (plan.seqs.map some).count (some (UInt64.ofNat number)) =
      plan.seqs.count (UInt64.ofNat number) := by
    rw [List.count_eq_countP, List.countP_map, List.count_eq_countP]
    apply List.countP_congr
    simp
  have inStops : (List.replicate stops (none : Option SeqId)).count
      (some (UInt64.ofNat number)) = 0 := by
    simp [List.count_replicate]
  rw [marks, all, List.count_append, inUnits, inStops]
  omega

/-- Behind a request to stop there are no units. -/
theorem no_units_behind_stop {front back : List (Option SeqId)}
    (split : front ++ back = plan.marks units stops) (stop : none ∈ front) :
    back.filterMap id = [] := by
  rw [marks, List.append_eq_append_iff] at split
  rcases split with ⟨between, unitsSplit, _⟩ | ⟨between, _, stopsSplit⟩
  · have contrary : none ∈ (plan.seqs.take units).map some := by
      rw [unitsSplit]
      exact List.mem_append_left _ stop
    simp only [List.mem_map, reduceCtorEq, and_false, exists_false] at contrary
  · have noUnits := congrArg (List.filterMap id) stopsSplit
    rw [List.filterMap_replicate, List.filterMap_append] at noUnits
    exact (List.append_eq_nil_iff.mp noUnits.symm).2

theorem eq_nil_of_nothing {list : List (Option SeqId)} (noUnits : list.filterMap id = [])
    (noStops : list.count none = 0) : list = [] := by
  cases list with
  | nil => rfl
  | cons head tail =>
      cases head with
      | none => simp at noStops
      | some seq => simp at noUnits

end GeneratorPlan

/-- How far the items put into a queue are those of a plan, by where its generator
stands. -/
def GeneratorPlan.Fed (plan : GeneratorPlan) (fed : List (Option SeqId)) : GeneratorStage → Prop
  | .making number => number ≤ plan.total ∧ fed = plan.marks number 0
  | .holding number unit =>
      number < plan.total ∧ unit.seq = UInt64.ofNat number ∧ fed = plan.marks number 0
  | .stopping left =>
      left ≤ plan.sentinels ∧ fed = plan.marks plan.total (plan.sentinels - left)
  | .ended report =>
      (report.interrupted = true ∧ report.produced < plan.total ∧
        fed = plan.marks report.produced 0) ∨
      (report = ⟨plan.total, false⟩ ∧
        ∃ stops, stops ≤ plan.sentinels ∧ fed = plan.marks plan.total stops)

namespace GeneratorPlan

variable {plan : GeneratorPlan} {fed : List (Option SeqId)} {stage : GeneratorStage}

theorem Fed.exists_marks (isFed : plan.Fed fed stage) :
    ∃ units stops, units ≤ plan.total ∧ fed = plan.marks units stops := by
  cases stage with
  | making number => exact ⟨number, 0, isFed.1, isFed.2⟩
  | holding number unit => exact ⟨number, 0, Nat.le_of_lt isFed.1, isFed.2.2⟩
  | stopping left => exact ⟨plan.total, _, Nat.le_refl _, isFed.2⟩
  | ended report =>
      rcases isFed with ⟨_, fewer, marks⟩ | ⟨_, stops, _, marks⟩
      · exact ⟨report.produced, 0, Nat.le_of_lt fewer, marks⟩
      · exact ⟨plan.total, stops, Nat.le_refl _, marks⟩

/-- What is fed is always the beginning of what is planned: all units and then all requests
to stop. -/
theorem Fed.isPrefix (isFed : plan.Fed fed stage) :
    fed <+: plan.marks plan.total plan.sentinels := by
  have ofUnits : ∀ {units}, units ≤ plan.total →
      plan.marks units 0 <+: plan.marks plan.total plan.sentinels := by
    intro units enough
    have front : plan.seqs.take units <+: plan.seqs.take plan.total :=
      List.take_prefix_take_left enough
    rw [marks, List.replicate_zero, List.append_nil, marks]
    exact (front.map some).trans (List.prefix_append _ _)
  have ofStops : ∀ {stops}, stops ≤ plan.sentinels →
      plan.marks plan.total stops <+: plan.marks plan.total plan.sentinels := by
    intro stops enough
    rw [marks, marks, List.prefix_append_right_inj, List.prefix_replicate_iff]
    simp [enough]
  cases stage with
  | making number =>
      rw [isFed.2]
      exact ofUnits isFed.1
  | holding number unit =>
      rw [isFed.2.2]
      exact ofUnits (Nat.le_of_lt isFed.1)
  | stopping left =>
      rw [isFed.2]
      exact ofStops (Nat.sub_le _ _)
  | ended report =>
      rcases isFed with ⟨_, fewer, marks⟩ | ⟨_, stops, enough, marks⟩
      · rw [marks]
        exact ofUnits (Nat.le_of_lt fewer)
      · rw [marks]
        exact ofStops enough

theorem Fed.of_ended {report : GeneratorReport} (isFed : plan.Fed fed (.ended report)) :
    report.produced ≤ plan.total ∧ fed.filterMap id = plan.seqs.take report.produced ∧
      (report.interrupted = false → report.produced = plan.total) := by
  rcases isFed with ⟨interrupted, fewer, marks⟩ | ⟨rfl, stops, _, marks⟩
  · refine ⟨Nat.le_of_lt fewer, ?_, ?_⟩
    · rw [marks, units_of_marks]
    · intro uninterrupted
      rw [interrupted] at uninterrupted
      contradiction
  · refine ⟨Nat.le_refl _, ?_, fun _ => rfl⟩
    rw [marks, units_of_marks]

end GeneratorPlan

theorem UnitQueue.frame_of_offer {queue later : UnitQueue} {envelope : Envelope}
    (accepted : queue.offer envelope = .accepted later) :
    later.senders = queue.senders ∧ later.receivers = queue.receivers ∧
      later.capacity = queue.capacity := by
  unfold offer at accepted
  split at accepted
  case isTrue => contradiction
  case isFalse =>
    split at accepted
    case isTrue =>
      cases accepted
      exact ⟨rfl, rfl, rfl⟩
    case isFalse => contradiction

namespace Generator

/-- What one step of a generator comes to. -/
inductive Advances (queue : UnitQueue) (generator : Generator) : Generator → UnitQueue → Prop where
  | draws {number : Nat} {unit : OutboundUnit} {source : RandomSource} {now : Timestamp} :
      generator.stage = .making number →
      number < generator.plan.total →
      unit.seq = UInt64.ofNat number →
      (generator.plan.drawUnit number now generator.source).1 = unit →
      Advances queue generator ⟨generator.plan, source, .holding number unit⟩ queue
  | turns {number : Nat} :
      generator.stage = .making number →
      generator.plan.total ≤ number →
      Advances queue generator { generator with stage := .stopping generator.plan.sentinels } queue
  | hands {number : Nat} {unit : OutboundUnit} {later : UnitQueue} :
      generator.stage = .holding number unit →
      queue.offer (.unit unit) = .accepted later →
      Advances queue generator { generator with stage := .making (number + 1) } later
  | isLeft {number : Nat} {unit : OutboundUnit} :
      generator.stage = .holding number unit →
      queue.offer (.unit unit) = .disconnected →
      Advances queue generator { generator with stage := .ended ⟨number, true⟩ } queue.dropSender
  | requests {left : Nat} {later : UnitQueue} :
      generator.stage = .stopping (left + 1) →
      queue.offer .stop = .accepted later →
      Advances queue generator { generator with stage := .stopping left } later
  | isLeftAtStops {left : Nat} :
      generator.stage = .stopping (left + 1) →
      queue.offer .stop = .disconnected →
      Advances queue generator { generator with stage := .ended ⟨generator.plan.total, false⟩ }
        queue.dropSender
  | ends :
      generator.stage = .stopping 0 →
      Advances queue generator { generator with stage := .ended ⟨generator.plan.total, false⟩ }
        queue.dropSender

variable {now : Timestamp} {queue later : UnitQueue} {generator next : Generator}

theorem advances_of_step? (stepped : generator.step? now queue = some (next, later)) :
    Advances queue generator next later := by
  unfold step? at stepped
  dsimp only at stepped
  split at stepped
  case h_1 number making =>
    split at stepped
    case isTrue more =>
      cases stepped
      exact .draws making more rfl rfl
    case isFalse done =>
      cases stepped
      exact .turns making (Nat.le_of_not_lt done)
  case h_2 number unit holding =>
    split at stepped
    case h_1 queue accepted =>
      cases stepped
      exact .hands holding accepted
    case h_2 => contradiction
    case h_3 left =>
      cases stepped
      exact .isLeft holding left
  case h_3 stopping =>
    cases stepped
    exact .ends stopping
  case h_4 left stopping =>
    split at stepped
    case h_1 queue accepted =>
      cases stepped
      exact .requests stopping accepted
    case h_2 => contradiction
    case h_3 isLeft =>
      cases stepped
      exact .isLeftAtStops stopping isLeft
  case h_5 => contradiction

theorem Advances.plan_eq (advances : Advances queue generator next later) :
    next.plan = generator.plan := by
  cases advances <;> rfl

theorem stage_of_report? {report : GeneratorReport}
    (reported : generator.report? = some report) : generator.stage = .ended report := by
  unfold report? at reported
  split at reported
  case h_1 own ended =>
    cases reported
    exact ended
  case h_2 => contradiction

theorem Advances.report?_eq_none (advances : Advances queue generator next later) :
    generator.report? = none := by
  cases advances with
  | draws making => rw [report?, making]
  | turns making => rw [report?, making]
  | hands holding => rw [report?, holding]
  | isLeft holding => rw [report?, holding]
  | requests stopping => rw [report?, stopping]
  | isLeftAtStops stopping => rw [report?, stopping]
  | ends stopping => rw [report?, stopping]

theorem Advances.senders_eq (advances : Advances queue generator next later)
    (one : queue.senders = 1) :
    later.senders = if next.report?.isSome then 0 else 1 := by
  cases advances with
  | draws => exact one
  | turns => exact one
  | hands holding accepted => exact (UnitQueue.frame_of_offer accepted).1.trans one
  | requests stopping accepted => exact (UnitQueue.frame_of_offer accepted).1.trans one
  | _ => exact congrArg (· - 1) one

theorem Advances.receivers_eq (advances : Advances queue generator next later) :
    later.receivers = queue.receivers := by
  cases advances with
  | hands holding accepted => exact (UnitQueue.frame_of_offer accepted).2.1
  | requests stopping accepted => exact (UnitQueue.frame_of_offer accepted).2.1
  | _ => rfl

theorem Advances.feeds (advances : Advances queue generator next later) :
    ∃ items : List Envelope, later.items = queue.items ++ items ∧
      ∀ fed, generator.plan.Fed fed generator.stage →
        generator.plan.Fed (fed ++ items.map Envelope.seq?) next.stage := by
  cases advances with
  | draws making more numbered =>
      refine ⟨[], by simp, ?_⟩
      intro fed isFed
      rw [making] at isFed
      rw [List.map_nil, List.append_nil]
      exact ⟨more, numbered, isFed.2⟩
  | @turns number making done =>
      refine ⟨[], by simp, ?_⟩
      intro fed isFed
      rw [making] at isFed
      obtain ⟨reached, marks⟩ := isFed
      have all : number = generator.plan.total := Nat.le_antisymm reached done
      refine ⟨Nat.le_refl _, ?_⟩
      rw [List.map_nil, List.append_nil, marks, all, Nat.sub_self]
  | @hands number unit _ holding accepted =>
      refine ⟨[.unit unit], UnitQueue.items_of_offer accepted, ?_⟩
      intro fed isFed
      rw [holding] at isFed
      obtain ⟨more, numbered, marks⟩ := isFed
      refine ⟨more, ?_⟩
      rw [marks, ← GeneratorPlan.marks_unit more]
      simp [numbered]
  | isLeft holding left =>
      refine ⟨[], by simp [UnitQueue.dropSender, UnitQueue.items], ?_⟩
      intro fed isFed
      rw [holding] at isFed
      obtain ⟨more, _, marks⟩ := isFed
      rw [List.map_nil, List.append_nil]
      exact .inl ⟨rfl, more, marks⟩
  | @requests left _ stopping accepted =>
      refine ⟨[.stop], UnitQueue.items_of_offer accepted, ?_⟩
      intro fed isFed
      rw [stopping] at isFed
      obtain ⟨bound, marks⟩ := isFed
      have one : generator.plan.sentinels - left = generator.plan.sentinels - (left + 1) + 1 := by
        omega
      refine ⟨by omega, ?_⟩
      rw [marks, one, ← GeneratorPlan.marks_stop]
      rfl
  | isLeftAtStops stopping left =>
      refine ⟨[], by simp [UnitQueue.dropSender, UnitQueue.items], ?_⟩
      intro fed isFed
      rw [stopping] at isFed
      rw [List.map_nil, List.append_nil]
      exact .inr ⟨rfl, _, Nat.sub_le _ _, isFed.2⟩
  | ends stopping =>
      refine ⟨[], by simp [UnitQueue.dropSender, UnitQueue.items], ?_⟩
      intro fed isFed
      rw [stopping] at isFed
      rw [List.map_nil, List.append_nil]
      exact .inr ⟨rfl, _, Nat.sub_le _ _, isFed.2⟩

theorem Advances.fed (advances : Advances queue generator next later)
    {taken : List (Option SeqId)}
    (fed : generator.plan.Fed (taken ++ queue.items.map Envelope.seq?) generator.stage) :
    generator.plan.Fed (taken ++ later.items.map Envelope.seq?) next.stage := by
  obtain ⟨items, appended, feeds⟩ := advances.feeds
  rw [appended, List.map_append, ← List.append_assoc]
  exact feeds _ fed

end Generator

end RoomLoad
