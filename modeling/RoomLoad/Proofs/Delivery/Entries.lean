import RoomLoad.Correlator

/-!
# Entries and records of a sequence id

A sequence id has some entries in flight and some records, and each operation of the
ledger changes only those of the id that it is about.  A frame either leaves every entry
and every record as it is, or turns the entries of one id into one record and counts a
success.
-/

namespace RoomLoad

namespace Correlator

/-- How many entries in flight a sequence id has. -/
def entries (correlator : Correlator) (seq : SeqId) : Nat :=
  correlator.inflight.countP fun entry => entry.1 == seq

def recordsOf (correlator : Correlator) (seq : SeqId) : Nat :=
  correlator.recorded.countP fun record => record.seq == seq

variable {correlator : Correlator} {seq other : SeqId}

theorem entries_eq_count :
    correlator.entries seq = (correlator.inflight.map Prod.fst).count seq := by
  rw [List.count_eq_countP, List.countP_map]
  rfl

theorem recordsOf_eq_count :
    correlator.recordsOf seq = (correlator.recorded.map fun record => record.seq).count seq := by
  rw [List.count_eq_countP, List.countP_map]
  rfl

theorem recordsOf_eq_zero_iff :
    correlator.recordsOf seq = 0 ↔ ∀ record ∈ correlator.records, record.seq ≠ seq := by
  simp [recordsOf, List.countP_eq_zero, records]

theorem entry?_eq_none_iff : correlator.entry? seq = none ↔ correlator.entries seq = 0 := by
  unfold entry?
  rw [List.lookup_eq_none_iff, entries, List.countP_eq_zero]
  constructor
  · intro absent entry member same
    have different := absent entry member
    simp only [beq_iff_eq] at same
    simp [same] at different
  · intro absent entry member
    have different := absent entry member
    simp only [beq_iff_eq] at different
    simpa using fun same : seq = entry.1 => different same.symm

theorem entries_pos_of_found {entry : InFlight} (found : correlator.entry? seq = some entry) :
    0 < correlator.entries seq := by
  apply Nat.pos_of_ne_zero
  intro absent
  rw [entry?_eq_none_iff.mpr absent] at found
  contradiction

theorem entries_without :
    (correlator.without seq).entries other =
      if other = seq then 0 else correlator.entries other := by
  simp only [entries, without, List.countP_filter]
  split
  case isTrue same =>
    subst same
    rw [List.countP_eq_zero]
    intro entry member
    simp
  case isFalse different =>
    apply List.countP_congr
    intro entry member
    simp only [bne_iff_ne, Bool.and_eq_true, beq_iff_eq, and_iff_left_iff_imp]
    rintro rfl
    exact different

theorem entries_onSend {now : Instant} {unit : OutboundUnit} :
    (correlator.onSend now unit).entries other =
      if other = unit.seq then 1 else correlator.entries other := by
  have cleared : (correlator.without unit.seq).entries other =
      if other = unit.seq then 0 else correlator.entries other := entries_without
  have added : (correlator.onSend now unit).entries other =
      (correlator.without unit.seq).entries other + if unit.seq = other then 1 else 0 := by
    simp [entries, onSend, List.countP_cons]
  rw [added, cleared]
  by_cases same : other = unit.seq
  · simp [same]
  · simp [same, Ne.symm same]

end Correlator

namespace Ledger

/-- What anybody but a worker does to a ledger: a frame is dropped or makes a record. -/
inductive Hears (ledger : Ledger) : Ledger → Prop where
  | drops {later : Ledger} :
      later.correlator.inflight = ledger.correlator.inflight →
      later.correlator.recorded = ledger.correlator.recorded →
      later.metrics.success = ledger.metrics.success →
      later.metrics.failure = ledger.metrics.failure →
      Hears ledger later
  | records {seq : SeqId} {record : LatencyRecord} :
      0 < ledger.correlator.entries seq →
      record.seq = seq →
      Hears ledger
        { correlator :=
            { ledger.correlator.without seq with
              recorded := record :: ledger.correlator.recorded }
          metrics := ledger.metrics.countSuccess }

theorem hears_onAck (ledger : Ledger) (now : Instant) (text : String) :
    Hears ledger (ledger.onAck now text).2 := by
  unfold onAck Correlator.onAck
  cases Correlator.readAck? text with
  | none => exact .drops rfl rfl rfl rfl
  | some carried =>
      obtain ⟨seq, status⟩ := carried
      cases found : ledger.correlator.entry? seq with
      | none =>
          simp only [found]
          exact .drops rfl rfl rfl rfl
      | some entry =>
          simp only [found]
          exact .records (Correlator.entries_pos_of_found found) rfl

theorem Hears.failure_eq {ledger later : Ledger} (hears : Hears ledger later) :
    later.metrics.failure = ledger.metrics.failure := by
  cases hears with
  | drops _ _ _ failures => exact failures
  | records => rfl

/-- A record takes the place of the only entry of its id, and counts as a success. -/
theorem Hears.balance {ledger later : Ledger} (hears : ledger.Hears later)
    (single : ∀ seq, ledger.correlator.entries seq ≤ 1) :
    later.metrics.success + ledger.correlator.recorded.length =
        ledger.metrics.success + later.correlator.recorded.length ∧
      later.metrics.failure = ledger.metrics.failure ∧
      ∀ seq, later.correlator.entries seq + later.correlator.recordsOf seq =
        ledger.correlator.entries seq + ledger.correlator.recordsOf seq := by
  cases hears with
  | drops inflight recorded successes failures =>
      refine ⟨by rw [recorded, successes], failures, ?_⟩
      intro seq
      rw [Correlator.entries, Correlator.recordsOf, inflight, recorded]
      rfl
  | @records own record present ofOwn =>
      refine ⟨by simp only [Metrics.countSuccess, List.length_cons]; omega, rfl, ?_⟩
      intro seq
      have cleared : (ledger.correlator.without own).entries seq =
          if seq = own then 0 else ledger.correlator.entries seq := Correlator.entries_without
      have added : (record :: ledger.correlator.recorded).countP (fun record => record.seq == seq) =
          ledger.correlator.recordsOf seq + if own = seq then 1 else 0 := by
        simp [Correlator.recordsOf, List.countP_cons, ofOwn]
      have one := single own
      simp only [Correlator.entries, Correlator.recordsOf] at cleared added present one ⊢
      rw [cleared, added]
      by_cases same : seq = own
      · subst same
        simp only [if_true]
        omega
      · simp only [same, Ne.symm same, if_false]
        omega

theorem withdraw_of_found {ledger : Ledger} {seq : SeqId} {entry : InFlight}
    (found : ledger.correlator.entry? seq = some entry) :
    (ledger.withdraw seq).2 = { ledger with correlator := ledger.correlator.without seq } := by
  simp [withdraw, Correlator.withdraw, found]

end Ledger

end RoomLoad
