import Mathlib.Data.List.Perm.Basic
import RoomLoad.Report.Basic

/-!
# The order of arrival

Acknowledgements come in whatever order the network brings them.  Here it is
shown that nothing in a report depends on that order: samples are sorted by a
key that no two different floating-point numbers share, the first and the last
moment are bounds of a linear order, and groups are kept in the order of their
numbers.
-/

namespace RoomLoad

variable {left right : List LatencyRecord}

theorem sortSamples_sorted (samples : List Float) :
    (sortSamples samples).Pairwise fun lower upper =>
      Decimal.totalKey lower ≤ Decimal.totalKey upper := by
  have sorted : (sortSamples samples).Pairwise fun lower upper =>
      decide (Decimal.totalKey lower ≤ Decimal.totalKey upper) = true := by
    apply List.pairwise_mergeSort
    · intro lower middle upper
      simpa using Nat.le_trans
    · intro lower upper
      simpa using Nat.le_total _ _
  exact sorted.imp of_decide_eq_true

/-- Ties of the sorting key are ties of the bits, so that the sorted list is the
same whatever the samples came in. -/
theorem sortSamples_perm {samples others : List Float} (permutation : samples.Perm others) :
    sortSamples samples = sortSamples others := by
  refine List.Perm.eq_of_pairwise ?_ (sortSamples_sorted samples) (sortSamples_sorted others) ?_
  case refine_1 =>
    intro lower upper _ _ atMost atLeast
    exact Decimal.totalKey_injective (Nat.le_antisymm atMost atLeast)
  case refine_2 =>
    exact ((List.mergeSort_perm samples _).trans permutation).trans
      (List.mergeSort_perm others _).symm

theorem LatencyStats.ofRecords_perm (permutation : left.Perm right) :
    LatencyStats.ofRecords left = LatencyStats.ofRecords right := by
  unfold LatencyStats.ofRecords LatencyStats.ofSamples
  rw [sortSamples_perm (permutation.map _)]

namespace Timestamp

theorem isAtOrBefore_iff (earlier later : Timestamp) :
    earlier.isAtOrBefore later ↔
      earlier.secs < later.secs ∨ earlier.secs = later.secs ∧ earlier.nanos ≤ later.nanos := by
  simp [isAtOrBefore]

theorem eq_of_isAtOrBefore {first second : Timestamp} (before : first.isAtOrBefore second)
    (after : second.isAtOrBefore first) : first = second := by
  obtain ⟨firstSecs, firstNanos⟩ := first
  obtain ⟨secondSecs, secondNanos⟩ := second
  simp only [isAtOrBefore_iff] at before after
  obtain rfl : firstSecs = secondSecs := by omega
  obtain rfl : firstNanos = secondNanos := by omega
  rfl

theorem isAtOrBefore_of_not {first second : Timestamp} (after : ¬ first.isAtOrBefore second) :
    second.isAtOrBefore first := by
  simp only [isAtOrBefore_iff] at after ⊢
  omega

theorem isAtOrBefore_trans {first second third : Timestamp} (before : first.isAtOrBefore second)
    (after : second.isAtOrBefore third) : first.isAtOrBefore third := by
  simp only [isAtOrBefore_iff] at before after ⊢
  omega

theorem earlier_comm (first second : Timestamp) : first.earlier second = second.earlier first := by
  unfold earlier
  split <;> split
  case isTrue.isTrue before after => exact eq_of_isAtOrBefore before after
  case isTrue.isFalse => rfl
  case isFalse.isTrue => rfl
  case isFalse.isFalse before after => exact absurd (isAtOrBefore_of_not before) after

theorem later_comm (first second : Timestamp) : first.later second = second.later first := by
  unfold later
  split <;> split
  case isTrue.isTrue before after => exact eq_of_isAtOrBefore after before
  case isTrue.isFalse => rfl
  case isFalse.isTrue => rfl
  case isFalse.isFalse before after => exact absurd (isAtOrBefore_of_not before) after

instance : RightCommutative earlier where
  right_comm first second third := by
    unfold earlier
    grind [eq_of_isAtOrBefore, isAtOrBefore_of_not, isAtOrBefore_trans]

instance : RightCommutative later where
  right_comm first second third := by
    unfold later
    grind [eq_of_isAtOrBefore, isAtOrBefore_of_not, isAtOrBefore_trans]

end Timestamp

/-- What a choice among two moments makes of all moments of a list. -/
def chosen? (choose : Timestamp → Timestamp → Timestamp) : List Timestamp → Option Timestamp
  | [] => none
  | moment :: rest => some (rest.foldl choose moment)

/-- Which element of the list the choice starts from makes no difference. -/
theorem chosen?_perm {choose : Timestamp → Timestamp → Timestamp} [RightCommutative choose]
    (commutes : ∀ first second, choose first second = choose second first)
    {moments others : List Timestamp} (permutation : moments.Perm others) :
    chosen? choose moments = chosen? choose others := by
  induction permutation with
  | nil => rfl
  | cons moment rest _ => exact congrArg some (rest.foldl_eq moment)
  | swap first second rest =>
      simp only [chosen?, List.foldl_cons, commutes second first]
  | trans _ _ first second => exact first.trans second

theorem firstReceived?_eq (records : List LatencyRecord) :
    firstReceived? records =
      chosen? Timestamp.earlier (records.map LatencyRecord.receivedAt) := by
  cases records <;> rfl

theorem lastReceived?_eq (records : List LatencyRecord) :
    lastReceived? records =
      chosen? Timestamp.later (records.map LatencyRecord.receivedAt) := by
  cases records <;> rfl

theorem firstReceived?_perm (permutation : left.Perm right) :
    firstReceived? left = firstReceived? right := by
  simp only [firstReceived?_eq]
  exact chosen?_perm Timestamp.earlier_comm (permutation.map _)

theorem lastReceived?_perm (permutation : left.Perm right) :
    lastReceived? left = lastReceived? right := by
  simp only [lastReceived?_eq]
  exact chosen?_perm Timestamp.later_comm (permutation.map _)

theorem spanSecs_perm (permutation : left.Perm right) : spanSecs left = spanSecs right := by
  unfold spanSecs
  rw [firstReceived?_perm permutation, lastReceived?_perm permutation]

/-- Two numbers find the same places in a tally whichever is counted first. -/
theorem tallyOne_comm (first second : Nat) (counts : List (Nat × Nat)) :
    tallyOne second (tallyOne first counts) = tallyOne first (tallyOne second counts) := by
  induction counts with
  | nil =>
      simp only [tallyOne]
      grind
  | cons entry rest induction =>
      obtain ⟨other, count⟩ := entry
      simp only [tallyOne]
      grind [tallyOne]

theorem tally_perm {numbers others : List Nat} (permutation : numbers.Perm others) :
    tally numbers = tally others :=
  permutation.foldl_eq' (fun first _ second _ counts => tallyOne_comm first second counts) []

theorem roomThroughput_perm (permutation : left.Perm right) :
    roomThroughput left = roomThroughput right := by
  unfold roomThroughput
  rw [spanSecs_perm permutation, tally_perm (permutation.map _)]

theorem kindDistribution_perm (permutation : left.Perm right) :
    kindDistribution left = kindDistribution right := by
  unfold kindDistribution
  simp only [permutation.countP_eq, permutation.length_eq, permutation.isEmpty_eq]

/-- The stretches of time are counted from the first moment, which all orders
have in common. -/
theorem throughputSeries_perm (permutation : left.Perm right) :
    throughputSeries left = throughputSeries right := by
  unfold throughputSeries
  rw [firstReceived?_perm permutation]
  cases firstReceived? right with
  | none => rfl
  | some first => simp only [tally_perm (permutation.map (bucketIndex first))]

/-- A report is the same, bit for bit, in whatever order its records have come
in. -/
theorem RunReport.build_perm (summary : RunSummary) (warmup : Option WarmupReport)
    (probe : Option ProbeReport) (concurrency : Float) (permutation : left.Perm right) :
    RunReport.build summary left warmup probe concurrency =
      RunReport.build summary right warmup probe concurrency := by
  unfold RunReport.build
  simp only [LatencyStats.ofRecords_perm permutation, roomThroughput_perm permutation,
    kindDistribution_perm permutation, throughputSeries_perm permutation]

/-- Three acknowledgements of two rooms, once in the order in which they were
received and once the other way round. -/
theorem RunReport.build_perm_of_overtaken :
    let summary : RunSummary := ⟨3, 3, 3, 0, 0, 0, 0, false, false, ⟨3, 0, 2, 0, 12000, 0.25⟩⟩
    let early : LatencyRecord := ⟨0, ⟨100, 5⟩, .text, .ofMillis 300, .ok, 2⟩
    let middle : LatencyRecord := ⟨1, ⟨100, 7⟩, .join, .ofMillis 100, .ok, 1⟩
    let late : LatencyRecord := ⟨2, ⟨112, 0⟩, .text, .ofMillis 200, .error, 2⟩
    [early, middle, late].Perm [late, middle, early] ∧
      [early, middle, late] ≠ [late, middle, early] ∧
      RunReport.build summary [early, middle, late] none none 1.0 =
        RunReport.build summary [late, middle, early] none none 1.0 := by
  intro summary early middle late
  have permutation : [early, middle, late].Perm [late, middle, early] := by decide +kernel
  exact ⟨permutation, by decide +kernel, RunReport.build_perm summary none none 1.0 permutation⟩

end RoomLoad
