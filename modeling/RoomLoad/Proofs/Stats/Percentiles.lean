import RoomLoad.Proofs.Stats.Arrival

/-!
# Percentiles

A percentile of some samples is read off the sorted samples at a rank.  Said without sorting
it is the one sample that so many percent of all samples do not exceed, while fewer are less
than it.  All comparisons are those of the IEEE total order, in which no two different
floating-point numbers are equal.
-/

namespace RoomLoad

open Decimal (totalKey)

def countUpTo (samples : List Float) (value : Float) : Nat :=
  samples.countP fun sample => totalKey sample ≤ totalKey value

def countBelow (samples : List Float) (value : Float) : Nat :=
  samples.countP fun sample => totalKey sample < totalKey value

/-- A sample that so many percent of the samples do not exceed, while fewer are less than
it. -/
structure IsPercentile (samples : List Float) (percent : Nat) (value : Float) : Prop where
  member : value ∈ samples
  reached : percent * samples.length ≤ 100 * countUpTo samples value
  notBefore : 100 * countBelow samples value < percent * samples.length

variable {samples others : List Float} {percent rank : Nat} {value other : Float}

theorem countUpTo_perm (permutation : samples.Perm others) :
    countUpTo samples value = countUpTo others value :=
  permutation.countP_eq _

theorem countBelow_perm (permutation : samples.Perm others) :
    countBelow samples value = countBelow others value :=
  permutation.countP_eq _

theorem IsPercentile.congr (permutation : samples.Perm others)
    (isPercentile : IsPercentile samples percent value) : IsPercentile others percent value where
  member := permutation.mem_iff.mp isPercentile.member
  reached := by
    rw [← permutation.length_eq, ← countUpTo_perm permutation]
    exact isPercentile.reached
  notBefore := by
    rw [← permutation.length_eq, ← countBelow_perm permutation]
    exact isPercentile.notBefore

theorem countUpTo_le_countBelow (less : totalKey value < totalKey other) :
    countUpTo samples value ≤ countBelow samples other := by
  apply List.countP_mono_left
  intro sample _ upTo
  exact decide_eq_true (Nat.lt_of_le_of_lt (of_decide_eq_true upTo) less)

/-- Of two percentiles of the same samples the lesser would be exceeded too early. -/
theorem IsPercentile.key_le (first : IsPercentile samples percent value)
    (second : IsPercentile samples percent other) : totalKey other ≤ totalKey value := by
  apply Nat.le_of_not_lt
  intro less
  have counts : countUpTo samples value ≤ countBelow samples other :=
    countUpTo_le_countBelow less
  have reached := first.reached
  have notBefore := second.notBefore
  omega

theorem IsPercentile.unique (first : IsPercentile samples percent value)
    (second : IsPercentile samples percent other) : value = other :=
  Decimal.totalKey_injective (Nat.le_antisymm (second.key_le first) (first.key_le second))

def InOrder (sorted : List Float) : Prop :=
  sorted.Pairwise fun lower upper => totalKey lower ≤ totalKey upper

variable {sorted : List Float}

theorem inOrder_sortSamples (samples : List Float) : InOrder (sortSamples samples) :=
  sortSamples_sorted samples

theorem sortSamples_perm_self (samples : List Float) : (sortSamples samples).Perm samples :=
  List.mergeSort_perm samples _

theorem InOrder.key_le (inOrder : InOrder sorted) {lower upper : Nat}
    (order : lower ≤ upper) (inside : upper < sorted.length) :
    totalKey sorted[lower] ≤ totalKey sorted[upper] := by
  obtain less | rfl := Nat.lt_or_eq_of_le order
  · exact List.pairwise_iff_getElem.mp inOrder lower upper _ inside less
  · exact Nat.le_refl _

theorem InOrder.lt_countUpTo (inOrder : InOrder sorted) {place : Nat}
    (inside : place < sorted.length) : place < countUpTo sorted sorted[place] := by
  have upTo : (sorted.take (place + 1)).countP
      (fun sample => totalKey sample ≤ totalKey sorted[place]) = place + 1 := by
    rw [List.countP_eq_length.mpr, List.length_take, Nat.min_eq_left inside]
    intro sample member
    obtain ⟨index, bound, rfl⟩ := List.mem_take_iff_getElem.mp member
    exact decide_eq_true (inOrder.key_le (by omega) inside)
  have parts := congrArg (countUpTo · sorted[place]) (List.take_append_drop (place + 1) sorted)
  simp only [countUpTo, List.countP_append] at parts ⊢
  omega

/-- Only samples before a place can be less than the one that stands there. -/
theorem InOrder.countBelow_le (inOrder : InOrder sorted) {place : Nat}
    (inside : place < sorted.length) : countBelow sorted sorted[place] ≤ place := by
  have none : (sorted.drop place).countP
      (fun sample => totalKey sample < totalKey sorted[place]) = 0 := by
    rw [List.countP_eq_zero]
    intro sample member less
    obtain ⟨index, bound, rfl⟩ := List.mem_drop_iff_getElem.mp member
    have atLeast := inOrder.key_le (Nat.le_add_right place index) (by omega)
    exact Nat.not_le.mpr (of_decide_eq_true less) atLeast
  have few : (sorted.take place).countP
      (fun sample => totalKey sample < totalKey sorted[place]) ≤ place :=
    Nat.le_trans List.countP_le_length (List.length_take_le _ _)
  have parts := congrArg (countBelow · sorted[place]) (List.take_append_drop place sorted)
  simp only [countBelow, List.countP_append] at parts ⊢
  omega

/-- A rank among the samples stands for the sample in that place. -/
theorem atRank_eq (positive : 1 ≤ rank) (inside : rank ≤ sorted.length) :
    atRank sorted rank = sorted[rank - 1] := by
  have clamped : min (rank - 1) (sorted.length - 1) = rank - 1 := by omega
  have place : rank - 1 < sorted.length := by omega
  rw [atRank, clamped, List.getD_eq_getElem?_getD, List.getElem?_eq_getElem place,
    Option.getD_some]

theorem atRank_mem (positive : 1 ≤ rank) (inside : rank ≤ sorted.length) :
    atRank sorted rank ∈ sorted := by
  rw [atRank_eq positive inside]
  exact List.getElem_mem _

theorem InOrder.atRank_le (inOrder : InOrder sorted) {lower upper : Nat} (positive : 1 ≤ lower)
    (order : lower ≤ upper) (inside : upper ≤ sorted.length) :
    totalKey (atRank sorted lower) ≤ totalKey (atRank sorted upper) := by
  rw [atRank_eq positive (Nat.le_trans order inside),
    atRank_eq (Nat.le_trans positive order) inside]
  exact inOrder.key_le (Nat.sub_le_sub_right order 1) (by omega)

theorem exists_atRank (member : value ∈ sorted) :
    ∃ rank, 1 ≤ rank ∧ rank ≤ sorted.length ∧ atRank sorted rank = value := by
  obtain ⟨place, inside, rfl⟩ := List.getElem_of_mem member
  exact ⟨place + 1, Nat.le_add_left 1 place, inside, atRank_eq (Nat.le_add_left 1 place) inside⟩

/-- The nearest rank is the least that so many percent reach. -/
theorem percent_le_nearestRank (percent count : Nat) :
    percent * count ≤ 100 * nearestRank percent count := by
  unfold nearestRank
  omega

theorem nearestRank_lt_percent {count : Nat} (positive : 1 ≤ nearestRank percent count) :
    100 * (nearestRank percent count - 1) < percent * count := by
  unfold nearestRank at positive ⊢
  omega

theorem nearestRank_pos {count : Nat} (some : 0 < percent) (filled : 0 < count) :
    1 ≤ nearestRank percent count := by
  have positive := Nat.mul_pos some filled
  unfold nearestRank
  omega

theorem nearestRank_mono {lesser greater : Nat} (order : lesser ≤ greater) (count : Nat) :
    nearestRank lesser count ≤ nearestRank greater count := by
  have grows := Nat.mul_le_mul_right count order
  unfold nearestRank
  omega

theorem nearestRank_le (atMost : percent ≤ 100) (count : Nat) :
    nearestRank percent count ≤ count := by
  have bound := nearestRank_mono atMost count
  have whole : nearestRank 100 count = count := by
    unfold nearestRank
    omega
  omega

theorem InOrder.isPercentile (inOrder : InOrder sorted) (filled : 0 < sorted.length)
    (some : 0 < percent) (atMost : percent ≤ 100) :
    IsPercentile sorted percent (atRank sorted (nearestRank percent sorted.length)) := by
  have positive := nearestRank_pos some filled
  have inside := nearestRank_le atMost sorted.length
  have place : nearestRank percent sorted.length - 1 < sorted.length := by omega
  constructor
  case member => exact atRank_mem positive inside
  case reached =>
    have counted := inOrder.lt_countUpTo place
    have reached := percent_le_nearestRank percent sorted.length
    rw [atRank_eq positive inside]
    omega
  case notBefore =>
    have counted := inOrder.countBelow_le place
    have short := nearestRank_lt_percent positive
    rw [atRank_eq positive inside]
    omega

theorem atRank_mem_samples (positive : 1 ≤ rank) (inside : rank ≤ samples.length) :
    atRank (sortSamples samples) rank ∈ samples := by
  have permutation := sortSamples_perm_self samples
  rw [← permutation.length_eq] at inside
  exact permutation.mem_iff.mp (atRank_mem positive inside)

theorem atRank_mono {lower upper : Nat} (positive : 1 ≤ lower) (order : lower ≤ upper)
    (inside : upper ≤ samples.length) :
    totalKey (atRank (sortSamples samples) lower) ≤
      totalKey (atRank (sortSamples samples) upper) := by
  rw [← (sortSamples_perm_self samples).length_eq] at inside
  exact (inOrder_sortSamples samples).atRank_le positive order inside

theorem key_between (member : value ∈ samples) :
    totalKey (atRank (sortSamples samples) 1) ≤ totalKey value ∧
      totalKey value ≤ totalKey (atRank (sortSamples samples) samples.length) := by
  have permutation := sortSamples_perm_self samples
  obtain ⟨rank, positive, inside, rfl⟩ := exists_atRank (permutation.mem_iff.mpr member)
  rw [permutation.length_eq] at inside
  exact ⟨atRank_mono (Nat.le_refl 1) positive inside,
    atRank_mono positive inside (Nat.le_refl _)⟩

/-- The sample at the nearest rank is the only percentile. -/
theorem eq_atRank_iff (filled : samples ≠ []) (some : 0 < percent) (atMost : percent ≤ 100) :
    value = atRank (sortSamples samples) (nearestRank percent samples.length) ↔
      IsPercentile samples percent value := by
  have permutation := sortSamples_perm_self samples
  have length : (sortSamples samples).length = samples.length := permutation.length_eq
  have positive : 0 < (sortSamples samples).length := length ▸ List.length_pos_iff.mpr filled
  have found := ((inOrder_sortSamples samples).isPercentile positive some atMost).congr permutation
  rw [length] at found
  constructor
  · rintro rfl
    exact found
  · intro isPercentile
    exact isPercentile.unique found

namespace LatencyStats

/-- Statistics that give the median and the two high percentiles of some samples, between the
least and the greatest of them all. -/
structure Ranks (samples : List Float) (stats : LatencyStats) : Prop where
  median : ∀ value, value = stats.medianMs ↔ IsPercentile samples 50 value
  p95 : ∀ value, value = stats.p95Ms ↔ IsPercentile samples 95 value
  p99 : ∀ value, value = stats.p99Ms ↔ IsPercentile samples 99 value
  least : stats.minMs ∈ samples ∧ ∀ sample ∈ samples, totalKey stats.minMs ≤ totalKey sample
  greatest : stats.maxMs ∈ samples ∧ ∀ sample ∈ samples, totalKey sample ≤ totalKey stats.maxMs
  min_le_median : totalKey stats.minMs ≤ totalKey stats.medianMs
  median_le_p95 : totalKey stats.medianMs ≤ totalKey stats.p95Ms
  p95_le_p99 : totalKey stats.p95Ms ≤ totalKey stats.p99Ms
  p99_le_max : totalKey stats.p99Ms ≤ totalKey stats.maxMs

/-- The statistics of some samples in terms of their sorted list. -/
theorem ofSamples_eq (filled : samples ≠ []) :
    ofSamples samples =
      let sorted := sortSamples samples
      { count := samples.length
        meanMs := sum sorted / (UInt64.ofNat samples.length).toFloat
        medianMs := atRank sorted (nearestRank 50 samples.length)
        p95Ms := atRank sorted (nearestRank 95 samples.length)
        p99Ms := atRank sorted (nearestRank 99 samples.length)
        minMs := atRank sorted 1
        maxMs := atRank sorted samples.length } := by
  have length : (sortSamples samples).length = samples.length :=
    (sortSamples_perm_self samples).length_eq
  have some : samples.length ≠ 0 := fun none => filled (List.length_eq_zero_iff.mp none)
  simp only [ofSamples, length, if_neg some]

/-- The median and the two high percentiles of some samples are their percentiles, and no
other values are; they lie in order between the least and the greatest of all samples. -/
theorem ofSamples_ranks (filled : samples ≠ []) : Ranks samples (ofSamples samples) := by
  have some : 0 < samples.length := List.length_pos_iff.mpr filled
  have first : 1 ≤ nearestRank 50 samples.length := nearestRank_pos (by decide) some
  have second : nearestRank 50 samples.length ≤ nearestRank 95 samples.length :=
    nearestRank_mono (by decide) _
  have third : nearestRank 95 samples.length ≤ nearestRank 99 samples.length :=
    nearestRank_mono (by decide) _
  have last : nearestRank 99 samples.length ≤ samples.length := nearestRank_le (by decide) _
  rw [ofSamples_eq filled]
  constructor
  case median => exact fun value => eq_atRank_iff filled (by decide) (by decide)
  case p95 => exact fun value => eq_atRank_iff filled (by decide) (by decide)
  case p99 => exact fun value => eq_atRank_iff filled (by decide) (by decide)
  case least =>
    exact ⟨atRank_mem_samples (Nat.le_refl 1) some, fun sample member => (key_between member).1⟩
  case greatest =>
    exact ⟨atRank_mem_samples some (Nat.le_refl _), fun sample member => (key_between member).2⟩
  case min_le_median => exact atRank_mono (Nat.le_refl 1) first (by omega)
  case median_le_p95 => exact atRank_mono first second (by omega)
  case p95_le_p99 => exact atRank_mono (by omega) third last
  case p99_le_max => exact atRank_mono (by omega) last (Nat.le_refl _)

/-- Two zeros that differ in their sign, and a tie at the top: half of the samples do not
exceed the positive zero, and only one is less. -/
theorem ofSamples_ranks_of_ties :
    let samples : List Float := [2.5, 0.0, -0.0, 2.5]
    samples ≠ [] ∧ 0.0 = (ofSamples samples).medianMs ∧ 2.5 = (ofSamples samples).p95Ms := by
  intro samples
  have filled : samples ≠ [] := List.cons_ne_nil _ _
  have half : IsPercentile samples 50 0.0 :=
    ⟨List.mem_cons_of_mem _ List.mem_cons_self, by decide +kernel, by decide +kernel⟩
  have most : IsPercentile samples 95 2.5 :=
    ⟨List.mem_cons_self, by decide +kernel, by decide +kernel⟩
  have ranks := ofSamples_ranks filled
  exact ⟨filled, (ranks.median 0.0).mpr half, (ranks.p95 2.5).mpr most⟩

end LatencyStats

end RoomLoad
