import Mathlib.Algebra.Ring.Nat
import Mathlib.Data.List.Nodup
import RoomLoad.Proofs.Stats.Arrival

/-!
# Every record is counted once

A report groups the records of a run by room, by kind and by stretches of ten seconds.
Here it is shown that each grouping leaves nothing out and counts nothing twice.  For
rooms and stretches this comes down to tallies of numbers.  A stretch is found by cutting
milliseconds off a difference of nanoseconds and put back by adding milliseconds to the
first moment, which is exact as long as no moment falls into a leap second.
-/

namespace RoomLoad

variable {number other count : Nat} {numbers : List Nat} {counts : List (Nat × Nat)}

def occurrences (number : Nat) : List (Nat × Nat) → Nat
  | [] => 0
  | (other, count) :: rest => (if other = number then count else 0) + occurrences number rest

/-- A tally lists numbers in increasing order, each with a positive count. -/
structure IsTally (counts : List (Nat × Nat)) : Prop where
  increasing : counts.Pairwise fun left right => left.1 < right.1
  positive : ∀ entry ∈ counts, 0 < entry.2

theorem occurrences_tallyOne (number other : Nat) (counts : List (Nat × Nat)) :
    occurrences other (tallyOne number counts) =
      occurrences other counts + if number = other then 1 else 0 := by
  induction counts with
  | nil => simp [tallyOne, occurrences]
  | cons entry rest induction =>
      obtain ⟨listed, count⟩ := entry
      rw [tallyOne]
      split
      case isTrue => simp only [occurrences]; omega
      case isFalse =>
        split
        case isTrue same =>
          subst same
          simp only [occurrences]
          split <;> omega
        case isFalse => simp only [occurrences, induction]; omega

theorem occurrences_tally (number : Nat) (numbers : List Nat) :
    occurrences number (tally numbers) = numbers.count number := by
  have grows : ∀ (numbers : List Nat) (counts : List (Nat × Nat)),
      occurrences number (numbers.foldl (fun counts added => tallyOne added counts) counts) =
        occurrences number counts + numbers.count number := by
    intro numbers
    induction numbers with
    | nil => simp
    | cons added numbers induction =>
        intro counts
        simp only [List.foldl_cons, induction, occurrences_tallyOne, List.count_cons, beq_iff_eq]
        omega
  have all := grows numbers []
  rwa [occurrences, Nat.zero_add] at all

theorem eq_or_mem_of_mem_tallyOne {entry : Nat × Nat} (member : entry ∈ tallyOne number counts) :
    entry.1 = number ∨ ∃ former ∈ counts, former.1 = entry.1 := by
  induction counts with
  | nil => simp_all [tallyOne]
  | cons first rest induction =>
      obtain ⟨listed, count⟩ := first
      rw [tallyOne] at member
      split at member
      case isTrue =>
        obtain rfl | later := List.mem_cons.mp member
        · exact .inl rfl
        · exact .inr ⟨entry, later, rfl⟩
      case isFalse =>
        split at member
        case isTrue same =>
          obtain rfl | later := List.mem_cons.mp member
          · exact .inl same.symm
          · exact .inr ⟨entry, List.mem_cons_of_mem _ later, rfl⟩
        case isFalse =>
          obtain rfl | later := List.mem_cons.mp member
          · exact .inr ⟨_, List.mem_cons_self, rfl⟩
          · refine (induction later).imp id ?_
            rintro ⟨former, isFormer, same⟩
            exact ⟨former, List.mem_cons_of_mem _ isFormer, same⟩

theorem IsTally.tallyOne (isTally : IsTally counts) (number : Nat) :
    IsTally (tallyOne number counts) := by
  induction counts with
  | nil => exact ⟨List.pairwise_singleton _ _, by simp [RoomLoad.tallyOne]⟩
  | cons first rest induction =>
      obtain ⟨listed, count⟩ := first
      obtain ⟨before, increasing⟩ := List.pairwise_cons.mp isTally.increasing
      have positive := List.forall_mem_cons.mp isTally.positive
      rw [RoomLoad.tallyOne]
      split
      case isTrue smaller =>
        constructor
        case increasing =>
          refine .cons ?_ isTally.increasing
          intro later member
          obtain rfl | behind := List.mem_cons.mp member
          · exact smaller
          · exact Nat.lt_trans smaller (before later behind)
        case positive => exact List.forall_mem_cons.mpr ⟨Nat.one_pos, isTally.positive⟩
      case isFalse notSmaller =>
        split
        case isTrue =>
          exact ⟨.cons before increasing,
            List.forall_mem_cons.mpr ⟨Nat.succ_pos count, positive.2⟩⟩
        case isFalse different =>
          have others := induction ⟨increasing, positive.2⟩
          constructor
          case increasing =>
            refine .cons ?_ others.increasing
            intro later member
            obtain same | ⟨former, isFormer, same⟩ := eq_or_mem_of_mem_tallyOne member
            · simp only [same]
              omega
            · rw [← same]
              exact before former isFormer
          case positive => exact List.forall_mem_cons.mpr ⟨positive.1, others.positive⟩

theorem isTally_tally (numbers : List Nat) : IsTally (tally numbers) :=
  List.foldlRecOn numbers _ (motive := IsTally) ⟨.nil, nofun⟩ fun _ isTally added _ =>
    isTally.tallyOne added

theorem occurrences_eq_zero (absent : ∀ entry ∈ counts, entry.1 ≠ number) :
    occurrences number counts = 0 := by
  induction counts with
  | nil => rfl
  | cons entry rest induction =>
      have apart := List.forall_mem_cons.mp absent
      simp [occurrences, apart.1, induction apart.2]

theorem IsTally.occurrences_of_mem (isTally : IsTally counts) (member : (number, count) ∈ counts) :
    occurrences number counts = count := by
  induction counts with
  | nil => contradiction
  | cons first rest induction =>
      obtain ⟨listed, held⟩ := first
      obtain ⟨before, increasing⟩ := List.pairwise_cons.mp isTally.increasing
      have positive := List.forall_mem_cons.mp isTally.positive
      rw [occurrences]
      obtain same | later := List.mem_cons.mp member
      · obtain ⟨rfl, rfl⟩ := Prod.mk.inj same
        have absent : occurrences number rest = 0 :=
          occurrences_eq_zero fun entry isLater => Nat.ne_of_gt (before entry isLater)
        simp [absent]
      · have apart : listed ≠ number := Nat.ne_of_lt (before _ later)
        simp [apart, induction ⟨increasing, positive.2⟩ later]

/-- What is listed in a tally of some numbers: those that occur, as often as they do. -/
theorem count_of_mem_tally (member : (number, count) ∈ tally numbers) :
    count = numbers.count number ∧ 0 < count := by
  rw [← occurrences_tally, (isTally_tally numbers).occurrences_of_mem member]
  exact ⟨rfl, (isTally_tally numbers).positive _ member⟩

theorem mem_keys_tally_iff : number ∈ (tally numbers).map Prod.fst ↔ number ∈ numbers := by
  constructor
  · intro listed
    obtain ⟨⟨_, count⟩, member, rfl⟩ := List.mem_map.mp listed
    obtain ⟨same, positive⟩ := count_of_mem_tally member
    exact List.count_pos_iff.mp (same ▸ positive)
  · intro occurs
    by_contra absent
    have missing : occurrences number (tally numbers) = 0 := by
      apply occurrences_eq_zero
      rintro entry member rfl
      exact absent (List.mem_map_of_mem member)
    rw [occurrences_tally, List.count_eq_zero] at missing
    exact missing occurs

theorem nodup_keys_tally (numbers : List Nat) : ((tally numbers).map Prod.fst).Nodup := by
  apply List.Pairwise.imp (R := (· < ·)) (fun less => Nat.ne_of_lt less)
  exact List.pairwise_map.mpr (isTally_tally numbers).increasing

theorem eq_zero_of_head?_tally {entry : Nat × Nat} (occurs : 0 ∈ numbers)
    (atHead : (tally numbers).head? = some entry) : entry.1 = 0 := by
  obtain ⟨rest, whole⟩ := List.head?_eq_some_iff.mp atHead
  have listed : 0 ∈ (tally numbers).map Prod.fst := mem_keys_tally_iff.mpr occurs
  have increasing := (isTally_tally numbers).increasing
  rw [whole] at listed increasing
  obtain same | later := List.mem_cons.mp listed
  · exact same.symm
  · obtain ⟨behind, member, isZero⟩ := List.mem_map.mp later
    have less := (List.pairwise_cons.mp increasing).1 behind member
    omega

theorem sum_counts (counts : List (Nat × Nat)) : (counts.map Prod.snd).sum = tallied counts := by
  induction counts with
  | nil => rfl
  | cons entry rest induction => rw [List.map_cons, List.sum_cons, induction, tallied]

theorem sum_tally (numbers : List Nat) : ((tally numbers).map Prod.snd).sum = numbers.length := by
  have grows : ∀ (numbers : List Nat) (counts : List (Nat × Nat)),
      tallied (numbers.foldl (fun counts added => tallyOne added counts) counts) =
        tallied counts + numbers.length := by
    intro numbers
    induction numbers with
    | nil => exact fun _ => rfl
    | cons added numbers induction =>
        intro counts
        rw [List.foldl_cons, induction, tallied_tallyOne, List.length_cons]
        omega
  rw [sum_counts, tally, grows]
  simp [tallied]

variable {records : List LatencyRecord}

/-- Rooms that are listed in increasing order, exactly those with a record, each with the
number of its records. -/
structure SplitsByRoom (rooms : List RoomThroughput) (records : List LatencyRecord) : Prop where
  increasing : rooms.Pairwise fun left right => left.room < right.room
  occurs : ∀ room, (∃ entry ∈ rooms, entry.room = room) ↔ ∃ record ∈ records, record.room = room
  counts : ∀ entry ∈ rooms, entry.count = records.countP fun record => record.room == entry.room
  total : (rooms.map RoomThroughput.count).sum = records.length

/-- All kinds are listed, each with the number of its records. -/
structure SplitsByKind (kinds : List KindShare) (records : List LatencyRecord) : Prop where
  all : kinds.map KindShare.kind = [.text, .join, .leave]
  counts : ∀ share ∈ kinds, share.count = records.countP fun record => record.kind == share.kind
  total : (kinds.map KindShare.count).sum = records.length

theorem mem_roomThroughput {entry : RoomThroughput} (member : entry ∈ roomThroughput records) :
    (entry.room.toNat, entry.count) ∈ tally (records.map fun record => record.room.toNat) := by
  obtain ⟨⟨number, count⟩, listed, rfl⟩ := List.mem_map.mp member
  obtain ⟨record, _, rfl⟩ := List.mem_map.mp
    (mem_keys_tally_iff.mp (List.mem_map_of_mem (f := Prod.fst) listed))
  simpa using listed

theorem roomThroughput_map_count (records : List LatencyRecord) :
    (roomThroughput records).map RoomThroughput.count =
      (tally (records.map fun record => record.room.toNat)).map Prod.snd := by
  simp [roomThroughput, Function.comp_def]

theorem roomThroughput_map_room (records : List LatencyRecord) :
    (roomThroughput records).map (fun entry => entry.room.toNat) =
      (tally (records.map fun record => record.room.toNat)).map Prod.fst := by
  simp only [roomThroughput, List.map_map]
  apply List.map_congr_left
  intro entry listed
  obtain ⟨record, _, same⟩ := List.mem_map.mp
    (mem_keys_tally_iff.mp (List.mem_map_of_mem (f := Prod.fst) listed))
  simp [← same]

theorem roomThroughput_splits (records : List LatencyRecord) :
    SplitsByRoom (roomThroughput records) records := by
  constructor
  case increasing =>
    have ordered : ((roomThroughput records).map fun entry => entry.room.toNat).Pairwise
        fun left right => left < right := by
      rw [roomThroughput_map_room]
      exact List.pairwise_map.mpr (isTally_tally _).increasing
    exact (List.pairwise_map.mp ordered).imp UInt32.lt_iff_toNat_lt.mpr
  case occurs =>
    intro room
    have listed : room.toNat ∈ (roomThroughput records).map (fun entry => entry.room.toNat) ↔
        room.toNat ∈ records.map fun record => record.room.toNat := by
      rw [roomThroughput_map_room]
      exact mem_keys_tally_iff
    simpa only [List.mem_map, UInt32.toNat_inj] using listed
  case counts =>
    intro entry member
    obtain ⟨same, _⟩ := count_of_mem_tally (mem_roomThroughput member)
    rw [same, List.count_eq_countP, List.countP_map]
    apply List.countP_congr
    intro record _
    simp [UInt32.toNat_inj]
  case total =>
    rw [roomThroughput_map_count, sum_tally, List.length_map]

theorem kindDistribution_splits (records : List LatencyRecord) :
    SplitsByKind (kindDistribution records) records := by
  constructor
  case all => rfl
  case counts =>
    intro share member
    obtain ⟨kind, _, rfl⟩ := List.mem_map.mp member
    rfl
  case total =>
    simp only [kindDistribution, MessageKind.all, List.map_cons, List.map_nil, List.sum_cons,
      List.sum_nil]
    induction records with
    | nil => rfl
    | cons record records induction =>
        simp only [List.countP_cons, List.length_cons]
        cases record.kind <;> simp <;> omega

namespace Timestamp

def epochNanos (moment : Timestamp) : Int :=
  moment.secs * 1000000000 + moment.nanos

/-- Whether a moment is not in the second half of a second that lasts two. -/
def IsPlain (moment : Timestamp) : Prop :=
  moment.nanos < 1000000000

variable {moment earlier later : Timestamp}

theorem IsPlain.isAtOrBefore_iff (first : earlier.IsPlain) (second : later.IsPlain) :
    earlier.isAtOrBefore later ↔ earlier.epochNanos ≤ later.epochNanos := by
  rw [Timestamp.isAtOrBefore_iff, epochNanos, epochNanos]
  unfold IsPlain at first second
  omega

theorem IsPlain.nanosSince_eq (first : earlier.IsPlain) (second : later.IsPlain) :
    later.nanosSince earlier = later.epochNanos - earlier.epochNanos := by
  unfold IsPlain at first second
  simp only [nanosSince, epochNanos, decide_eq_false (Nat.not_le.mpr first),
    decide_eq_false (Nat.not_le.mpr second), Bool.and_false, Bool.false_eq_true, if_false]
  omega

theorem IsPlain.plusMillis_eq (plain : moment.IsPlain) (millis : Nat) :
    (moment.plusMillis millis).IsPlain ∧
      (moment.plusMillis millis).epochNanos = moment.epochNanos + millis * 1000000 := by
  unfold IsPlain at plain
  have notLong : ¬ moment.nanos ≥ 1000000000 := by omega
  simp only [plusMillis, notLong, decide_false, Bool.false_and, Bool.false_eq_true, if_false,
    epochNanos, IsPlain]
  omega

theorem IsPlain.eq_of_epochNanos (first : earlier.IsPlain) (second : later.IsPlain)
    (same : earlier.epochNanos = later.epochNanos) : earlier = later :=
  eq_of_isAtOrBefore ((first.isAtOrBefore_iff second).mpr (Int.le_of_eq same))
    ((second.isAtOrBefore_iff first).mpr (Int.le_of_eq same.symm))

theorem foldl_earlier (moments : List Timestamp) (start : Timestamp) :
    (moments.foldl Timestamp.earlier start = start ∨
        moments.foldl Timestamp.earlier start ∈ moments) ∧
      (moments.foldl Timestamp.earlier start).isAtOrBefore start ∧
      ∀ moment ∈ moments, (moments.foldl Timestamp.earlier start).isAtOrBefore moment := by
  induction moments generalizing start with
  | nil => simp [isAtOrBefore]
  | cons moment moments induction =>
      have chosen : (start.earlier moment = start ∨ start.earlier moment = moment) ∧
          (start.earlier moment).isAtOrBefore start ∧
          (start.earlier moment).isAtOrBefore moment := by
        unfold Timestamp.earlier
        split
        case isTrue before => exact ⟨.inl rfl, by simp [isAtOrBefore], before⟩
        case isFalse after =>
          exact ⟨.inr rfl, isAtOrBefore_of_not after, by simp [isAtOrBefore]⟩
      obtain ⟨found, least, others⟩ := induction (start.earlier moment)
      obtain ⟨which, atStart, atMoment⟩ := chosen
      rw [List.foldl_cons]
      refine ⟨?_, isAtOrBefore_trans least atStart,
        List.forall_mem_cons.mpr ⟨isAtOrBefore_trans least atMoment, others⟩⟩
      obtain same | later := found
      · rw [same]
        obtain atStart | atMoment := which
        · exact .inl atStart
        · exact .inr (List.mem_cons.mpr (.inl atMoment))
      · exact .inr (List.mem_cons_of_mem _ later)

end Timestamp

def stretchNanos : Int := 10000000000

def IsEarliest (moment : Timestamp) (records : List LatencyRecord) : Prop :=
  (∃ record ∈ records, record.receivedAt = moment) ∧
    ∀ record ∈ records, moment.epochNanos ≤ record.receivedAt.epochNanos

/-- Whether a record was made within ten seconds from the start of a stretch. -/
def ThroughputBucket.covers (bucket : ThroughputBucket) (record : LatencyRecord) : Bool :=
  bucket.start.epochNanos ≤ record.receivedAt.epochNanos &&
    record.receivedAt.epochNanos < bucket.start.epochNanos + stretchNanos

/-- Stretches of ten seconds in increasing order, the first from the earliest record on and
each a whole number of stretches later; they count the records that they cover, of which
there are some, and every record is covered by one. -/
structure SplitsByTime (series : List ThroughputBucket) (records : List LatencyRecord) :
    Prop where
  increasing : series.Pairwise fun left right => left.start.epochNanos < right.start.epochNanos
  first : ∀ bucket, series.head? = some bucket → IsEarliest bucket.start records
  aligned : ∀ earliest, IsEarliest earliest records → ∀ bucket ∈ series,
    ∃ steps : Nat, bucket.start.epochNanos = earliest.epochNanos + steps * stretchNanos
  counts : ∀ bucket ∈ series, 0 < bucket.count ∧ bucket.count = records.countP bucket.covers
  once : ∀ record ∈ records, series.countP (fun bucket => bucket.covers record) = 1
  total : (series.map ThroughputBucket.count).sum = records.length

section Stretches

variable {first other : Timestamp} {record : LatencyRecord}
  (plain : ∀ record ∈ records, record.receivedAt.IsPlain)

include plain in
theorem isEarliest_of_firstReceived? (found : firstReceived? records = some first) :
    IsEarliest first records := by
  cases records with
  | nil => contradiction
  | cons record rest =>
      obtain ⟨which, atFirst, others⟩ := Timestamp.foldl_earlier
        (rest.map LatencyRecord.receivedAt) record.receivedAt
      simp only [firstReceived?, Option.some.injEq] at found
      rw [found] at which atFirst others
      have received : ∃ made ∈ record :: rest, made.receivedAt = first := by
        obtain rfl | later := which
        · exact ⟨record, List.mem_cons_self, rfl⟩
        · obtain ⟨made, member, same⟩ := List.mem_map.mp later
          exact ⟨made, List.mem_cons_of_mem _ member, same⟩
      refine ⟨received, ?_⟩
      obtain ⟨made, isMade, rfl⟩ := received
      intro other member
      rw [← (plain made isMade).isAtOrBefore_iff (plain other member)]
      obtain rfl | behind := List.mem_cons.mp member
      · exact atFirst
      · exact others _ (List.mem_map_of_mem behind)

theorem IsEarliest.epochNanos_eq (earliest : IsEarliest first records)
    (otherEarliest : IsEarliest other records) : other.epochNanos = first.epochNanos := by
  obtain ⟨⟨made, isMade, rfl⟩, notBefore⟩ := earliest
  obtain ⟨⟨otherMade, otherIsMade, rfl⟩, otherNotBefore⟩ := otherEarliest
  exact Int.le_antisymm (otherNotBefore made isMade) (notBefore otherMade otherIsMade)

include plain in
theorem IsEarliest.isPlain (earliest : IsEarliest first records) : first.IsPlain := by
  obtain ⟨⟨made, isMade, rfl⟩, _⟩ := earliest
  exact plain made isMade

/-- Cutting the milliseconds off and dividing twice finds the stretch all the same. -/
theorem bucketIndex_eq_iff (firstPlain : first.IsPlain) (recordPlain : record.receivedAt.IsPlain)
    (notBefore : first.epochNanos ≤ record.receivedAt.epochNanos) (index : Nat) :
    bucketIndex first record = index ↔
      first.epochNanos + index * stretchNanos ≤ record.receivedAt.epochNanos ∧
        record.receivedAt.epochNanos < first.epochNanos + index * stretchNanos + stretchNanos := by
  rw [bucketIndex, Timestamp.millisSince, firstPlain.nanosSince_eq recordPlain,
    Int.tdiv_eq_ediv_of_nonneg (by omega), bucketMillis, stretchNanos]
  omega

/-- The stretch with an index. -/
def stretchAt (first : Timestamp) (entry : Nat × Nat) : ThroughputBucket :=
  ⟨first.plusMillis (entry.1 * bucketMillis), entry.2, countFloat entry.2 / 10.0⟩

theorem throughputSeries_eq (found : firstReceived? records = some first) :
    throughputSeries records =
      (tally (records.map (bucketIndex first))).map (stretchAt first) := by
  rw [throughputSeries, found]
  rfl

theorem start_stretchAt (firstPlain : first.IsPlain) (entry : Nat × Nat) :
    (stretchAt first entry).start.IsPlain ∧
      (stretchAt first entry).start.epochNanos = first.epochNanos + entry.1 * stretchNanos := by
  obtain ⟨plain, same⟩ := firstPlain.plusMillis_eq (entry.1 * bucketMillis)
  refine ⟨plain, ?_⟩
  rw [stretchAt, same]
  simp only [bucketMillis, stretchNanos]
  omega

theorem start_stretchAt_of_eq_zero (firstPlain : first.IsPlain) {entry : Nat × Nat}
    (isZero : entry.1 = 0) : (stretchAt first entry).start = first := by
  obtain ⟨startPlain, startAt⟩ := start_stretchAt firstPlain entry
  apply startPlain.eq_of_epochNanos firstPlain
  rw [startAt, isZero]
  omega

variable (earliest : IsEarliest first records)

include plain earliest

theorem covers_stretchAt (member : record ∈ records) (entry : Nat × Nat) :
    (stretchAt first entry).covers record = (entry.1 == bucketIndex first record) := by
  have firstPlain := earliest.isPlain plain
  rw [Bool.eq_iff_iff, ThroughputBucket.covers, (start_stretchAt firstPlain entry).2, beq_iff_eq,
    eq_comm (a := entry.1),
    bucketIndex_eq_iff firstPlain (plain record member) (earliest.2 record member)]
  simp

theorem zero_mem_map_bucketIndex : 0 ∈ records.map (bucketIndex first) := by
  obtain ⟨⟨opening, isOpening, openingAt⟩, notBefore⟩ := earliest
  refine List.mem_map.mpr ⟨opening, isOpening, ?_⟩
  rw [bucketIndex_eq_iff (openingAt ▸ plain opening isOpening) (plain opening isOpening)
    (notBefore opening isOpening), openingAt, stretchNanos]
  omega

theorem countP_covers (entry : Nat × Nat) :
    records.countP (stretchAt first entry).covers =
      (records.map (bucketIndex first)).count entry.1 := by
  rw [List.count_eq_countP, List.countP_map]
  apply List.countP_congr
  intro record member
  simp only [covers_stretchAt plain earliest member, Function.comp_apply, beq_iff_eq]
  exact eq_comm

theorem countP_stretchAt (member : record ∈ records) (counts : List (Nat × Nat)) :
    (counts.map (stretchAt first)).countP (fun bucket => bucket.covers record) =
      (counts.map Prod.fst).count (bucketIndex first record) := by
  rw [List.count_eq_countP, List.countP_map, List.countP_map]
  apply List.countP_congr
  intro entry _
  simp only [Function.comp_apply, covers_stretchAt plain earliest member]

omit earliest in
theorem throughputSeries_splits : SplitsByTime (throughputSeries records) records := by
  cases found : firstReceived? records with
  | none =>
      cases records with
      | nil => constructor <;> simp [throughputSeries, firstReceived?]
      | cons => contradiction
  | some first =>
      have earliest : IsEarliest first records := isEarliest_of_firstReceived? plain found
      have firstPlain : first.IsPlain := earliest.isPlain plain
      rw [throughputSeries_eq found]
      constructor
      case increasing =>
        apply List.pairwise_map.mpr
        refine (isTally_tally _).increasing.imp ?_
        intro left right less
        rw [(start_stretchAt firstPlain left).2, (start_stretchAt firstPlain right).2,
          stretchNanos]
        omega
      case first =>
        intro bucket atHead
        rw [List.head?_map, Option.map_eq_some_iff] at atHead
        obtain ⟨entry, atHead, rfl⟩ := atHead
        have isZero : entry.1 = 0 :=
          eq_zero_of_head?_tally (zero_mem_map_bucketIndex plain earliest) atHead
        rw [start_stretchAt_of_eq_zero firstPlain isZero]
        exact earliest
      case aligned =>
        intro other otherEarliest bucket member
        obtain ⟨entry, _, rfl⟩ := List.mem_map.mp member
        refine ⟨entry.1, ?_⟩
        rw [(start_stretchAt firstPlain entry).2, earliest.epochNanos_eq otherEarliest]
      case counts =>
        intro bucket member
        obtain ⟨entry, listed, rfl⟩ := List.mem_map.mp member
        obtain ⟨same, positive⟩ := count_of_mem_tally listed
        exact ⟨positive, same.trans (countP_covers plain earliest entry).symm⟩
      case once =>
        intro record member
        rw [countP_stretchAt plain earliest member]
        exact List.count_eq_one_of_mem (nodup_keys_tally _)
          (mem_keys_tally_iff.mpr (List.mem_map_of_mem member))
      case total =>
        rw [List.map_map, ← List.length_map (f := bucketIndex first), ← sum_tally]
        rfl

end Stretches

theorem LatencyStats.count_ofRecords (records : List LatencyRecord) :
    (LatencyStats.ofRecords records).count = records.length := by
  rw [ofRecords, ofSamples, sortSamples, List.length_mergeSort, List.length_map]
  split
  case isTrue empty => exact empty.symm
  case isFalse => rfl

/-- The three groupings of a report split its records: by stretches of ten seconds, by
rooms and by kinds, every record is counted exactly once, and each grouping adds up to the
number of latencies. -/
theorem RunReport.build_splits (plain : ∀ record ∈ records, record.receivedAt.IsPlain)
    (summary : RunSummary) (warmup : Option WarmupReport) (probe : Option ProbeReport)
    (concurrency : Float) :
    SplitsByTime (build summary records warmup probe concurrency).throughputSeries records ∧
      SplitsByRoom (build summary records warmup probe concurrency).rooms records ∧
      SplitsByKind (build summary records warmup probe concurrency).kinds records ∧
      (build summary records warmup probe concurrency).latency.count = records.length :=
  ⟨throughputSeries_splits plain, roomThroughput_splits records, kindDistribution_splits records,
    LatencyStats.count_ofRecords records⟩

/-- Three records out of order: the earliest, which is not made on a whole millisecond, one
made a nanosecond before ten seconds have passed since then, and one made when they have. -/
theorem RunReport.build_splits_of_edges :
    let summary : RunSummary := ⟨3, 3, 3, 0, 0, 0, 0, false, false, ⟨3, 0, 2, 0, 12000, 0.25⟩⟩
    let opening : LatencyRecord := ⟨0, ⟨100, 500600⟩, .text, .ofMillis 300, .ok, 2⟩
    let inside : LatencyRecord := ⟨1, ⟨110, 500599⟩, .join, .ofMillis 100, .ok, 1⟩
    let outside : LatencyRecord := ⟨2, ⟨110, 500600⟩, .text, .ofMillis 200, .error, 2⟩
    let records := [outside, opening, inside]
    let report := RunReport.build summary records none none 1.0
    (∀ record ∈ records, record.receivedAt.IsPlain) ∧
      report.throughputSeries.map (fun bucket => (bucket.start, bucket.count)) =
        [(⟨100, 500600⟩, 2), (⟨110, 500600⟩, 1)] ∧
      SplitsByTime report.throughputSeries records ∧ SplitsByRoom report.rooms records ∧
      SplitsByKind report.kinds records ∧ report.latency.count = records.length := by
  intro summary opening inside outside records report
  have plain : ∀ record ∈ records, record.receivedAt.IsPlain := by
    simp [records, opening, inside, outside, Timestamp.IsPlain]
  exact ⟨plain, by decide +kernel, RunReport.build_splits plain summary none none 1.0⟩

end RoomLoad
