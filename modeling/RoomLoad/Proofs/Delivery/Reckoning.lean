import RoomLoad.Proofs.Config.Acceptance
import RoomLoad.Proofs.Delivery.Backoff

/-!
# Reckoning a wait in machine words

A duration is kept in two words: its whole seconds, and the nanoseconds beyond them.  To
multiply it the nanoseconds are multiplied first, and the seconds that they make are carried
over; only where the seconds leave their word is the longest duration taken instead.  The
other steps are made without looking.  Here the same is done so that such a step yields
nothing where its result does not fit: none ever does, and the wait that comes out is the
one that is reckoned without words.  Up to the cap the waits of a policy only grow.
-/

namespace RoomLoad

/-- The sum of two words, if it fits in one. -/
def wordSum? (left right : UInt64) : Option UInt64 :=
  if left.toNat + right.toNat < Text.word64 then some (left + right) else none

/-- The product of two words, if it fits in one. -/
def wordProduct? (left right : UInt64) : Option UInt64 :=
  if left.toNat * right.toNat < Text.word64 then some (left * right) else none

/-- A word cut to half its width, if nothing is lost. -/
def halfWord? (word : UInt64) : Option UInt32 :=
  if word.toNat < Text.word32 then some word.toUInt32 else none

variable {left right word : UInt64} {half : UInt32}

theorem fitting_eq_some_iff {result : UInt64} {number : Nat}
    (exact : number < Text.word64 → result.toNat = number) :
    (if number < Text.word64 then some result else none) = some word ↔ word.toNat = number := by
  have bound : word.toNat < Text.word64 := word.toNat_lt
  split
  case isTrue fits => rw [Option.some.injEq, ← UInt64.toNat_inj, exact fits, eq_comm]
  case isFalse exceeds =>
    simp only [reduceCtorEq, false_iff]
    omega

theorem wordSum?_eq_some_iff :
    wordSum? left right = some word ↔ word.toNat = left.toNat + right.toNat := by
  apply fitting_eq_some_iff
  intro fits
  rw [UInt64.toNat_add]
  exact Nat.mod_eq_of_lt fits

theorem wordProduct?_eq_some_iff :
    wordProduct? left right = some word ↔ word.toNat = left.toNat * right.toNat := by
  apply fitting_eq_some_iff
  intro fits
  rw [UInt64.toNat_mul]
  exact Nat.mod_eq_of_lt fits

theorem halfWord?_eq_some_iff : halfWord? word = some half ↔ half.toNat = word.toNat := by
  have bound : half.toNat < Text.word32 := half.toNat_lt
  unfold halfWord?
  split
  case isTrue fits =>
    have exact : word.toUInt32.toNat = word.toNat := by
      rw [UInt64.toNat_toUInt32]
      exact Nat.mod_eq_of_lt fits
    rw [Option.some.injEq, ← UInt32.toNat_inj, exact, eq_comm]
  case isFalse exceeds =>
    simp only [reduceCtorEq, false_iff]
    omega

theorem exists_word {number : Nat} (fits : number < Text.word64) :
    ∃ word : UInt64, word.toNat = number :=
  ⟨UInt64.ofNat number, UInt64.toNat_ofNat_of_lt' fits⟩

/-- A duration as it is kept: whole seconds, and the nanoseconds beyond them. -/
structure DurationWords where
  secs : UInt64
  nanos : UInt32
  nanos_lt : nanos.toNat < Duration.perSecond
deriving DecidableEq

namespace DurationWords

def secondWord : UInt64 := UInt64.ofNat Duration.perSecond

/-- The nanoseconds of one second, as a word of half the width. -/
def secondHalf : UInt32 := UInt32.ofNat Duration.perSecond

theorem toNat_secondWord : secondWord.toNat = Duration.perSecond := rfl

def duration (words : DurationWords) : Duration where
  nanos := words.secs.toNat * Duration.perSecond + words.nanos.toNat
  nanos_lt := by
    have secsBound := words.secs.toNat_lt
    have nanosBound := words.nanos_lt
    unfold Duration.perSecond at *
    omega

def of (duration : Duration) : DurationWords where
  secs := UInt64.ofNat duration.wholeSecs
  nanos := UInt32.ofNat duration.subsecNanos
  nanos_lt := by
    have small : duration.subsecNanos < Duration.perSecond := Nat.mod_lt _ (by decide)
    rw [UInt32.toNat_ofNat_of_lt' (Nat.lt_trans small (by decide))]
    exact small

/-- The words of so many seconds and nanoseconds.  Nanoseconds that make up a second or more
are carried over without looking whether the seconds then still fit. -/
def make? (secs : UInt64) (nanos : UInt32) : Option DurationWords :=
  if small : nanos.toNat < Duration.perSecond then
    some ⟨secs, nanos, small⟩
  else
    (wordSum? secs (nanos.toUInt64 / secondWord)).map fun carried =>
      ⟨carried, nanos % secondHalf, by
        rw [UInt32.toNat_mod]
        exact Nat.mod_lt _ (by decide)⟩

def longest : DurationWords :=
  of Duration.longest

/-- A multiple of a duration, or the longest one.  The nanoseconds are multiplied and cut
without looking; only the seconds are looked after. -/
def scale? (words : DurationWords) (factor : UInt32) : Option DurationWords := do
  let beyond ← wordProduct? words.nanos.toUInt64 factor.toUInt64
  let nanos ← halfWord? (beyond % secondWord)
  match (wordProduct? words.secs factor.toUInt64).bind (wordSum? · (beyond / secondWord)) with
  | some secs => make? secs nanos
  | none => some longest

/-- Whether a duration is shorter than another: the seconds decide, and the nanoseconds where
the seconds are the same. -/
def isBefore (left right : DurationWords) : Bool :=
  left.secs < right.secs || left.secs == right.secs && left.nanos < right.nanos

def shorter (left right : DurationWords) : DurationWords :=
  if right.isBefore left then right else left

@[simp]
theorem duration_of (duration : Duration) : (of duration).duration = duration := by
  have bound := duration.nanos_lt
  have secsFit : duration.wholeSecs < Text.word64 := by
    unfold Duration.wholeSecs Duration.perSecond Text.word64
    omega
  have nanosFit : duration.subsecNanos < Text.word32 :=
    Nat.lt_trans (Nat.mod_lt _ (by decide)) (by decide)
  apply Duration.ext
  simp only [DurationWords.duration, of, UInt64.toNat_ofNat_of_lt' secsFit,
    UInt32.toNat_ofNat_of_lt' nanosFit]
  exact Nat.div_add_mod' _ _

variable {words other : DurationWords} {factor : UInt32} {secs : UInt64} {nanos : UInt32}

theorem nanos_duration (words : DurationWords) :
    words.duration.nanos = words.secs.toNat * Duration.perSecond + words.nanos.toNat :=
  rfl

theorem of_duration (words : DurationWords) : of words.duration = words := by
  have bound : words.nanos.toNat < Duration.perSecond := words.nanos_lt
  have positive : 0 < Duration.perSecond := by decide
  have whole : words.duration.wholeSecs = words.secs.toNat := by
    rw [Duration.wholeSecs, nanos_duration, Nat.mul_comm, Nat.mul_add_div positive,
      Nat.div_eq_of_lt bound, Nat.add_zero]
  have rest : words.duration.subsecNanos = words.nanos.toNat := by
    rw [Duration.subsecNanos, nanos_duration, Nat.mul_comm, Nat.mul_add_mod,
      Nat.mod_eq_of_lt bound]
  simp only [of, whole, rest, UInt64.ofNat_toNat, UInt32.ofNat_toNat]

theorem make?_of_lt (small : nanos.toNat < Duration.perSecond) :
    make? secs nanos = some ⟨secs, nanos, small⟩ := by
  rw [make?, dif_pos small]

theorem nanos_scaled (words : DurationWords) (factor : UInt32) :
    words.duration.nanos * factor.toNat =
      (words.secs.toNat * factor.toNat + words.nanos.toNat * factor.toNat / Duration.perSecond) *
          Duration.perSecond +
        words.nanos.toNat * factor.toNat % Duration.perSecond := by
  have parts := Nat.div_add_mod' (words.nanos.toNat * factor.toNat) Duration.perSecond
  rw [nanos_duration, Nat.add_mul, Nat.add_mul, Nat.add_assoc, parts, Nat.mul_right_comm]

/-- The seconds of a multiple are a word exactly if their sum is less than a word holds. -/
theorem secs_eq_some_iff {beyond : UInt64}
    (product : beyond.toNat = words.nanos.toNat * factor.toNat) :
    (wordProduct? words.secs factor.toUInt64).bind (wordSum? · (beyond / secondWord)) =
        some secs ↔
      secs.toNat = words.secs.toNat * factor.toNat +
        words.nanos.toNat * factor.toNat / Duration.perSecond := by
  have carried : (beyond / secondWord).toNat =
      words.nanos.toNat * factor.toNat / Duration.perSecond := by
    rw [UInt64.toNat_div, product, toNat_secondWord]
  simp only [Option.bind_eq_some_iff, wordProduct?_eq_some_iff, wordSum?_eq_some_iff, carried,
    UInt32.toNat_toUInt64]
  constructor
  · rintro ⟨whole, wholeEq, secsEq⟩
    rw [secsEq, wholeEq]
  · intro secsEq
    have bound : secs.toNat < Text.word64 := secs.toNat_lt
    obtain ⟨whole, wholeEq⟩ := exists_word
      (show words.secs.toNat * factor.toNat < Text.word64 by omega)
    exact ⟨whole, wholeEq, by rw [secsEq, wholeEq]⟩

/-- No step of a multiplication goes wrong, and what comes out is the multiple or the longest
duration. -/
theorem scale?_eq (words : DurationWords) (factor : UInt32) :
    words.scale? factor = some (of (words.duration.scale factor.toNat)) := by
  have nanosBound : words.nanos.toNat < Duration.perSecond := words.nanos_lt
  have factorBound : factor.toNat < Text.word32 := factor.toNat_lt
  have fits : words.nanos.toNat * factor.toNat < Text.word64 :=
    Nat.lt_of_le_of_lt
      (Nat.mul_le_mul (Nat.le_of_lt nanosBound) (Nat.le_of_lt factorBound)) (by decide)
  obtain ⟨beyond, product⟩ := exists_word fits
  have multiplied : wordProduct? words.nanos.toUInt64 factor.toUInt64 = some beyond :=
    wordProduct?_eq_some_iff.mpr product
  have rest : (beyond % secondWord).toNat =
      words.nanos.toNat * factor.toNat % Duration.perSecond := by
    rw [UInt64.toNat_mod, product, toNat_secondWord]
  have restBound : (beyond % secondWord).toNat < Duration.perSecond :=
    rest ▸ Nat.mod_lt _ (by decide)
  obtain ⟨nanos, cut⟩ : ∃ nanos, halfWord? (beyond % secondWord) = some nanos :=
    ⟨_, if_pos (Nat.lt_trans restBound (by decide))⟩
  have nanosEq := halfWord?_eq_some_iff.mp cut
  have small : nanos.toNat < Duration.perSecond := nanosEq ▸ restBound
  simp only [scale?, multiplied, cut, Option.bind_eq_bind, Option.bind_some]
  split
  case h_1 secs found =>
    have secsEq := (secs_eq_some_iff product).mp found
    have total : words.duration.nanos * factor.toNat =
        (duration ⟨secs, nanos, small⟩).nanos := by
      rw [nanos_scaled, nanos_duration, secsEq, nanosEq, rest]
    rw [make?_of_lt small, Duration.scale, total, Duration.ofNanos_nanos, of_duration]
  case h_2 exceeds =>
    have large : Text.word64 ≤ words.secs.toNat * factor.toNat +
        words.nanos.toNat * factor.toNat / Duration.perSecond := by
      apply Nat.le_of_not_lt
      intro less
      obtain ⟨secs, secsEq⟩ := exists_word less
      rw [(secs_eq_some_iff product).mpr secsEq] at exceeds
      contradiction
    have total : Text.word64 * Duration.perSecond ≤ words.duration.nanos * factor.toNat := by
      rw [nanos_scaled]
      exact Nat.le_add_right_of_le (Nat.mul_le_mul_right _ large)
    rw [Duration.scale, Duration.ofNanos_of_le total, longest]

theorem isBefore_iff :
    words.isBefore other = true ↔ words.duration.nanos < other.duration.nanos := by
  have bound := words.nanos_lt
  have otherBound := other.nanos_lt
  simp only [isBefore, Bool.or_eq_true, Bool.and_eq_true, decide_eq_true_iff, beq_iff_eq,
    UInt64.lt_iff_toNat_lt, UInt32.lt_iff_toNat_lt, ← UInt64.toNat_inj, nanos_duration]
  unfold Duration.perSecond at *
  omega

theorem shorter_of (left right : Duration) :
    (of left).shorter (of right) = of (left.min right) := by
  rw [shorter, Duration.min]
  by_cases before : right.nanos < left.nanos
  · have first : (of right).isBefore (of left) = true := isBefore_iff.mpr (by simpa using before)
    rw [if_pos first, if_neg (Nat.not_le.mpr before)]
  · have last : ¬ (of right).isBefore (of left) = true :=
      fun first => before (by simpa using isBefore_iff.mp first)
    rw [if_neg last, if_pos (Nat.le_of_not_lt before)]

end DurationWords

namespace RetryPolicy

/-- By how much the base is multiplied, as a word: one is shifted to the left by the failures
after the first, as far as it goes. -/
def factorWord (attempt : UInt32) : UInt32 :=
  let shift := if attempt = 0 then 0 else attempt - 1
  if shift < 32 then 1 <<< shift else UInt32.ofNat (Text.word32 - 1)

/-- The wait after so many failures, reckoned in words. -/
def reckon? (policy : RetryPolicy) (attempt : UInt32) : Option DurationWords :=
  ((DurationWords.of policy.base).scale? (factorWord attempt)).map
    (·.shorter (DurationWords.of policy.cap))

theorem toNat_factorWord (attempt : UInt32) :
    (factorWord attempt).toNat = factor attempt.toNat := by
  have shift : (if attempt = 0 then 0 else attempt - 1).toNat = attempt.toNat - 1 := by
    split
    case isTrue none => rw [none]; rfl
    case isFalse some =>
      have positive : 1 ≤ attempt.toNat :=
        Nat.pos_of_ne_zero fun none => some (UInt32.toNat_inj.mp none)
      exact UInt32.toNat_sub_of_le _ _ (UInt32.le_iff_toNat_le.mpr positive)
  simp only [factorWord, factor]
  generalize (if attempt = 0 then 0 else attempt - 1) = doublings at shift ⊢
  rw [← shift]
  by_cases short : doublings.toNat < 32
  · rw [if_pos (UInt32.lt_iff_toNat_lt.mpr short), if_pos short, UInt32.toNat_shiftLeft,
      Nat.mod_eq_of_lt short, UInt32.toNat_one, Nat.one_shiftLeft]
    exact Nat.mod_eq_of_lt (two_pow_lt_word32 short)
  · rw [if_neg (fun less => short (UInt32.lt_iff_toNat_lt.mp less)), if_neg short]
    rfl

theorem reckon?_eq (policy : RetryPolicy) (attempt : UInt32) :
    policy.reckon? attempt = some (.of (policy.backoff attempt.toNat)) := by
  rw [reckon?, DurationWords.scale?_eq, DurationWords.duration_of, toNat_factorWord,
    Option.map_some, DurationWords.shorter_of, backoff]

/-- No step of reckoning a wait goes wrong.  The waits never get shorter from one failure to
the next; each is at least the base and at most the cap, or the cap if that is less than the
base, which it is not in settings that are accepted. -/
theorem backoff_climbs (policy : RetryPolicy) :
    (∀ attempt : UInt32,
      policy.reckon? attempt = some (.of (policy.backoff attempt.toNat)) ∧
        min policy.base.nanos policy.cap.nanos ≤ (policy.backoff attempt.toNat).nanos ∧
        (policy.backoff attempt.toNat).nanos ≤ policy.cap.nanos) ∧
      (∀ earlier later : UInt32, earlier ≤ later →
        (policy.backoff earlier.toNat).nanos ≤ (policy.backoff later.toNat).nanos) ∧
      ∀ config : Config, config.validate = .ok () → config.retry = policy →
        ∀ attempt : UInt32, policy.base.nanos ≤ (policy.backoff attempt.toNat).nanos ∧
          (policy.backoff attempt.toNat).nanos ≤ policy.cap.nanos := by
  refine ⟨fun attempt => ?_, fun earlier later order => ?_, fun config valid same attempt => ?_⟩
  case refine_1 =>
    exact ⟨reckon?_eq policy attempt, le_nanos_backoff policy attempt.toNat,
      nanos_backoff_le policy attempt.toNat⟩
  case refine_2 =>
    exact nanos_backoff_mono policy (UInt32.le_iff_toNat_le.mp order)
  case refine_3 =>
    have capped : policy.base.nanos ≤ policy.cap.nanos :=
      same ▸ (Config.validate_eq_ok_iff.mp valid).capped
    have least := le_nanos_backoff policy attempt.toNat
    rw [Nat.min_eq_left capped] at least
    exact ⟨least, nanos_backoff_le policy attempt.toNat⟩

/-- Settings with a base of five thousand million seconds and with the longest cap: the
thirty-second wait is still a multiple of the base by a power of two, and the seconds of the
thirty-third leave their word. -/
theorem backoff_climbs_of_lasting :
    let lasting : RetryPolicy := ⟨7, .ofSecs 5000000000, .longest⟩
    let config : Config := { Config.standard with retry := lasting }
    (config.validate = .ok () ∧ (32 : UInt32) ≤ 33) ∧
      lasting.reckon? 32 = some (.of (.ofSecs 10737418240000000000)) ∧
      lasting.reckon? 33 = some .longest ∧
      (lasting.backoff 32).nanos ≤ (lasting.backoff 33).nanos ∧
      lasting.base.nanos ≤ (lasting.backoff 0).nanos := by
  intro lasting config
  have sound : config.defect? = none := by decide +kernel
  have valid : config.validate = .ok () :=
    Config.validate_eq_ok_iff.mpr (Config.defect?_eq_none_iff.mp sound)
  have order : (32 : UInt32) ≤ 33 := by decide
  obtain ⟨reckoned, rises, accepted⟩ := lasting.backoff_climbs
  refine ⟨⟨valid, order⟩, ?_, ?_, rises 32 33 order, (accepted config valid rfl 0).1⟩
  case refine_1 =>
    rw [(reckoned 32).1]
    decide +kernel
  case refine_2 =>
    rw [(reckoned 33).1]
    decide +kernel

end RetryPolicy

end RoomLoad
