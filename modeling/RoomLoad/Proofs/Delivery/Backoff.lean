import RoomLoad.Retry

/-!
# How long a worker waits

The wait after so many failed tries ought to be the base, doubled with every failure but
the first, or the cap if that is less.  The doublings are kept in 32 bits: from the
thirty-third failure on the base is multiplied by the largest 32-bit number, which is one
less than the power of two that would be due first.  The cap hides this unless it exceeds
the base multiplied in this way.
-/

namespace RoomLoad

namespace RetryPolicy

variable (policy : RetryPolicy) (attempt : Nat)

/-- The nanoseconds of the wait after so many failed tries, reckoned without bounds. -/
def dueNanos : Nat :=
  min (policy.base.nanos * Nat.pow 2 (attempt - 1)) policy.cap.nanos

/-- The nanoseconds of the longest wait that the base can grow to. -/
def summitNanos : Nat :=
  policy.base.nanos * (Text.word32 - 1)

/-- Multiplication stops at the longest duration, but no cap is longer. -/
theorem nanos_backoff :
    (policy.backoff attempt).nanos =
      min (policy.base.nanos * factor attempt) policy.cap.nanos := by
  have longest : policy.cap.nanos ≤ Duration.longest.nanos :=
    Nat.le_sub_one_of_lt policy.cap.nanos_lt
  rw [backoff, Duration.scale, Duration.nanos_min, Duration.nanos_ofNanos]
  omega

variable {policy attempt}

theorem factor_of_le (early : attempt ≤ 32) : factor attempt = Nat.pow 2 (attempt - 1) := by
  unfold factor
  split
  case isTrue => rfl
  case isFalse => omega

theorem factor_of_gt (late : 32 < attempt) : factor attempt = Text.word32 - 1 := by
  rw [factor, if_neg (by omega)]

variable (attempt) in
theorem factor_pos : 0 < factor attempt := by
  by_cases early : attempt ≤ 32
  · rw [factor_of_le early]
    exact Nat.two_pow_pos _
  · rw [factor_of_gt (Nat.lt_of_not_le early)]
    decide

theorem two_pow_lt_word32 {doublings : Nat} (few : doublings < 32) :
    Nat.pow 2 doublings < Text.word32 :=
  calc Nat.pow 2 doublings
    _ < Nat.pow 2 32 := Nat.pow_lt_pow_right Nat.one_lt_two few
    _ = Text.word32 := rfl

theorem factor_mono {earlier later : Nat} (order : earlier ≤ later) :
    factor earlier ≤ factor later := by
  by_cases lateEnough : later ≤ 32
  · rw [factor_of_le lateEnough, factor_of_le (Nat.le_trans order lateEnough)]
    exact Nat.pow_le_pow_right Nat.two_pos (Nat.sub_le_sub_right order 1)
  · rw [factor_of_gt (Nat.lt_of_not_le lateEnough)]
    by_cases early : earlier ≤ 32
    · rw [factor_of_le early]
      exact Nat.le_sub_one_of_lt (two_pow_lt_word32 (by omega))
    · exact Nat.le_of_eq (factor_of_gt (Nat.lt_of_not_le early))

theorem nanos_backoff_mono (policy : RetryPolicy) {earlier later : Nat}
    (order : earlier ≤ later) :
    (policy.backoff earlier).nanos ≤ (policy.backoff later).nanos := by
  have grows := Nat.mul_le_mul_left policy.base.nanos (factor_mono order)
  rw [nanos_backoff, nanos_backoff]
  omega

theorem nanos_backoff_le (policy : RetryPolicy) (attempt : Nat) :
    (policy.backoff attempt).nanos ≤ policy.cap.nanos := by
  rw [nanos_backoff]
  exact Nat.min_le_right _ _

theorem le_nanos_backoff (policy : RetryPolicy) (attempt : Nat) :
    min policy.base.nanos policy.cap.nanos ≤ (policy.backoff attempt).nanos := by
  have grows := Nat.mul_le_mul_left policy.base.nanos (factor_pos attempt)
  rw [nanos_backoff]
  omega

theorem backoff_pos (base : 0 < policy.base.nanos) (cap : policy.base.nanos ≤ policy.cap.nanos)
    (attempt : Nat) : 0 < (policy.backoff attempt).nanos :=
  Nat.lt_of_lt_of_le (Nat.lt_min.mpr ⟨base, Nat.lt_of_lt_of_le base cap⟩)
    (le_nanos_backoff policy attempt)

theorem word32_le_two_pow (late : 32 < attempt) : Text.word32 ≤ Nat.pow 2 (attempt - 1) :=
  calc Text.word32
    _ = Nat.pow 2 32 := rfl
    _ ≤ Nat.pow 2 (attempt - 1) := Nat.pow_le_pow_right Nat.two_pos (by omega)

/-- What is due after the thirty-second failure is more than what the base grows to. -/
theorem summitNanos_lt (positive : 0 < policy.base.nanos) (late : 32 < attempt) :
    policy.summitNanos < policy.base.nanos * Nat.pow 2 (attempt - 1) := by
  apply Nat.mul_lt_mul_of_pos_left _ positive
  have power := word32_le_two_pow late
  have bound : 0 < Text.word32 := by decide
  omega

variable (policy attempt)

/-- The wait is what is due up to the thirty-second failure; after it the base no longer
grows, so that the wait is what is due only if there is no base or if the cap is reached
already, and falls short of it otherwise. -/
theorem backoff_eq_due_iff :
    (policy.backoff attempt).nanos =
        (if attempt ≤ 32 then policy.dueNanos attempt
          else min policy.summitNanos policy.cap.nanos) ∧
      (policy.backoff attempt).nanos ≤ policy.dueNanos attempt ∧
      ((policy.backoff attempt).nanos = policy.dueNanos attempt ↔
        attempt ≤ 32 ∨ policy.base.nanos = 0 ∨ policy.cap.nanos ≤ policy.summitNanos) := by
  rw [nanos_backoff]
  by_cases early : attempt ≤ 32
  · rw [factor_of_le early, if_pos early]
    exact ⟨rfl, Nat.le_refl _, iff_of_true rfl (.inl early)⟩
  · have late : 32 < attempt := Nat.lt_of_not_le early
    rw [factor_of_gt late, if_neg early]
    refine ⟨rfl, ?_⟩
    rw [← summitNanos, dueNanos]
    by_cases positive : 0 < policy.base.nanos
    · have short := summitNanos_lt positive late
      omega
    · have none : policy.base.nanos = 0 := Nat.eq_zero_of_not_pos positive
      have nothing : policy.summitNanos = 0 := by rw [summitNanos, none, Nat.zero_mul]
      simp [none, nothing]

/-- With a base of a millisecond and a cap of ten million seconds the wait after
thirty-three failures is a millisecond less than what is due. -/
theorem backoff_eq_due_iff_of_patient :
    let patient : RetryPolicy := ⟨40, .ofMillis 1, .ofSecs 10000000⟩
    (patient.backoff 33).nanos = 4294967295000000 ∧
      patient.dueNanos 33 = 4294967296000000 ∧
      ¬ (33 ≤ 32 ∨ patient.base.nanos = 0 ∨ patient.cap.nanos ≤ patient.summitNanos) := by
  intro patient
  have wait : (patient.backoff 33).nanos = 4294967295000000 := by decide +kernel
  have due : patient.dueNanos 33 = 4294967296000000 := by decide +kernel
  refine ⟨wait, due, fun hidden => ?_⟩
  have same := (patient.backoff_eq_due_iff 33).2.2.mpr hidden
  omega

end RetryPolicy

end RoomLoad
