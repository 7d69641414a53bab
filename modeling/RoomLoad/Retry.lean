import RoomLoad.Time.Duration

/-!
# Retry policy

How often a unit is tried, and how long a worker waits between two tries: the
wait doubles from `base` with every failed try and never exceeds `cap`.
-/

namespace RoomLoad

/-- Bounded exponential back-off. -/
structure RetryPolicy where
  maxAttempts : Nat
  base : Duration
  cap : Duration
deriving DecidableEq

namespace RetryPolicy

/-- Five tries, waiting 50 ms after the first and at most 2 s after any. -/
def standard : RetryPolicy where
  maxAttempts := 5
  base := .ofMillis 50
  cap := .ofMillis 2000

/-- By how much the base is multiplied after so many failed tries: a power of
two as long as it fits in 32 bits, and the largest 32-bit number beyond. -/
def factor (attempt : Nat) : Nat :=
  if attempt - 1 < 32 then Nat.pow 2 (attempt - 1) else Text.word32 - 1

/-- The wait before the next try after so many failed ones. -/
def backoff (policy : RetryPolicy) (attempt : Nat) : Duration :=
  (policy.base.scale (factor attempt)).min policy.cap

end RetryPolicy

end RoomLoad
