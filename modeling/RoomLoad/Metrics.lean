import RoomLoad.Time.Duration

/-!
# Metrics

What a run counts, and the stretch of time over which it does.
-/

namespace RoomLoad

/-- A moment of a run: the nanoseconds since its start. -/
abbrev Instant := Nat

/-- The stretch of time that is measured. -/
structure Window where
  started : Option Instant
  stopped : Option Instant
deriving DecidableEq

namespace Window

def empty : Window := ⟨none, none⟩

/-- How long a window has lasted: nothing before its start, and no longer than
to its end. -/
def duration (window : Window) (now : Instant) : Duration :=
  match window.started with
  | none => .zero
  | some started => .ofNanos (window.stopped.getD now - started)

end Window

structure Metrics where
  success : Nat
  failure : Nat
  connectionsCreated : Nat
  reconnections : Nat
  window : Window
deriving DecidableEq

/-- The counters of a run at one moment. -/
structure MetricsSnapshot where
  success : Nat
  failure : Nat
  connectionsCreated : Nat
  reconnections : Nat
  durationMs : Nat
  throughputPerSec : Float

/-- The longer of a time in seconds and the least that a rate is taken over; a
time that is no number counts as the least. -/
def atLeastSecs (least secs : Float) : Float :=
  if secs > least then secs else least

namespace Metrics

def fresh : Metrics := ⟨0, 0, 0, 0, .empty⟩

def countSuccess (metrics : Metrics) : Metrics :=
  { metrics with success := metrics.success + 1 }

def countFailure (metrics : Metrics) : Metrics :=
  { metrics with failure := metrics.failure + 1 }

def countConnection (metrics : Metrics) : Metrics :=
  { metrics with connectionsCreated := metrics.connectionsCreated + 1 }

def countReconnection (metrics : Metrics) : Metrics :=
  { metrics with reconnections := metrics.reconnections + 1 }

def start (metrics : Metrics) (now : Instant) : Metrics :=
  { metrics with window := ⟨some now, none⟩ }

def stop (metrics : Metrics) (now : Instant) : Metrics :=
  { metrics with window := { metrics.window with stopped := some now } }

/-- The least time, in seconds, that a rate is taken over. -/
def leastWindowSecs : Float := 0.001

/-- Acknowledged units per second. -/
def throughputPerSec (metrics : Metrics) (now : Instant) : Float :=
  (UInt64.ofNat metrics.success).toFloat /
    atLeastSecs leastWindowSecs (metrics.window.duration now).toSecs

def snapshot (metrics : Metrics) (now : Instant) : MetricsSnapshot where
  success := metrics.success
  failure := metrics.failure
  connectionsCreated := metrics.connectionsCreated
  reconnections := metrics.reconnections
  durationMs := (metrics.window.duration now).wholeMillis % Text.word64
  throughputPerSec := metrics.throughputPerSec now

end Metrics

end RoomLoad
