import RoomLoad.Task.Basic

/-!
# Timers

What can happen in a simulated run, and what is due at later moments, in the order
in which it falls due.  Of two things due at one moment the older one comes first.
-/

namespace RoomLoad

inductive Happening where
  /-- A task that can go on gets its turn. -/
  | turns (task : TaskId)
  | connectEnds (task : TaskId) (room : RoomId) (number : Nat) (startedAt : Instant)
  | reconnectEnds (task : TaskId) (channel : ChannelId)
  | closeEnds (task : TaskId) (channel : ChannelId)
  /-- A wait is over, for a sleep or for channels that were closed. -/
  | wakes (task : TaskId)
  /-- A frame sets out for the listener, and takes so long. -/
  | departs (delay : Duration) (text : String)
  /-- A frame reaches the listener. -/
  | arrives (text : String)
deriving DecidableEq

/-- The task that something happens to, which has its turn then. -/
def Happening.task? : Happening → Option TaskId
  | turns task => some task
  | connectEnds task _ _ _ => some task
  | reconnectEnds task _ => some task
  | closeEnds task _ => some task
  | wakes task => some task
  | departs _ _ => none
  | arrives _ => none

structure Timer where
  due : Instant
  happening : Happening
deriving DecidableEq

namespace Timer

/-- The nanoseconds between two moments at which timers fire. -/
def tick : Nat := Duration.perMilli

/-- The longest sleep, thirty years of 365 days; a longer one ends with it. -/
def longestSleep : Nat := 30 * 365 * 86400 * Duration.perSecond

/-- The first moment, not before the given one, at which timers fire. -/
def roundUp (moment : Instant) : Instant :=
  (moment + (tick - 1)) / tick * tick

/-- Puts a timer behind all that are due no later. -/
def insert (timer : Timer) : List Timer → List Timer
  | [] => [timer]
  | first :: rest =>
      if first.due ≤ timer.due then first :: insert timer rest else timer :: first :: rest

def withoutWakes (task : TaskId) (timers : List Timer) : List Timer :=
  timers.filter fun timer => timer.happening != .wakes task

theorem insert_perm (timer : Timer) (timers : List Timer) :
    (insert timer timers).Perm (timer :: timers) := by
  induction timers with
  | nil => exact .refl _
  | cons first rest induction =>
      simp only [insert]
      split
      case isTrue => exact (induction.cons first).trans (.swap timer first rest)
      case isFalse => exact .refl _

theorem le_roundUp (moment : Nat) : moment ≤ roundUp moment := by
  simp only [roundUp, tick, Duration.perMilli]
  omega

end Timer

end RoomLoad
