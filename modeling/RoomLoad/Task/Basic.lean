import RoomLoad.Channel.State
import RoomLoad.Fault
import RoomLoad.Ids
import RoomLoad.Metrics

/-!
# Tasks

A run is made of tasks that work on common state.  A task makes moves of its own,
and now and then it calls on its surroundings (connects, sends, sleeps) and goes
on when the answer comes.  A system says what its tasks do; it says nothing about
the order in which they do it, nor about what the surroundings answer.
-/

namespace RoomLoad

/-- A task, numbered from zero. -/
abbrev TaskId := Nat

inductive Call where
  | connect (room : RoomId)
  | reconnect (channel : ChannelId)
  /-- Closes some channels at the same time, and waits for all of them. -/
  | close (channels : List ChannelId)
  | send (channel : ChannelId) (payload : String)
  /-- Waits for so long. -/
  | sleep (duration : Duration)
  /-- Waits until a moment. -/
  | wait (deadline : Instant)

inductive Answer where
  | connected (channel : ChannelId)
  | done
  | failed (fault : Fault)
  /-- The call brings the task down. -/
  | crashed

/-- What a task sees of its surroundings without a call. -/
structure View where
  now : Instant
  isOpen : ChannelId → Bool

/-- What the tasks of a kind of run do, with common state `σ` and task states
`τ`. -/
structure System (σ τ : Type) where
  /-- The call that a task waits for, if it waits for one. -/
  call? : τ → Option Call
  /-- The moves that a task can make now, the one that it prefers in front; none
  if it has ended or has to wait. -/
  moves : View → TaskId → σ → τ → List (σ × τ)
  /-- How a task goes on when its call is answered. -/
  resume : View → TaskId → σ → τ → Answer → σ × τ
  /-- How the common state takes in a frame that a channel delivers. -/
  receive : Instant → String → σ → σ
  /-- How the common state counts a reconnect. -/
  countReconnect : σ → σ

/-- The bound of the times, in seconds, that the clock can name: `2 ^ 63`. -/
def clockLimitSecs : Nat := 9223372036854775808

/-- The moment that lies so long after another one, if the clock can name it. -/
def deadline? (now : Instant) (duration : Duration) : Option Instant :=
  if now + duration.nanos < clockLimitSecs * Duration.perSecond then
    some (now + duration.nanos)
  else
    none

end RoomLoad
