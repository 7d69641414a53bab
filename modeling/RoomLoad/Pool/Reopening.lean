import RoomLoad.Pool.Basic

/-!
# Reopening a channel

A channel that was lost is reconnected under the lock of the pool, unless somebody
else has reopened it in the meantime.
-/

namespace RoomLoad

inductive Reopening where
  | asking
  | waiting
  /-- The lock is held; the channel may be open again. -/
  | checking
  | reconnecting
deriving DecidableEq

namespace Reopening

abbrev Result := Except Fault Unit

def call? (channel : ChannelId) : Reopening → Option Call
  | reconnecting => some (.reconnect channel)
  | _ => none

def move? (view : View) (task : TaskId) (channel : ChannelId) (pool : Pool) :
    Reopening → Option (Pool × Progress Reopening Result)
  | asking => some (pool.request task, .going waiting)
  | waiting => if pool.lock.isHeldBy task then some (pool, .going checking) else none
  | checking =>
      if view.isOpen channel then some (pool.release, .ended (.ok ()))
      else some (pool, .going reconnecting)
  | reconnecting => none

def resume (pool : Pool) (reopening : Reopening) (answer : Answer) :
    Pool × Progress Reopening Result :=
  match reopening, answer with
  | reconnecting, .done => (pool.release, .ended (.ok ()))
  | reconnecting, .failed fault => (pool.release, .ended (.error fault))
  | phase, _ => (pool, .going phase)

end Reopening

end RoomLoad
