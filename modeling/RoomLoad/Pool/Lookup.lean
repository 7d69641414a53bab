import RoomLoad.Pool.Basic

/-!
# Looking up a room's channel

A room's channel is given out if it is open.  Otherwise the room is looked up
again under the lock, and a new channel is connected if there still is no open
one.  The channel that it replaces is closed before the lock is given away.
-/

namespace RoomLoad

inductive Lookup where
  | looking
  | asking
  | waiting
  /-- The lock is held; the room is looked up again. -/
  | rechecking
  | connecting
  /-- The new channel is installed, and the one that it replaced is closed. -/
  | closing (fresh stale : ChannelId)
deriving DecidableEq

namespace Lookup

abbrev Result := Except Fault ChannelId

def call? (room : RoomId) : Lookup → Option Call
  | connecting => some (.connect room)
  | closing _ stale => some (.close [stale])
  | _ => none

def move? (view : View) (task : TaskId) (room : RoomId) (pool : Pool) :
    Lookup → Option (Pool × Progress Lookup Result)
  | looking =>
      match pool.openChannel? view room with
      | some channel => some (pool, .ended (.ok channel))
      | none => some (pool, .going asking)
  | asking => some (pool.request task, .going waiting)
  | waiting => if pool.lock.isHeldBy task then some (pool, .going rechecking) else none
  | rechecking =>
      match pool.openChannel? view room with
      | some channel => some (pool.release, .ended (.ok channel))
      | none => some (pool, .going connecting)
  | connecting => none
  | closing _ _ => none

/-- A new channel takes its place; the one that it replaces is closed, unless it is
the same. -/
def install (room : RoomId) (pool : Pool) (fresh : ChannelId) : Pool × Progress Lookup Result :=
  let installed := pool.install room fresh
  match pool.channel? room with
  | some stale =>
      if stale = fresh then (installed.release, .ended (.ok fresh))
      else (installed, .going (closing fresh stale))
  | none => (installed.release, .ended (.ok fresh))

def resume (room : RoomId) (pool : Pool) (lookup : Lookup) (answer : Answer) :
    Pool × Progress Lookup Result :=
  match lookup, answer with
  | connecting, .connected fresh => install room pool fresh
  | connecting, .failed fault => (pool.release, .ended (.error fault))
  | closing fresh _, _ => (pool.release, .ended (.ok fresh))
  | phase, _ => (pool, .going phase)

end Lookup

end RoomLoad
