import RoomLoad.Task.Basic

/-!
# The channel pool

One channel per room, and the lock under which channels are made and reopened.
The lock goes to whoever has waited longest.
-/

namespace RoomLoad

/-- A lock that is handed over in the order in which it was asked for. -/
structure CreationLock where
  holder : Option TaskId
  waiting : List TaskId
deriving DecidableEq

namespace CreationLock

def free : CreationLock := ⟨none, []⟩

def isHeldBy (lock : CreationLock) (task : TaskId) : Bool :=
  lock.holder == some task

/-- A task asks for the lock; it has it at once if nobody else does. -/
def request (lock : CreationLock) (task : TaskId) : CreationLock :=
  match lock.holder with
  | none => { lock with holder := some task }
  | some _ => { lock with waiting := lock.waiting ++ [task] }

/-- The holder gives the lock to whoever has waited longest. -/
def release (lock : CreationLock) : CreationLock :=
  ⟨lock.waiting.head?, lock.waiting.tail⟩

/-- A task that has gone no longer holds the lock nor waits for it. -/
def forget (lock : CreationLock) (task : TaskId) : CreationLock :=
  if lock.isHeldBy task then lock.release
  else { lock with waiting := lock.waiting.filter fun other => other != task }

end CreationLock

/-- The channels of the rooms, and the lock. -/
structure Pool where
  channels : List (RoomId × ChannelId)
  lock : CreationLock
deriving DecidableEq

namespace Pool

def empty : Pool := ⟨[], .free⟩

def channel? (pool : Pool) (room : RoomId) : Option ChannelId :=
  pool.channels.lookup room

def openChannel? (pool : Pool) (view : View) (room : RoomId) : Option ChannelId :=
  (pool.channel? room).filter view.isOpen

def install (pool : Pool) (room : RoomId) (channel : ChannelId) : Pool :=
  { pool with
    channels := (room, channel) :: pool.channels.filter fun entry => entry.1 != room }

def clear (pool : Pool) : Pool :=
  { pool with channels := [] }

def request (pool : Pool) (task : TaskId) : Pool :=
  { pool with lock := pool.lock.request task }

def release (pool : Pool) : Pool :=
  { pool with lock := pool.lock.release }

def forget (pool : Pool) (task : TaskId) : Pool :=
  { pool with lock := pool.lock.forget task }

end Pool

/-- How far a procedure has come: it goes on, or it has ended with a result. -/
inductive Progress (ρ α : Type) where
  | going (phase : ρ)
  | ended (result : α)

end RoomLoad
