import RoomLoad.Fifo
import RoomLoad.Message.Unit

/-!
# The unit queue

The bounded queue between the generator and the workers.  What is put in first
is taken out first.  Handles are counted: without a receiver nothing more goes
in, and without a sender the queue ends once it is empty.

A queue without room holds nothing, so it is always full here.  What is left out is that
an item may be handed over such a queue to a receiver that waits at that very moment;
`Generator.consumed` reckons with that, and no run has such a queue.
-/

namespace RoomLoad

/-- What goes through the queue: a unit, or the request that one worker stop. -/
inductive Envelope where
  | unit (unit : OutboundUnit)
  | stop
deriving DecidableEq

structure UnitQueue where
  capacity : Nat
  waiting : Fifo Envelope
  senders : Nat
  receivers : Nat

/-- What comes of putting an item into a queue. -/
inductive Offer where
  | accepted (queue : UnitQueue)
  | full
  | disconnected

inductive Taken where
  | item (envelope : Envelope) (queue : UnitQueue)
  | empty
  | disconnected

namespace UnitQueue

def bounded (capacity : Nat) : UnitQueue := ⟨capacity, .empty, 1, 1⟩

/-- The items in the queue, the next one to take in front. -/
def items (queue : UnitQueue) : List Envelope := queue.waiting.toList

/-- Puts an item at the end, unless the queue is full or nobody could take it.  Nothing is
handed over to a receiver that waits. -/
def offer (queue : UnitQueue) (envelope : Envelope) : Offer :=
  if queue.receivers = 0 then .disconnected
  else if queue.waiting.size < queue.capacity then
    .accepted { queue with waiting := queue.waiting.push envelope }
  else .full

/-- Takes the item in front; an empty queue without senders has ended. -/
def take (queue : UnitQueue) : Taken :=
  match queue.waiting.pop? with
  | some (envelope, rest) => .item envelope { queue with waiting := rest }
  | none => if queue.senders = 0 then .disconnected else .empty

def hasHandles (queue : UnitQueue) : Bool :=
  queue.senders != 0 || queue.receivers != 0

def cloneSender (queue : UnitQueue) : UnitQueue :=
  if queue.senders = 0 then queue else { queue with senders := queue.senders + 1 }

def cloneReceiver (queue : UnitQueue) : UnitQueue :=
  if queue.receivers = 0 then queue else { queue with receivers := queue.receivers + 1 }

def dropSender (queue : UnitQueue) : UnitQueue :=
  { queue with senders := queue.senders - 1 }

def dropReceiver (queue : UnitQueue) : UnitQueue :=
  { queue with receivers := queue.receivers - 1 }

theorem items_of_offer {queue later : UnitQueue} {envelope : Envelope}
    (accepted : queue.offer envelope = .accepted later) :
    later.items = queue.items ++ [envelope] := by
  unfold offer at accepted
  split at accepted
  case isTrue => contradiction
  case isFalse =>
    split at accepted
    case isTrue => cases accepted; exact Fifo.toList_push queue.waiting envelope
    case isFalse => contradiction

theorem items_of_take {queue later : UnitQueue} {envelope : Envelope}
    (taken : queue.take = .item envelope later) :
    queue.items = envelope :: later.items := by
  unfold take at taken
  split at taken
  case h_1 first rest popped => cases taken; exact Fifo.toList_of_pop? popped
  case h_2 => split at taken <;> contradiction

end UnitQueue

end RoomLoad
