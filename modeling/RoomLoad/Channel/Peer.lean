import RoomLoad.Channel.Stub
import RoomLoad.Ids

/-!
# The far end of a channel

What a channel of a simulated run is connected to: a stub, or a peer that recites
prepared answers, one list of frames for each send.
-/

namespace RoomLoad

/-- What a reciting peer does with one send. -/
structure Recital where
  frames : List Dispatch
  /-- Whether the send then fails as on a channel that is not open. -/
  refuses : Bool
deriving DecidableEq

def Recital.outcome (recital : Recital) : SendOutcome :=
  ⟨if recital.refuses then .error .notOpen else .ok (), recital.frames⟩

structure Usage where
  /-- The sends that were not refused at once. -/
  sends : Nat
  sendAttempts : Nat
  reconnects : Nat
deriving DecidableEq

namespace Usage

def none : Usage := ⟨0, 0, 0⟩

def add (left right : Usage) : Usage :=
  ⟨left.sends + right.sends, left.sendAttempts + right.sendAttempts,
    left.reconnects + right.reconnects⟩

end Usage

inductive Peer where
  | stub (stub : Stub)
  /-- A peer with the answers that are left; afterwards it is silent. -/
  | reciting (left : List Recital)
deriving DecidableEq

namespace Peer

def state : Peer → ChannelState
  | stub inner => inner.state
  | reciting _ => .opened

def send (peer : Peer) (now : Timestamp) (payload : String) : SendOutcome × Peer :=
  match peer with
  | stub inner =>
      let (outcome, later) := inner.send now payload
      (outcome, stub later)
  | reciting [] => (⟨.ok (), []⟩, reciting [])
  | reciting (recital :: left) => (recital.outcome, reciting left)

def beginReconnect : Peer → Peer
  | stub inner => stub inner.beginReconnect
  | reciting left => reciting left

def endReconnect : Peer → Peer
  | stub inner => stub inner.endReconnect
  | reciting left => reciting left

def shut : Peer → Peer
  | stub inner => stub inner.shut
  | reciting left => reciting left

def reconnectDelay : Peer → Option Duration
  | stub inner => inner.script.reconnectDelay
  | reciting _ => none

/-- How long a close takes, if it takes time. -/
def closeDelay : Peer → Option Duration
  | stub inner => inner.script.closeDelay
  | reciting _ => none

/-- How often a channel has been used; the use of a reciting peer is not
counted. -/
def usage : Peer → Usage
  | stub inner => ⟨inner.sends, inner.sendAttempts, inner.reconnects⟩
  | reciting _ => .none

def countsReconnects : Peer → Bool
  | stub inner => inner.script.countsReconnects
  | reciting _ => false

end Peer

/-- A channel of a simulated run and the room that it was first made for. -/
structure Channel where
  room : RoomId
  peer : Peer
deriving DecidableEq

end RoomLoad
