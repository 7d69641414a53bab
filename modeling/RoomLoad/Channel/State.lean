/-!
# Channel states

The life cycle of a connection.
-/

namespace RoomLoad

/-- A connection, numbered in order of creation. -/
abbrev ChannelId := Nat

inductive ChannelState where
  | disconnected
  | connecting
  | opened
  | closed
deriving DecidableEq, Inhabited

namespace ChannelState

def name : ChannelState → String
  | disconnected => "Disconnected"
  | connecting => "Connecting"
  | opened => "Open"
  | closed => "Closed"

def isOpen (state : ChannelState) : Bool :=
  state == opened

end ChannelState

end RoomLoad
