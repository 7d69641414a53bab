import RoomLoad.Channel.State
import RoomLoad.Fault
import RoomLoad.Metrics

/-!
# Sockets

The life of a connection to an address on a network, given what the network makes
of each connect.
-/

namespace RoomLoad

/-- What the network makes of a connect. -/
inductive Dialed where
  | reached
  | refused (detail : String)
  | tooLate
deriving DecidableEq

structure Socket where
  url : String
  connectTimeout : Duration
  state : ChannelState
deriving DecidableEq

namespace Socket

/-- A connection that was never opened. -/
def fresh (url : String) (connectTimeout : Duration) : Socket :=
  ⟨url, connectTimeout, .disconnected⟩

def inState (socket : Socket) (state : ChannelState) : Socket :=
  { socket with state := state }

/-- Opens the connection; only one that opens counts. -/
def connect (dialed : Dialed) (metrics : Metrics) (socket : Socket) :
    Except Fault Unit × Metrics × Socket :=
  match dialed with
  | .reached => (.ok (), metrics.countConnection, socket.inState .opened)
  | .refused detail =>
      (.error (.transport (socket.url ++ ": " ++ detail)), metrics, socket.inState .closed)
  | .tooLate =>
      (.error (.connectTimeout socket.url socket.connectTimeout), metrics, socket.inState .closed)

def close (socket : Socket) : Socket :=
  socket.inState .closed

/-- Closes the connection and opens it anew; this counts whatever comes of it. -/
def reconnect (dialed : Dialed) (metrics : Metrics) (socket : Socket) :
    Except Fault Unit × Metrics × Socket :=
  socket.close.connect dialed metrics.countReconnection

/-- Sends over the connection; `taken` is whether the network takes the message. -/
def send (taken : Except String Unit) (socket : Socket) : Except Fault Unit × Socket :=
  if socket.state.isOpen then
    match taken with
    | .ok () => (.ok (), socket)
    | .error detail => (.error (.transport (socket.url ++ ": " ++ detail)), socket.close)
  else
    (.error .notOpen, socket)

end Socket

end RoomLoad
