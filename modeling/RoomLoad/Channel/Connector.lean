import RoomLoad.Channel.Peer

/-!
# Scripted connectors

Where the channels of a simulated run come from: which connects are refused, how
long they take, what kind of stub they yield, and which calls bring the calling
task down.
-/

namespace RoomLoad

structure StubPlan where
  script : StubScript
  /-- Whether the connection is lost before anybody uses it. -/
  dropped : Bool
deriving DecidableEq

namespace StubPlan

/-- An open stub that accepts every send and never answers. -/
def plain : StubPlan := ⟨.plain, false⟩

def make (plan : StubPlan) : Stub :=
  let stub := Stub.opened plan.script
  if plan.dropped then stub.shut else stub

end StubPlan

/-- How a connector behaves. -/
structure ConnectorScript where
  /-- The stub of every connect that nothing else provides for. -/
  channel : StubPlan
  /-- The stubs of single rooms. -/
  rooms : List (RoomId × StubPlan)
  /-- The stubs of the first connects that succeed. -/
  byConnect : List StubPlan
  /-- One stub for all connects together. -/
  shared : Option StubPlan
  refuseAll : Bool
  /-- So many connects at the start are refused. -/
  refuseFirst : Nat
  refuseRooms : List RoomId
  delay : Option Duration
  /-- A connect to one of these rooms brings its task down. -/
  crashConnectRooms : List RoomId
  /-- A send on a channel first made for one of these rooms does. -/
  crashSendRooms : List RoomId
  /-- A send of one of these units does. -/
  crashSeqs : List SeqId

namespace ConnectorScript

def plain : ConnectorScript where
  channel := .plain
  rooms := []
  byConnect := []
  shared := none
  refuseAll := false
  refuseFirst := 0
  refuseRooms := []
  delay := none
  crashConnectRooms := []
  crashSendRooms := []
  crashSeqs := []

def refusing : ConnectorScript :=
  { plain with refuseAll := true }

/-- The stub that the `made`-th channel, for a room, is to be. -/
def planFor (script : ConnectorScript) (made : Nat) (room : RoomId) : StubPlan :=
  match script.byConnect[made]? with
  | some plan => plan
  | none => (script.rooms.lookup room).getD script.channel

/-- Whether the connect with this number, counted from zero, is turned away before
it reaches the service. -/
def turnsAway (script : ConnectorScript) (number : Nat) (room : RoomId) : Bool :=
  number < script.refuseFirst || script.refuseRooms.contains room

def refusal (room : RoomId) : Fault :=
  .transport ("connection refused for room " ++ room.toNat.repr)

end ConnectorScript

end RoomLoad
