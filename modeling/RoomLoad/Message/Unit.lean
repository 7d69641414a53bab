import RoomLoad.Ids
import RoomLoad.Message.Kind
import RoomLoad.Message.Payload
import RoomLoad.Message.Tag
import RoomLoad.Time.Timestamp

/-!
# Outbound units

One synthetic message and how often it has failed.  A retry is a new unit with
the same sequence id, and the text that goes out does not depend on the attempt.
-/

namespace RoomLoad

structure OutboundUnit where
  seq : SeqId
  user : UserId
  username : String
  text : String
  room : RoomId
  kind : MessageKind
  createdAt : Timestamp
  /-- How many tries have failed. -/
  attempt : Nat
deriving DecidableEq

namespace OutboundUnit

def nextAttempt (unit : OutboundUnit) : OutboundUnit :=
  { unit with attempt := unit.attempt + 1 }

/-- What a unit says, with its sequence id in front of the message. -/
def payload (unit : OutboundUnit) : ChatPayload where
  userId := unit.user.toNat.repr
  username := unit.username
  message := Tag.attach unit.seq unit.text
  timestamp := unit.createdAt.millisText
  kind := unit.kind

def wireText (unit : OutboundUnit) : String :=
  unit.payload.wireText

end OutboundUnit

end RoomLoad
