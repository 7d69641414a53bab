import RoomLoad.Message.Payload
import RoomLoad.Message.Tag
import RoomLoad.Time.Timestamp

/-!
# Acknowledgement frames

What the service sends back.  A frame usually echoes the payload that it answers
in `data`; the sequence tag inside that payload's message says which unit it is.
-/

namespace RoomLoad

inductive AckStatus where
  | ok
  | error
  | unknown
deriving DecidableEq, Inhabited

namespace AckStatus

def name : AckStatus → String
  | ok => "OK"
  | error => "ERROR"
  | unknown => "UNKNOWN"

/-- The status that a frame's own word means. -/
def ofWord (word : Option String) : AckStatus :=
  if word = some "OK" then ok else if word = some "ERROR" then error else unknown

end AckStatus

structure AckFrame where
  status : Option String
  serverTimestamp : Option String
  data : Option Json.Value
  errors : Option (List String)

namespace AckFrame

open Json

/-- How deep containers may be nested in a text, the frame counting as one. -/
def depthLimit : Nat := 127

/-- The keys of a frame, in the order in which they are written. -/
def keys : List String := ["status", "serverTimestamp", "data", "errors"]

/-- A frame as a value, with its members in the order in which they are
written. -/
def value (frame : AckFrame) : Value :=
  .object
    [("status", .orNull .string frame.status),
      ("serverTimestamp", .orNull .string frame.serverTimestamp),
      ("data", .orNull id frame.data),
      ("errors", .orNull (fun errors => .array (errors.map .string)) frame.errors)]

def wireText (frame : AckFrame) : String :=
  frame.value.text

/-- The frame that a tree describes; fields may be absent or null. -/
def ofTree? (tree : Tree) : Option AckFrame := do
  match ← tree.fields? keys with
  | [status, serverTimestamp, data, errors] =>
      return {
        status := ← optional? Tree.string? status
        serverTimestamp := ← optional? Tree.string? serverTimestamp
        data := ← optional? (Value.ofTree? (depthLimit - 1)) data
        errors := ← optional? Tree.strings? errors }
  | _ => none

def parse? (text : String) : Option AckFrame :=
  (Tree.read? text).bind ofTree?

def parse (text : String) : Except Fault AckFrame :=
  match parse? text with
  | some frame => .ok frame
  | none => .error (.serialize "not an acknowledgement frame")

/-- The frame with which the service accepts a payload. -/
def echo (payload : ChatPayload) (answeredAt : Timestamp) : AckFrame where
  status := some "OK"
  serverTimestamp := some answeredAt.millisText
  data := some payload.value
  errors := none

/-- The sequence id of the unit that a frame answers, if it tells. -/
def seq? (frame : AckFrame) : Option SeqId := do
  let data ← frame.data
  let message ← data.member? "message"
  let text ← message.string?
  Tag.find? text

def ackStatus (frame : AckFrame) : AckStatus :=
  .ofWord frame.status

end AckFrame

end RoomLoad
