import RoomLoad.Fault
import RoomLoad.Json.Fields
import RoomLoad.Json.Printer
import RoomLoad.Message.Kind

/-!
# Chat payloads

What a client sends to the service, as a record and as the JSON text on the
wire.
-/

namespace RoomLoad

structure ChatPayload where
  userId : String
  username : String
  message : String
  timestamp : String
  kind : MessageKind
deriving DecidableEq

namespace ChatPayload

open Json

def keys : List String := ["userId", "username", "message", "timestamp", "messageType"]

def members (payload : ChatPayload) : List (String × Value) :=
  [("userId", .string payload.userId), ("username", .string payload.username),
    ("message", .string payload.message), ("timestamp", .string payload.timestamp),
    ("messageType", .string payload.kind.name)]

def wireText (payload : ChatPayload) : String :=
  (Value.object payload.members).text

/-- A payload as a value: its members in the order of their keys. -/
def value (payload : ChatPayload) : Value :=
  .object (sortMembers payload.members)

/-- The kind that a tree names: by its name, or by an object whose only key is
the name and whose value is null. -/
def kindOf? : Tree → Option MessageKind
  | .string pieces => (stringOf? pieces).bind MessageKind.ofName?
  | .object [(pieces, .null)] => (stringOf? pieces).bind MessageKind.ofName?
  | _ => none

/-- The payload that a tree describes; every field must be there. -/
def ofTree? (tree : Tree) : Option ChatPayload := do
  match ← tree.fields? keys with
  | [some userId, some username, some message, some timestamp, some kind] =>
      return {
        userId := ← userId.string?
        username := ← username.string?
        message := ← message.string?
        timestamp := ← timestamp.string?
        kind := ← kindOf? kind }
  | _ => none

def parse? (text : String) : Option ChatPayload :=
  (Tree.read? text).bind ofTree?

def parse (text : String) : Except Fault ChatPayload :=
  match parse? text with
  | some payload => .ok payload
  | none => .error (.serialize "not a chat payload")

end ChatPayload

end RoomLoad
