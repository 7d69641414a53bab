import RoomLoad.Json.Value

/-!
# Fields of a record

A record may be written as an object, whose known keys must not repeat, or as an
array of its fields in order.  Members with other keys are skipped without a look
at their meaning; their keys must have one.
-/

namespace RoomLoad.Json

def keyed? : List (List Piece × Tree) → Option (List (String × Tree))
  | [] => some []
  | (pieces, tree) :: rest => do
      let key ← stringOf? pieces
      let members ← keyed? rest
      return (key, tree) :: members

/-- The field with a key: absent, present once, or repeated, which is
refused. -/
def field? (members : List (String × Tree)) (key : String) : Option (Option Tree) :=
  match members.filter fun member => member.1 == key with
  | [] => some none
  | [member] => some (some member.2)
  | _ => none

def fieldsOf? (members : List (String × Tree)) : List String → Option (List (Option Tree))
  | [] => some []
  | key :: rest => do
      let found ← field? members key
      let others ← fieldsOf? members rest
      return found :: others

/-- The fields of a record with the given keys, from either written form. -/
def Tree.fields? (keys : List String) : Tree → Option (List (Option Tree))
  | .array items =>
      if items.length ≤ keys.length then
        some (items.map some ++ List.replicate (keys.length - items.length) none)
      else
        none
  | .object members => (keyed? members).bind fun found => fieldsOf? found keys
  | _ => none

def Tree.string? : Tree → Option String
  | .string pieces => stringOf? pieces
  | _ => none

def Tree.strings? : Tree → Option (List String)
  | .array items => items.mapM Tree.string?
  | _ => none

/-- A field that may be absent or null, read by `read` otherwise. -/
def optional? {α : Type} (read : Tree → Option α) : Option Tree → Option (Option α)
  | none => some none
  | some .null => some none
  | some tree => (read tree).map some

def Value.orNull {α : Type} (write : α → Value) : Option α → Value
  | none => .null
  | some inner => write inner

end RoomLoad.Json
