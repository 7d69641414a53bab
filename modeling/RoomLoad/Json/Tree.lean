import RoomLoad.Json.Token

/-!
# Grammar trees of JSON texts

A text that keeps to the grammar has a tree, whatever the size of its numbers,
the meaning of its strings, or the depth of its nesting.  A machine with a stack
of open containers builds the tree from the tokens, one token a step.
-/

namespace RoomLoad.Json

/-- A JSON text by its grammar, literals as spelled. -/
inductive Tree where
  | null
  | bool (value : Bool)
  | number (numeral : Numeral)
  | string (pieces : List Piece)
  | array (items : List Tree)
  | object (members : List (List Piece × Tree))

/-- The members of an object that have been read, the last one first. -/
abbrev Members := List (List Piece × Tree)

/-- A container that has been opened: an array with the items read so far, the
last one first, or an object that waits for the value of a key. -/
inductive Opened where
  | array (items : List Tree)
  | object (members : Members) (key : List Piece)

/-- What may come next in a text. -/
inductive Due where
  /-- A value. -/
  | value
  /-- The first item of an array, or its end. -/
  | item
  /-- The first key of an object, or its end. -/
  | firstKey
  /-- A key behind a comma. -/
  | key (members : Members)
  /-- The colon behind a key. -/
  | colon (members : Members) (key : List Piece)
  /-- What follows a value that has ended. -/
  | after (value : Tree)

structure Progress where
  due : Due
  opened : List Opened

def Progress.startValue (opened : List Opened) : Token → Option Progress
  | .null => some ⟨.after .null, opened⟩
  | .bool value => some ⟨.after (.bool value), opened⟩
  | .number numeral => some ⟨.after (.number numeral), opened⟩
  | .string pieces => some ⟨.after (.string pieces), opened⟩
  | .openArray => some ⟨.item, .array [] :: opened⟩
  | .openObject => some ⟨.firstKey, opened⟩
  | _ => none

/-- Reads what follows a value in the innermost container. -/
def Progress.continueAfter (value : Tree) : List Opened → Token → Option Progress
  | .array items :: opened, .comma => some ⟨.value, .array (value :: items) :: opened⟩
  | .array items :: opened, .closeArray =>
      some ⟨.after (.array (value :: items).reverse), opened⟩
  | .object members key :: opened, .comma => some ⟨.key ((key, value) :: members), opened⟩
  | .object members key :: opened, .closeObject =>
      some ⟨.after (.object ((key, value) :: members).reverse), opened⟩
  | _, _ => none

def Progress.step (progress : Progress) (token : Token) : Option Progress :=
  match progress.due, token, progress.opened with
  | .value, token, opened => startValue opened token
  | .item, .closeArray, .array items :: opened => some ⟨.after (.array items.reverse), opened⟩
  | .item, token, opened => startValue opened token
  | .firstKey, .closeObject, opened => some ⟨.after (.object []), opened⟩
  | .firstKey, .string pieces, opened => some ⟨.colon [] pieces, opened⟩
  | .key members, .string pieces, opened => some ⟨.colon members pieces, opened⟩
  | .colon members key, .colon, opened => some ⟨.value, .object members key :: opened⟩
  | .after value, token, opened => continueAfter value opened token
  | _, _, _ => none

def Progress.run (progress : Progress) : List Token → Option Progress
  | [] => some progress
  | token :: rest => (progress.step token).bind fun next => next.run rest

/-- The tree of a whole text, if nothing is left open. -/
def Progress.finished? : Progress → Option Tree
  | ⟨.after value, []⟩ => some value
  | _ => none

def Tree.read? (text : String) : Option Tree := do
  let tokens ← tokens? text.toList
  let progress ← Progress.run ⟨.value, []⟩ tokens
  progress.finished?

end RoomLoad.Json
