import RoomLoad.Json.Value

/-!
# Printed JSON values

A value as a JSON text: on one line without blanks, or on several lines with two
blanks of indentation per level.  In strings only quotes, backslashes and control
characters are escaped.
-/

namespace RoomLoad.Json

def hexDigit (value : Nat) : Char :=
  Nat.digitChar value

/-- A character inside a string literal. -/
def escape (character : Char) : List Char :=
  if character == '"' then ['\\', '"']
  else if character == '\\' then ['\\', '\\']
  else if character == '\x08' then ['\\', 'b']
  else if character == '\x0c' then ['\\', 'f']
  else if character == '\n' then ['\\', 'n']
  else if character == '\r' then ['\\', 'r']
  else if character == '\t' then ['\\', 't']
  else if character.toNat < 0x20 then
    ['\\', 'u', '0', '0', hexDigit (character.toNat / 16), hexDigit (character.toNat % 16)]
  else [character]

def quote (text : String) : List Char :=
  '"' :: text.toList.flatMap escape ++ ['"']

def integerText (value : Int) : List Char :=
  if value < 0 then '-' :: Text.digits value.natAbs else Text.digits value.natAbs

/-- A double: `null` unless it is finite. -/
def realText (value : Float) : List Char :=
  match Decimal.Parts.of value with
  | .finite parts => Decimal.Style.json.finite parts
  | _ => ['n', 'u', 'l', 'l']

def boolText (value : Bool) : List Char :=
  if value then ['t', 'r', 'u', 'e'] else ['f', 'a', 'l', 's', 'e']

mutual

def Value.compact : Value → List Char
  | .null => ['n', 'u', 'l', 'l']
  | .bool value => boolText value
  | .integer value => integerText value
  | .real value => realText value
  | .string value => quote value
  | .array [] => ['[', ']']
  | .array (item :: rest) => '[' :: (item.compact ++ Value.compactItems rest)
  | .object [] => ['\x7b', '\x7d']
  | .object ((key, value) :: rest) =>
      '\x7b' :: (quote key ++ ':' :: (value.compact ++ Value.compactMembers rest))

def Value.compactItems : List Value → List Char
  | [] => [']']
  | item :: rest => ',' :: (item.compact ++ Value.compactItems rest)

/-- The members behind the first one, and the end of the object. -/
def Value.compactMembers : List (String × Value) → List Char
  | [] => ['\x7d']
  | (key, value) :: rest =>
      ',' :: (quote key ++ ':' :: (value.compact ++ Value.compactMembers rest))

end

def breakLine (level : Nat) : List Char :=
  '\n' :: List.replicate (2 * level) ' '

mutual

/-- A value on several lines; `level` is how deep it is nested. -/
def Value.indented (level : Nat) : Value → List Char
  | .array (item :: rest) =>
      '[' :: (breakLine (level + 1) ++ (item.indented (level + 1) ++
        Value.indentedItems level rest))
  | .object ((key, value) :: rest) =>
      '\x7b' :: (breakLine (level + 1) ++ (quote key ++ ':' :: ' ' ::
        (value.indented (level + 1) ++ Value.indentedMembers level rest)))
  | value => value.compact

/-- The items behind the first one, and the end of the array. -/
def Value.indentedItems (level : Nat) : List Value → List Char
  | [] => breakLine level ++ [']']
  | item :: rest =>
      ',' :: (breakLine (level + 1) ++ (item.indented (level + 1) ++
        Value.indentedItems level rest))

/-- The members behind the first one, and the end of the object. -/
def Value.indentedMembers (level : Nat) : List (String × Value) → List Char
  | [] => breakLine level ++ ['\x7d']
  | (key, value) :: rest =>
      ',' :: (breakLine (level + 1) ++ (quote key ++ ':' :: ' ' ::
        (value.indented (level + 1) ++ Value.indentedMembers level rest)))

end

def Value.text (value : Value) : String :=
  String.ofList value.compact

def Value.prettyText (value : Value) : String :=
  String.ofList (value.indented 0)

end RoomLoad.Json
