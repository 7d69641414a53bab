/-!
# Message kinds

The three kinds of chat message and the fixed distribution from which they are
drawn: of a hundred rolls ninety are texts, five joins and five leaves.
-/

namespace RoomLoad

inductive MessageKind where
  | text
  | join
  | leave
deriving DecidableEq, Inhabited

namespace MessageKind

def all : List MessageKind := [text, join, leave]

def name : MessageKind → String
  | text => "TEXT"
  | join => "JOIN"
  | leave => "LEAVE"

def ofName? (name : String) : Option MessageKind :=
  all.find? fun kind => kind.name == name

/-- The kind for a roll of a hundred-sided die. -/
def ofRoll (roll : UInt32) : MessageKind :=
  if roll < 90 then text else if roll < 95 then join else leave

theorem ofName?_name (kind : MessageKind) : ofName? kind.name = some kind := by
  cases kind <;> decide

end MessageKind

end RoomLoad
