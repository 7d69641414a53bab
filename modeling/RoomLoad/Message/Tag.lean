import RoomLoad.Text.Blank
import RoomLoad.Text.Numeral
import RoomLoad.Text.Search

/-!
# Sequence tags

A message text carries the sequence id of its unit as `seq:<id>|` in front of
the words of the message.  The tag is the only handle by which an
acknowledgement finds the unit that it answers.
-/

namespace RoomLoad

/-- The number that identifies a unit within one run. -/
abbrev SeqId := UInt64

namespace Tag

def opening : List Char := ['s', 'e', 'q', ':']

def closing : Char := '|'

/-- The words of a message behind the tag of a sequence id. -/
def attach (seq : SeqId) (text : String) : String :=
  String.ofList (opening ++ Text.digits seq.toNat ++ closing :: text.toList)

/-- The sequence id in the characters of a message: between the first opening
and the closing that follows it, blanks around the numeral aside. -/
def read? (message : List Char) : Option SeqId := do
  let rest ← Text.after? opening message
  let body ← Text.before? closing rest
  let value ← Text.readBelow? Text.word64 (Text.trim body)
  return UInt64.ofNat value

/-- The sequence id that a message carries, if it has a well-formed tag. -/
def find? (message : String) : Option SeqId :=
  read? message.toList

end Tag

end RoomLoad
