/-!
# Searching a text

The part of a text after the first occurrence of a mark, and the part before
the first occurrence of a delimiter.
-/

namespace RoomLoad.Text

/-- What follows the first occurrence of `mark`. -/
def after? (mark : List Char) : List Char → Option (List Char)
  | [] => if mark.isEmpty then some [] else none
  | character :: rest =>
      if mark.isPrefixOf (character :: rest) then
        some ((character :: rest).drop mark.length)
      else
        after? mark rest

/-- What comes before the first occurrence of `delimiter`. -/
def before? (delimiter : Char) (text : List Char) : Option (List Char) :=
  if text.contains delimiter then
    some (text.takeWhile (· != delimiter))
  else
    none

end RoomLoad.Text
