import RoomLoad.Text.Numeral

/-!
# Rooms and users

Rooms and users are numbered by 32-bit numbers, and a run works on a range of
each, both ends included.
-/

namespace RoomLoad

abbrev RoomId := UInt32

abbrev UserId := UInt32

/-- The numbers from `low` to `high`, none if `high` is below `low`. -/
structure IdRange where
  low : UInt32
  high : UInt32
deriving DecidableEq

namespace IdRange

def isEmpty (range : IdRange) : Bool :=
  range.high < range.low

def holds (range : IdRange) (id : UInt32) : Bool :=
  range.low ≤ id && id ≤ range.high

def text (range : IdRange) : String :=
  range.low.toNat.repr ++ "..=" ++ range.high.toNat.repr

end IdRange

end RoomLoad
