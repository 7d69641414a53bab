import RoomLoad.Simulation.Course

/-!
# Direct calls on channels

Single calls on channels as tasks of their own, with a listener that keeps every
frame it gets.
-/

namespace RoomLoad

/-- What a listener has got, and the reconnects that counted. -/
structure Heard where
  frames : Array String
  reconnections : Nat

inductive DirectCall where
  | asking (call : Call)
  | answered (answer : Answer)

namespace DirectCall

def hasEnded : DirectCall → Bool
  | asking _ => false
  | answered _ => true

def result : DirectCall → Except Fault Unit
  | answered (.failed fault) => .error fault
  | _ => .ok ()

end DirectCall

abbrev DirectCall.World := RoomLoad.World Heard DirectCall

def directCalls : System Heard DirectCall where
  call?
    | .asking call => some call
    | .answered _ => none
  moves _ _ _ _ := []
  resume _ _ heard _ answer := (heard, .answered answer)
  receive _ text heard := { heard with frames := heard.frames.push text }
  countReconnect heard := { heard with reconnections := heard.reconnections + 1 }

end RoomLoad
