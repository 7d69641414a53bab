import RoomLoad.Time.Duration

/-!
# Faults

What can go wrong in a run, as causes, and the one wording of each.
-/

namespace RoomLoad

inductive Fault where
  /-- A send on a channel that is not open. -/
  | notOpen
  /-- A connect that took longer than it may. -/
  | connectTimeout (url : String) (timeout : Duration)
  /-- A connection that failed. -/
  | transport (detail : String)
  /-- A text that does not have the expected form. -/
  | serialize (detail : String)
  /-- A probe whose echoes did not all arrive in time. -/
  | probeTimeout (matched remaining unparseable : Nat)
  /-- A setting that a run cannot work with. -/
  | config (detail : String)
  /-- A file that could not be written. -/
  | io (detail : String)
  /-- A task that ended without an answer. -/
  | taskFailed (detail : String)
deriving DecidableEq

namespace Fault

def message : Fault → String
  | notOpen => "Channel not open"
  | connectTimeout url timeout =>
      "Connect timeout after " ++ timeout.text ++ ": " ++ url
  | transport detail => "Transport error: " ++ detail
  | serialize detail => "Serialization error: " ++ detail
  | probeTimeout matched remaining unparseable =>
      "RTT probe timed out; matched=" ++ matched.repr ++ ", remaining=" ++ remaining.repr ++
        ", unparseable=" ++ unparseable.repr
  | config detail => "Configuration error: " ++ detail
  | io detail => "IO error: " ++ detail
  | taskFailed detail => "Task failed: " ++ detail

end Fault

end RoomLoad
