import RoomLoad.Metrics

/-!
# Run summary

What a main phase comes to.
-/

namespace RoomLoad

structure RunSummary where
  total : Nat
  generated : Nat
  sent : Nat
  abandoned : Nat
  /-- The units still in flight at the end. -/
  unacknowledged : Nat
  unparseable : Nat
  uncorrelated : Nat
  interrupted : Bool
  drainTimedOut : Bool
  metrics : MetricsSnapshot

end RoomLoad
