import Tollgate.Number.Double

/-!
# Service status

The health of a service as a whole, recomputed from the tally of every probe cycle. Only an
unhealthy service is taken out of routing.
-/

namespace Tollgate

/-- Health of a service. -/
inductive Status where
  /-- Every instance answered its probe. -/
  | healthy
  /-- Some instances answered, but not all. -/
  | degraded
  /-- No instance answered. -/
  | unhealthy
  /-- No probe cycle has completed yet. -/
  | unknown
deriving DecidableEq, Repr

namespace Status

/-- The status after a cycle in which `healthy` of `total` instances answered. -/
def ofTally (healthy total : Nat) : Status :=
  if healthy = 0 then .unhealthy
  else if total ≤ healthy then .healthy
  else .degraded

/-- A service in this status may receive traffic. -/
def isRoutable : Status → Bool
  | unhealthy => false
  | _ => true

/-- The status in one lower-case word. -/
def text : Status → String
  | healthy => "healthy"
  | degraded => "degraded"
  | unhealthy => "unhealthy"
  | unknown => "unknown"

/-- The level recorded for the status: one, a half, or nothing. -/
def level : Status → Magnitude
  | healthy => Magnitude.ofQuotient 1 1
  | degraded => Magnitude.ofQuotient 1 2
  | unhealthy | unknown => Magnitude.zero

end Status

end Tollgate
