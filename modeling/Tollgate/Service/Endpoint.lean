import Tollgate.Breaker
import Tollgate.Service.Status

/-!
# Service endpoints

One service with its instances in configured order, the cursor of the round robin, the status of
the last probe cycle, the latency last seen, a decaying count of errors and the circuit breaker.
That there is an instance under the cursor is part of the type.
-/

namespace Tollgate

/-- One instance of a service: where requests go, and what the monitor probes. -/
structure Instance where
  requestUrl : String
  healthUrl : String
deriving DecidableEq, Repr

/-- A service and its state. -/
structure Endpoint where
  name : String
  instances : List Instance
  cursor : Nat
  status : Status := .unknown
  lastCheck : Option Timestamp := none
  responseTime : Option Duration := none
  errorCount : Nat := 0
  breaker : Breaker := .closed
  cursor_lt : cursor < instances.length
deriving DecidableEq, Repr

namespace Endpoint

/-- A fresh service, unless it has no instances. -/
def ofInstances? (name : String) (instances : List Instance) : Option Endpoint :=
  if h : 0 < instances.length then some { name, instances, cursor := 0, cursor_lt := h } else none

/-- Whether the service may receive traffic at `now`. An open circuit decides alone, and closes here
when its deadline is over; otherwise the status decides. -/
def available (e : Endpoint) (now : Timestamp) : Bool × Endpoint :=
  if e.breaker.isOpen then
    let (passed, breaker) := e.breaker.tryPass now
    (passed, { e with breaker })
  else (e.status.isRoutable, e)

/-- The instance under the cursor. -/
def current (e : Endpoint) : Instance :=
  e.instances.get ⟨e.cursor, e.cursor_lt⟩

/-- The cursor moved on by one instance. -/
def rotate (e : Endpoint) : Endpoint :=
  { e with
    cursor := (e.cursor + 1) % e.instances.length
    cursor_lt := Nat.mod_lt _ (Nat.zero_lt_of_lt e.cursor_lt) }

/-- The instance under the cursor, which moves on. -/
def next (e : Endpoint) : Instance × Endpoint :=
  (e.current, e.rotate)

/-- Record a success that took `elapsed`. -/
def recordSuccess (e : Endpoint) (elapsed : Duration) : Endpoint :=
  { e with
    responseTime := some elapsed
    errorCount := e.errorCount - 1
    breaker := e.breaker.onSuccess.2 }

/-- Record a failure at `now`. -/
def recordFailure (e : Endpoint) (now : Timestamp) (threshold : Nat) (openFor : Duration) :
    FailureOutcome × Endpoint :=
  let (outcome, breaker) := e.breaker.onFailure now threshold openFor
  (outcome, { e with errorCount := Saturating.addUpTo maxUnsigned64 e.errorCount 1, breaker })

/-- Apply a probe cycle that ended at `now` with `healthy` instances: the status follows the tally,
one success with the given latency is recorded if any instance was healthy, one failure if none
was. The outcome of that failure is returned. -/
def applyProbeCycle (e : Endpoint) (healthy : Nat) (latency : Option Duration) (now : Timestamp)
    (threshold : Nat) (openFor : Duration) : Option FailureOutcome × Endpoint :=
  let checked :=
    { e with status := .ofTally healthy e.instances.length, lastCheck := some now }
  if 0 < healthy then
    (none, checked.recordSuccess (latency.getD .zero))
  else
    let (outcome, failed) := checked.recordFailure now threshold openFor
    (some outcome, failed)

end Endpoint

end Tollgate
