import Tollgate.Config
import Tollgate.Metrics
import Tollgate.Service.Endpoint

/-!
# Service registry

The catalogue of services, fixed when it is built, with the breaker policy they share and the log
of what it measured. Requests select an instance of a service by round robin; outcomes of calls and
tallies of probe cycles are recorded on the service they name. Operations that name a service
outside the catalogue change nothing.
-/

namespace Tollgate

/-- A service was configured without instances. -/
structure NoInstances where
  service : String
deriving DecidableEq, Repr

namespace NoInstances

/-- What went wrong, in words. -/
def message (e : NoInstances) : String :=
  "service \x60" ++ e.service ++ "\x60 must have at least one instance"

end NoInstances

/-- Why no instance could be selected. -/
inductive SelectError where
  | serviceNotFound (service : String)
  /-- The service takes no traffic; the flag tells whether its circuit was open. -/
  | unavailable (service : String) (circuitOpen : Bool)
deriving DecidableEq, Repr

namespace SelectError

/-- What went wrong, in words. -/
def message : SelectError → String
  | serviceNotFound service => "service \x60" ++ service ++ "\x60 is not registered"
  | unavailable service _ => "service \x60" ++ service ++ "\x60 is not available"

end SelectError

/-- The catalogue of services. -/
structure Registry where
  services : List Endpoint
  policy : BreakerPolicy
  metrics : Metrics := []
deriving DecidableEq, Repr

namespace Registry

/-- The catalogue with `e` in the place of the service of the same name, or at the end. -/
def insertEndpoint (e : Endpoint) : List Endpoint → List Endpoint
  | [] => [e]
  | f :: rest => if f.name = e.name then e :: rest else f :: insertEndpoint e rest

/-- The instances of a configured service. -/
def instancesOf (s : ServiceConfig) : List Instance :=
  s.instances.map fun i => ⟨trimSlashes i.url, i.resolvedHealthUrl⟩

/-- The endpoint of a configured service. -/
def endpointOf (s : ServiceConfig) : Except NoInstances Endpoint :=
  match Endpoint.ofInstances? s.name (instancesOf s) with
  | some e => .ok e
  | none => .error ⟨s.name⟩

/-- The registry of the configured services. A repeated name replaces the service before it. -/
def ofConfig (services : List ServiceConfig) (policy : BreakerPolicy) :
    Except NoInstances Registry :=
  (services.mapM endpointOf).map fun endpoints =>
    { services := endpoints.foldl (fun known e => insertEndpoint e known) [], policy }

/-- The service of that name. -/
def find? (r : Registry) (name : String) : Option Endpoint :=
  r.services.find? fun e => e.name = name

/-- The service is in the catalogue. -/
def contains (r : Registry) (name : String) : Bool :=
  (r.find? name).isSome

/-- The registry with the service named like `e` replaced by `e`. -/
def replace (r : Registry) (e : Endpoint) : Registry :=
  { r with services := r.services.map fun f => if f.name = e.name then e else f }

/-- The names of the services in ascending order. -/
def names (r : Registry) : List String :=
  (r.services.map Endpoint.name).mergeSort fun a b => a ≤ b

/-- The services in ascending order of their names. -/
def byName (r : Registry) : List Endpoint :=
  r.services.mergeSort fun a b => a.name ≤ b.name

/-- The registry that has measured an opened circuit, if that is what the outcome was. -/
def noteOutcome (r : Registry) (name : String) (outcome : Option FailureOutcome) : Registry :=
  if outcome = some .opened then
    { r with metrics := r.metrics ++ [.increment (Metrics.circuitOpened name)] }
  else r

/-- Select the next instance of a service at `now`: the URL requests go to. -/
def select (r : Registry) (name : String) (now : Timestamp) :
    Except SelectError String × Registry :=
  match r.find? name with
  | none => (.error (.serviceNotFound name), r)
  | some e =>
    let (free, e) := e.available now
    if free then
      let (chosen, e) := e.next
      (.ok chosen.requestUrl, r.replace e)
    else
      (.error (.unavailable name e.breaker.isOpen), r.replace e)

/-- Record a successful call. -/
def recordSuccess (r : Registry) (name : String) (elapsed : Duration) : Registry :=
  match r.find? name with
  | none => r
  | some e => r.replace (e.recordSuccess elapsed)

/-- Record a failed call at `now`. -/
def recordFailure (r : Registry) (name : String) (now : Timestamp) :
    Option FailureOutcome × Registry :=
  match r.find? name with
  | none => (none, r)
  | some e =>
    let (outcome, e) := e.recordFailure now r.policy.failureThreshold r.policy.openFor
    (some outcome, (r.replace e).noteOutcome name (some outcome))

/-- Apply the tally of a probe cycle that ended at `now`; the status before and after it. -/
def applyProbeCycle (r : Registry) (name : String) (healthy : Nat) (latency : Option Duration)
    (now : Timestamp) : Option (Status × Status) × Registry :=
  match r.find? name with
  | none => (none, r)
  | some e =>
    let (outcome, checked) :=
      e.applyProbeCycle healthy latency now r.policy.failureThreshold r.policy.openFor
    (some (e.status, checked.status), (r.replace checked).noteOutcome name outcome)

/-- The probed URLs of every service, in instance order. -/
def probeTargets (r : Registry) : List (String × List String) :=
  r.services.map fun e => (e.name, e.instances.map Instance.healthUrl)

end Registry

end Tollgate
