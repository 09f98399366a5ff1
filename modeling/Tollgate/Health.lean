import Tollgate.Http.Message
import Tollgate.Json
import Tollgate.Registry
import Tollgate.Time.Calendar

/-!
# Health reports

What the gateway tells about itself on four paths of its own. One says that it answers at all. Two
sum up what the last probe cycles found, without probing; the more detailed one looks at the parts of
the gateway as well. The fourth says whether any of the critical services is healthy, by its status
as well as in words.

The members of every object stand in ascending order of their names, but for a report that makes up a
body, and the findings in it.
-/

namespace Tollgate

/-- How well a part is. -/
inductive Level where
  | healthy
  | degraded
  | unhealthy
deriving DecidableEq, Repr

namespace Level

/-- The level in one word. -/
def text : Level → String
  | healthy => "healthy"
  | degraded => "degraded"
  | unhealthy => "unhealthy"

end Level

/-- What was found about a part. -/
structure Finding where
  level : Level
  message : String
  details : Option Json := none
deriving Repr

namespace Finding

/-- The finding as it is reported; where there are no details they are left out. -/
def toJson (f : Finding) : Json :=
  .object ([("status", .string f.level.text), ("message", .string f.message)]
    ++ (f.details.map fun d => ("details", d)).toList)

/-- The finding as it is reported inside another value, its members in order. -/
def toOrderedJson (f : Finding) : Json :=
  .object ((f.details.map fun d => ("details", d)).toList
    ++ [("message", .string f.message), ("status", .string f.level.text)])

end Finding

/-- A report on several parts, in ascending order of their names. -/
structure HealthReport where
  service : String
  findings : List (String × Finding)
  uptime : Duration
  time : Timestamp
deriving Repr

namespace HealthReport

/-- Every part is healthy. -/
def isHealthy (r : HealthReport) : Bool :=
  r.findings.all fun f => f.2.level == .healthy

/-- All is well or it is not; there is no level in between for a report. -/
def level (r : HealthReport) : Level :=
  if r.isHealthy then .healthy else .unhealthy

/-- The report as a JSON value. -/
def toJson (r : HealthReport) : Json :=
  .object
    [("service", .string r.service), ("status", .string r.level.text),
      ("checks", .object (r.findings.map fun f => (f.1, f.2.toJson))),
      ("uptime_seconds", .number r.uptime.seconds), ("timestamp", .string r.time.text)]

/-- The report inside another value, its members in order. -/
def toOrderedJson (r : HealthReport) : Json :=
  .object
    [("checks", .object (r.findings.map fun f => (f.1, f.2.toOrderedJson))),
      ("service", .string r.service), ("status", .string r.level.text),
      ("timestamp", .string r.time.text), ("uptime_seconds", .number r.uptime.seconds)]

end HealthReport

namespace Endpoint

/-- Everything known about a service. -/
def toJson (e : Endpoint) : Json :=
  let orNull {α : Type} (f : α → Json) (a : Option α) : Json := (a.map f).getD .null
  let texts (l : List String) : Json := .array (l.map .string)
  .object
    [("circuit_open", .bool e.breaker.isOpen),
      ("circuit_open_until", orNull (fun t : Timestamp => .string t.text) e.breaker.openUntil),
      ("consecutive_failures", .integer e.breaker.failures),
      ("current_url_index", .integer e.cursor),
      ("error_count", .integer e.errorCount),
      ("health_urls", texts (e.instances.map Instance.healthUrl)),
      ("last_check", orNull (fun t : Timestamp => .string t.text) e.lastCheck),
      ("name", .string e.name),
      ("response_time", orNull (fun d : Duration => .number d.seconds) e.responseTime),
      ("status", .string e.status.text),
      ("urls", texts (e.instances.map Instance.requestUrl))]

end Endpoint

/-! ### Services -/

/-- How many services there are, and which of them are not healthy, in ascending order. -/
structure ServiceTally where
  total : Nat
  unhealthy : List String
deriving DecidableEq, Repr

namespace ServiceTally

/-- How many services are healthy. -/
def healthy (t : ServiceTally) : Nat :=
  t.total - t.unhealthy.length

/-- All of them, some, or none. -/
def level (t : ServiceTally) : Level :=
  if t.healthy = 0 then .unhealthy
  else if t.healthy = t.total then .healthy
  else .degraded

/-- The tally in words. -/
def message (t : ServiceTally) : String :=
  if t.total = 0 then "No backend services registered"
  else
    match t.level with
    | .healthy => "All " ++ toString t.total ++ " backend services are healthy"
    | .degraded =>
      toString t.healthy ++ "/" ++ toString t.total ++ " backend services healthy"
    | .unhealthy => "No backend services are healthy"

end ServiceTally

namespace Registry

/-- The tally of the services by what the last probe cycles found. -/
def tally (r : Registry) : ServiceTally :=
  { total := r.services.length
    unhealthy := (r.byName.filter fun e => e.status ≠ .healthy).map Endpoint.name }

/-- What is found about the services. -/
def servicesFinding (r : Registry) : Finding :=
  let t := r.tally
  { level := t.level
    message := t.message
    details :=
      if t.total = 0 then none
      else some (.object
        [("healthy_services", .integer t.healthy),
          ("services", .object (r.byName.map fun e => (e.name, e.toJson))),
          ("total_services", .integer t.total),
          ("unhealthy_services", .array (t.unhealthy.map .string))]) }

/-- The service of that name is in the registry and healthy. -/
def isHealthy (r : Registry) (name : String) : Bool :=
  match r.find? name with
  | some e => e.status == .healthy
  | none => false

/-- What is found about the services that the gateway cannot do without. One of them suffices. -/
def criticalFinding (r : Registry) (critical : List String) : Finding :=
  if critical = [] then ⟨.healthy, "No critical services configured", none⟩
  else
    let healthy := critical.filter r.isHealthy
    let details : Json := .object
      [("critical_services", .array (critical.map .string)),
        ("healthy_critical", .array (healthy.map .string))]
    if healthy = [] then
      ⟨.unhealthy, "No critical backend services are healthy", some details⟩
    else
      ⟨.healthy,
        toString healthy.length ++ "/" ++ toString critical.length ++ " critical services ready",
        some details⟩

end Registry

/-! ### Reports -/

/-- The version the gateway reports. -/
def version : String := "0.1.0"

namespace HealthReport

/-- The gateway answers. -/
def basicFinding : Finding :=
  ⟨.healthy, "API Gateway is running", some (.object [("version", .string version)])⟩

/-- What is found about the gateway's own parts. -/
def componentsFinding (connected : Bool) : Finding :=
  ⟨.healthy, "Gateway components operational",
    some (.object
      [("middleware", .string "active"),
        ("rate_limiter", .string (if connected then "connected" else "disconnected")),
        ("routing", .string "active")])⟩

/-- What is found about the store of the rate limiter. -/
def storeFinding (connected : Bool) : Finding :=
  let details (connection : String) : Json :=
    .object [("component", .string "rate_limiter"), ("connection", .string connection)]
  if connected then
    ⟨.healthy, "Rate limit store connection active", some (details "active")⟩
  else
    ⟨.unhealthy, "Rate limit store connection not available", some (details "inactive")⟩

/-- The gateway and the services behind it. -/
def summary (r : Registry) (uptime : Duration) (now : Timestamp) : HealthReport :=
  { service := "api-gateway"
    findings := [("backend_services", r.servicesFinding), ("basic", basicFinding)]
    uptime
    time := now }

/-- The summary with the parts of the gateway itself. -/
def detailed (r : Registry) (connected : Bool) (uptime : Duration) (now : Timestamp) :
    HealthReport :=
  { service := "api-gateway-detailed"
    findings :=
      [("backend_services", r.servicesFinding), ("basic", basicFinding),
        ("gateway_components", componentsFinding connected),
        ("rate_limit_store", storeFinding connected)]
    uptime
    time := now }

/-- Whether requests that matter can be answered. -/
def readiness (r : Registry) (critical : List String) (uptime : Duration) (now : Timestamp) :
    HealthReport :=
  { service := "api-gateway-readiness"
    findings := [("critical_services", r.criticalFinding critical)]
    uptime
    time := now }

end HealthReport

end Tollgate
