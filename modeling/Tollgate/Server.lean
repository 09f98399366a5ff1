import Tollgate.Admission
import Tollgate.Forward
import Tollgate.Health
import Tollgate.Monitor
import Tollgate.Route.Table

/-!
# Server

The gateway as a whole. A request passes the limit on its size, then admission, and is answered by
one of the gateway's own health paths or else by the proxy, which looks up a route and forwards the
request to the service of that route. Between requests the monitor probes the services at regular
intervals.

The time since the start is kept; waiting for stores and services moves it too. The wall clock is
somebody else's: it is read wherever its time is wanted, so that whoever hands over a request or lets
a cycle run hands over what the clock will say.
-/

namespace Tollgate

/-- A request as it comes in. -/
structure Inbound where
  method : String
  uri : Uri
  headers : Headers := []
  body : Body := .empty
  /-- The address it came from, if that is known. -/
  peer : Option IpAddress := none
deriving DecidableEq, Repr

namespace Inbound

/-- The length the request says its body has. -/
def declaredLength? (i : Inbound) : Option Nat :=
  ((i.headers.get? .contentLength).bind readableText?).bind fun s =>
    let digits := s.toList
    if digits ≠ [] ∧ digits.all Char.isDigit ∧ decimalValue digits ≤ maxUnsigned64 then
      some (decimalValue digits)
    else none

/-- The request says that its body is longer than `limit`. -/
def isTooLarge (limit : Nat) (i : Inbound) : Bool :=
  i.declaredLength?.any (limit < ·)

/-- How many bytes of the body are accepted: no more than the request says that there are. -/
def bodyBound (limit : Nat) (i : Inbound) : Nat :=
  i.declaredLength?.elim limit (min limit)

/-- The body as far as it is accepted. -/
def bodyWithin (limit : Nat) (i : Inbound) : Body :=
  i.body.upTo (i.bodyBound limit)

/-- The request as it is sent on, made by `caller` if that was resolved. -/
def request (limit : Nat) (caller : Option Caller) (i : Inbound) : Request :=
  { method := i.method, uri := i.uri, headers := i.headers, body := i.bodyWithin limit, caller }

end Inbound

namespace Response

/-- The response to a request that is too large. -/
def tooLarge : Response :=
  { status := 413
    headers := [(.contentType, Bytes.ofText "text/plain; charset=utf-8")]
    body := Bytes.ofText "length limit exceeded" }

/-- The response to a request on a path the gateway has nothing at. -/
def nothingThere : Response := { status := 404 }

/-- The response to a request that a health path does not accept. -/
def methodNotAllowed : Response :=
  { status := 405, headers := [(.allow, Bytes.ofText "GET,HEAD")] }

/-- The response as the caller sees it: some have no body, whatever they say about its length. -/
def seenBy (method : String) (r : Response) : Response :=
  if method = "HEAD" ∨ r.status = 204 ∨ r.status = 304 then { r with body := [] } else r

end Response

/-- The paths that the gateway answers itself. -/
inductive HealthPath where
  | summary
  | detailed
  | ready
  | live
deriving DecidableEq, Repr

namespace HealthPath

/-- The report that a path asks for. -/
def ofPath? (path : String) : Option HealthPath :=
  if path = "/health" then some .summary
  else if path = "/health/detailed" then some .detailed
  else if path = "/health/ready" then some .ready
  else if path = "/health/live" then some .live
  else none

end HealthPath

/-- What the clock says during a visit, wherever it is read. -/
structure VisitTimes extends ForwardTimes where
  /-- When a window is checked. -/
  check : Scope → Timestamp
  /-- When a refused caller is told how long to wait. -/
  refusal : Timestamp
  /-- When a report about the health of the gateway is made. -/
  report : Timestamp

namespace VisitTimes

/-- The seconds of the checks. -/
def checkSeconds (times : VisitTimes) (scope : Scope) : Int :=
  (times.check scope).seconds

/-- The clock says the same all the time. -/
def frozen (now : Timestamp) : VisitTimes :=
  { ForwardTimes.frozen now with check := fun _ => now, refusal := now, report := now }

end VisitTimes

/-- What a request on some path is answered by. -/
inductive Resource where
  | health (path : HealthPath)
  | proxy
  | nothing
deriving DecidableEq, Repr

namespace Resource

/-- The health paths come first; every other path with a slash in front belongs to the proxy. -/
def ofPath (path : String) : Resource :=
  match HealthPath.ofPath? path with
  | some p => .health p
  | none => if path.toList.head? = some '/' then .proxy else .nothing

end Resource

/-- The gateway. -/
structure Server where
  routes : RouteTable
  admission : Admission
  criticalServices : List String
  maxBodySize : Nat
  requestTimeout : Duration
  healthCheck : HealthCheckConfig
  registry : Registry
  limiter : Limiter
  /-- The time since the start. -/
  uptime : Duration := .zero
  /-- How many cycles the monitor has run. -/
  cycles : Nat := 0
  /-- What was measured about requests; the registry and the limiter keep their own logs. -/
  requestLog : Metrics := []

namespace Server

/-- The server of a configuration, with its rate limiter. -/
def ofConfig (c : Config) (limiter : Limiter) : Except NoInstances Server :=
  (Registry.ofConfig c.services c.breaker).map fun registry =>
    { routes := .ofConfig c.routes
      admission := .ofConfig c.rateLimit
      criticalServices := c.healthCheck.criticalServices
      maxBodySize := c.security.maxBodySize
      requestTimeout := .ofSeconds c.timeouts.requestSeconds
      healthCheck := c.healthCheck
      registry
      limiter }

/-- Everything that was measured. No series is in two of the logs. -/
def metrics (s : Server) : Metrics :=
  s.registry.metrics ++ s.limiter.metrics ++ s.requestLog

/-! ### Health paths -/

/-- The response on a health path, with a report made at `now`. -/
def healthResponse (s : Server) (now : Timestamp) : HealthPath → Response
  | .summary => .ofJson 200 (HealthReport.summary s.registry s.uptime now).toJson
  | .detailed =>
    .ofJson 200 (HealthReport.detailed s.registry s.limiter.isConnected s.uptime now).toJson
  | .ready =>
    let report := HealthReport.readiness s.registry s.criticalServices s.uptime now
    if report.isHealthy then .ofJson 200 report.toJson
    else .ofJson 503 (.object [("detail", report.toOrderedJson)])
  | .live => .ofJson 200 (.object [("status", .string "alive")])

/-- The response of a health path to a method. -/
def healthAnswer (s : Server) (now : Timestamp) (path : HealthPath) (method : String) : Response :=
  if method = "GET" ∨ method = "HEAD" then s.healthResponse now path else .methodNotAllowed

/-! ### Proxy -/

/-- What a request came to: the response, the request sent on, if there was one, and the calls made
on the store of the limiter. -/
structure Served where
  response : Response
  sent : Option Outbound := none
  calls : List StoreCall := []
  server : Server

/-- Measure a request that the proxy has answered. -/
def noteRequest (s : Server) (method : String) (status : Nat) (service : String)
    (elapsed : Duration) : Server :=
  { s with
    requestLog := s.requestLog ++
      [.increment (Metrics.requests method status service),
        .sample (Metrics.requestSeconds service) elapsed.seconds] }

/-- The name that stands for the service of a request without a route. -/
def noService : String := "none"

/-- Answer a request from the service of its route. -/
def proxy (s : Server) (times : ForwardTimes) (backend : Backend) (request : Request) : Served :=
  match s.routes.lookup request.uri.path with
  | none =>
    { response := (GatewayError.routeNotFound request.uri.path).response
      server := s.noteRequest request.method 404 noService .zero }
  | some m =>
    let f := s.registry.forward times s.requestTimeout request m.service m.targetPath backend
    let s := { s with registry := f.registry, uptime := s.uptime + f.elapsed }
    match f.answer with
    | .ok response =>
      { response
        sent := f.sent
        server := s.noteRequest request.method response.status m.service f.elapsed }
    | .error e =>
      { response := e.response
        sent := f.sent
        server := s.noteRequest request.method e.status m.service f.elapsed }

/-- Answer a request that was let in, made by `caller` if that was resolved. -/
def answer (s : Server) (times : VisitTimes) (backend : Backend) (i : Inbound)
    (caller : Option Caller) : Served :=
  match Resource.ofPath i.uri.path with
  | .health path => { response := s.healthAnswer times.report path i.method, server := s }
  | .proxy => s.proxy times.toForwardTimes backend (i.request s.maxBodySize caller)
  | .nothing => { response := .nothingThere, server := s }

/-! ### Requests -/

/-- The server after admission. -/
def afterAdmission (s : Server) (a : Admitted) : Server :=
  { s with limiter := a.limiter, uptime := s.uptime + .ofMillis a.waitedMillis }

/-- The server that has measured a refusal. -/
def noteRefusal (s : Server) (scope : Scope) : Server :=
  { s with requestLog := s.requestLog ++ [.increment (Metrics.rateLimited scope.text)] }

/-- Handle a request, the store of the limiter being subject to `faults`. -/
def handle (s : Server) (times : VisitTimes) (faults : Faults) (backend : Backend) (i : Inbound) :
    Served :=
  if i.isTooLarge s.maxBodySize then { response := .tooLarge, server := s }
  else
    let a := s.admission.judge s.limiter faults i.uri.path i.headers i.peer times.checkSeconds
    let s := s.afterAdmission a
    match a.verdict with
    | .exempt => s.answer times backend i none
    | .admitted caller quota =>
      let served := s.answer times backend i (some caller)
      { served with response := served.response.withQuota quota, calls := a.calls }
    | .refused scope decision =>
      { response := .refusal scope decision times.refusal.seconds
        calls := a.calls
        server := s.noteRefusal scope }

/-! ### Monitor -/

/-- The monitor runs. An interval of no length is none it could run at. -/
def isProbing (s : Server) : Bool :=
  s.healthCheck.enabled && s.healthCheck.intervalSeconds != 0

/-- How many cycles are due: one at the start and one at the end of every interval. -/
def dueCycles (s : Server) : Nat :=
  if s.isProbing then
    s.uptime.nanos / (s.healthCheck.intervalSeconds * nanosPerSecond) + 1 - s.cycles
  else 0

/-- Run one cycle, in which the probes of each service are done at the time that `doneAt` says: the
requests that were sent, and the server afterwards. -/
def cycle (s : Server) (doneAt : String → Timestamp) (backend : Backend) : List Outbound × Server :=
  let timeout := Duration.ofSeconds s.healthCheck.timeoutSeconds
  let elapsed := Monitor.elapsed s.registry timeout backend
  let (sent, registry) := Monitor.checkAll s.registry doneAt timeout backend
  (sent, { s with registry, uptime := s.uptime + elapsed, cycles := s.cycles + 1 })

/-- Run cycles one after the other. Of each one `doneAt` says, by its number, when the probes of a
service are done. -/
def runCycles (doneAt : Nat → String → Timestamp) (backend : Backend) :
    Nat → Server → List Outbound × Server
  | 0, s => ([], s)
  | n + 1, s =>
    let (sent, s) := s.cycle (doneAt s.cycles) backend
    let (more, s) := runCycles doneAt backend n s
    (sent ++ more, s)

/-- Start the monitor, whose first cycle runs at once. -/
def start (s : Server) (doneAt : Nat → String → Timestamp) (backend : Backend) :
    List Outbound × Server :=
  runCycles doneAt backend (min 1 s.dueCycles) s

/-- Let time pass, and then the monitor run the cycles that are due. -/
def advance (s : Server) (by_ : Duration) (doneAt : Nat → String → Timestamp) (backend : Backend) :
    List Outbound × Server :=
  let s := { s with uptime := s.uptime + by_ }
  runCycles doneAt backend s.dueCycles s

end Server

end Tollgate
