import Tollgate.Http.Message
import Tollgate.Registry

/-!
# Health monitor

One cycle of the monitor probes every instance of every service once, and applies the tally of each
service to it. An instance is healthy if its probe is answered with a success; one whose health URL
no request can be made to is not probed and not healthy. The latency of a cycle is that of the last
healthy instance. The clock is read for every service apart, when its last probe is done.
-/

namespace Tollgate

/-- The probe of one instance: what was sent, whether the instance is healthy, and its latency. -/
structure Probe where
  sent : Option Outbound
  healthy : Bool
  latency : Duration

namespace Probe

/-- The request a health URL is probed with. -/
def request? (url : String) (timeout : Duration) : Option Outbound :=
  (Uri.parse? url).map fun uri =>
    { method := "GET"
      uri
      headers := [(.userAgent, Bytes.ofText "api-gateway-health-check")]
      body := .empty
      timeout }

/-- The answer to a probe counts as healthy. -/
def isHealthy (reply : Reply) : Bool :=
  match reply.outcome with
  | .ok response => response.isSuccess
  | .error _ => false

/-- Probe one health URL. -/
def run (backend : Backend) (timeout : Duration) (url : String) : Probe :=
  match request? url timeout with
  | none => ⟨none, false, .zero⟩
  | some sent =>
    let reply := backend sent
    ⟨some sent, isHealthy reply, reply.latency⟩

end Probe

namespace Monitor

/-- Number of healthy instances. -/
def tally (probes : List Probe) : Nat :=
  (probes.filter Probe.healthy).length

/-- The latency of the last healthy instance. -/
def latency? (probes : List Probe) : Option Duration :=
  ((probes.filter Probe.healthy).getLast?).map Probe.latency

/-- Apply the probes of one service, done at `now`, and record its level. -/
def apply (now : Timestamp) (r : Registry) (service : String) (probes : List Probe) : Registry :=
  match r.applyProbeCycle service (tally probes) (latency? probes) now with
  | (none, r) => r
  | (some (_, current), r) =>
    { r with metrics := r.metrics ++ [.level (Metrics.serviceHealth service) current.level] }

/-- The probes of every service. -/
def probes (r : Registry) (timeout : Duration) (backend : Backend) :
    List (String × List Probe) :=
  r.probeTargets.map fun (service, urls) => (service, urls.map (Probe.run backend timeout))

/-- Report the probes of one service, done at the time that `doneAt` says. -/
def report (doneAt : String → Timestamp) (r : Registry) (p : String × List Probe) : Registry :=
  apply (doneAt p.1) r p.1 p.2

/-- One cycle, in which the probes of each service are done at the time that `doneAt` says: the
requests that were sent and the registry after it. -/
def checkAll (r : Registry) (doneAt : String → Timestamp) (timeout : Duration) (backend : Backend) :
    List Outbound × Registry :=
  let all := probes r timeout backend
  (all.flatMap fun p => p.2.filterMap Probe.sent, all.foldl (report doneAt) r)

/-- The time the probes of a cycle took. -/
def elapsed (r : Registry) (timeout : Duration) (backend : Backend) : Duration :=
  ((probes r timeout backend).flatMap fun p => p.2.map Probe.latency).foldl Duration.add .zero

end Monitor

end Tollgate
