import Tollgate.GatewayError
import Tollgate.Http.Stamp
import Tollgate.Registry

/-!
# Forwarding

A request for a service is sent to one instance of it, once. Selection may refuse it, and the chosen
instance may have an address no request can be made to; otherwise exactly one request is sent, and
its outcome is recorded on the service. Recovery from failures is the breaker's business: nothing is
tried again.
-/

namespace Tollgate

namespace GatewayError

/-- The error for a refused selection. -/
def ofSelect : SelectError → GatewayError
  | .serviceNotFound service => serviceNotFound service
  | .unavailable service true => circuitOpen service
  | .unavailable service false => unavailable service

/-- The error for a failed exchange. -/
def ofTransport (service : String) : TransportFailure → GatewayError
  | .timeout => backendTimeout service
  | .connect => backendUnreachable service
  | .other => backendFailure service

end GatewayError

namespace Request

/-- Requests with these methods are sent on with their body. -/
def carriesBody (method : String) : Bool :=
  method == "POST" || method == "PUT" || method == "PATCH"

/-- The fields sent on: those that concern more than one leg, without the host, with the identifier
of the request, and with the caller's user id if it is known and legal. Without a body there is no
length. -/
def outboundHeaders (r : Request) (correlation : Bytes) : Headers :=
  let user := (r.caller.bind Caller.user).bind headerValue?
  let passed := r.headers.withoutHopByHop.remove .host
  let stamped := (passed.set .correlationId correlation).setIf .userId user
  if carriesBody r.method then stamped else stamped.remove .contentLength

/-- The request as it is sent to an instance. -/
def outbound (r : Request) (uri : Uri) (correlation : Bytes) (timeout : Duration) : Outbound :=
  { method := r.method
    uri
    headers := r.outboundHeaders correlation
    body := if carriesBody r.method then r.body else .empty
    timeout }

end Request

/-- What the clock says while a request is forwarded. It may be set meanwhile, so that the readings
need not be in order. -/
structure ForwardTimes where
  /-- When an instance is selected. -/
  selection : Timestamp
  /-- When an identifier is made up for the request. -/
  identifier : Timestamp
  /-- When the failure of the exchange is recorded. -/
  failure : Timestamp
deriving DecidableEq, Repr

namespace ForwardTimes

/-- The clock says the same all the time. -/
def frozen (now : Timestamp) : ForwardTimes :=
  ⟨now, now, now⟩

end ForwardTimes

/-- What came of forwarding a request. -/
structure Forwarded where
  answer : Except GatewayError Response
  /-- The request that was sent, if one was. -/
  sent : Option Outbound
  /-- The time the exchange took. -/
  elapsed : Duration
  registry : Registry

namespace Registry

/-- Forward a request to a service, asking for `targetPath`. -/
def forward (r : Registry) (times : ForwardTimes) (timeout : Duration) (request : Request)
    (service targetPath : String) (backend : Backend) : Forwarded :=
  match r.select service times.selection with
  | (.error e, r) => ⟨.error (.ofSelect e), none, .zero, r⟩
  | (.ok base, r) =>
    match backendUri? base targetPath request.uri.query with
    | none => ⟨.error (.invalidBackendUri service), none, .zero, r⟩
    | some uri =>
      let correlation := correlationValue request.headers times.identifier
      let sent := request.outbound uri correlation timeout
      let reply := backend sent
      match reply.outcome with
      | .ok response =>
        ⟨.ok (response.stamp service reply.latency correlation), some sent, reply.latency,
          r.recordSuccess service reply.latency⟩
      | .error failure =>
        ⟨.error (.ofTransport service failure), some sent, reply.latency,
          (r.recordFailure service times.failure).2⟩

end Registry

end Tollgate
