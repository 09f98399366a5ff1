import Tollgate.Http.Message
import Tollgate.Json

/-!
# Gateway errors

Why a request was not answered by a service. Each cause has a status and a sentence for the caller.
-/

namespace Tollgate

/-- Why a request was not answered by a service. -/
inductive GatewayError where
  | routeNotFound (path : String)
  | serviceNotFound (service : String)
  | circuitOpen (service : String)
  | unavailable (service : String)
  | backendTimeout (service : String)
  | backendUnreachable (service : String)
  | backendFailure (service : String)
  | invalidBackendUri (service : String)
deriving DecidableEq, Repr

namespace GatewayError

/-- The cause in words. -/
def message : GatewayError → String
  | routeNotFound path => "No route matches " ++ path
  | serviceNotFound s => "Service " ++ s ++ " is not registered"
  | circuitOpen s => "Service " ++ s ++ " is temporarily unavailable (circuit breaker open)"
  | unavailable s => "Service " ++ s ++ " is not available"
  | backendTimeout s => "Service " ++ s ++ " request timeout"
  | backendUnreachable s => "Cannot connect to service " ++ s
  | backendFailure s => "Error communicating with service " ++ s
  | invalidBackendUri s => "Invalid upstream address for service " ++ s

/-- The status of the response. -/
def status : GatewayError → Nat
  | routeNotFound _ => 404
  | serviceNotFound _ | circuitOpen _ | unavailable _ => 503
  | backendTimeout _ => 504
  | backendUnreachable _ | backendFailure _ | invalidBackendUri _ => 502

/-- The cause is a lasting state of the routing and not a fault of this request. -/
def isRouting : GatewayError → Bool
  | routeNotFound _ | serviceNotFound _ | circuitOpen _ | unavailable _ => true
  | _ => false

/-- A JSON object that tells the caller what went wrong. -/
def detail (message : String) : Json :=
  .object [("detail", .string message)]

end GatewayError

namespace Response

/-- A response that carries a JSON value. -/
def ofJson (status : Nat) (value : Json) : Response :=
  { status
    headers := [(.contentType, Bytes.ofText "application/json")]
    body := Bytes.ofText value.text }

end Response

namespace GatewayError

/-- The response to the caller. -/
def response (e : GatewayError) : Response :=
  .ofJson e.status (detail e.message)

end GatewayError

end Tollgate
