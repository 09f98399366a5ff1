import Tollgate.Http.HopByHop
import Tollgate.Http.Message
import Tollgate.Text.Blank

/-!
# Stamping messages

What the gateway changes about a message on its way: the identifier a request is followed by, the
identifier of the resource on the chosen instance, and the fields that tell a caller which service
answered and how long it took.
-/

namespace Tollgate

/-- An identifier made of the milliseconds since 1970. -/
def correlationText (now : Timestamp) : String :=
  "gw-" ++ toString now.millis

/-- The identifier of a request: the one it came with, unless that is missing or empty, and else one
that is made for it. -/
def correlationValue (h : Headers) (now : Timestamp) : Bytes :=
  match h.get? .correlationId with
  | some (b :: rest) => b :: rest
  | _ => (headerValue? (correlationText now)).getD (Bytes.ofText "gw-0")

/-- Instance, path and query in one text: one slash between instance and path, and a query only if
there is something in it. -/
def backendText (base path : String) (query : Option String) : String :=
  trimSlashes base
    ++ (match path.toList with | '/' :: _ => "" | _ => "/")
    ++ path
    ++ (match query with
        | some q => if q = "" then "" else "?" ++ q
        | none => "")

/-- The resource on an instance. -/
def backendUri? (base path : String) (query : Option String) : Option Uri :=
  Uri.parse? (backendText base path query)

namespace Headers

/-- Set a field if there is a value for it. -/
def setIf (h : Headers) (name : HeaderName) : Option Bytes → Headers
  | some value => h.set name value
  | none => h

end Headers

namespace Response

/-- The response for the caller: without hop-by-hop fields, and with the service and the time it
took, if their texts can stand in a field, and the identifier of the request. -/
def stamp (r : Response) (service : String) (elapsed : Duration) (correlation : Bytes) : Response :=
  { r with
    headers :=
      ((r.headers.stripHopByHop.setIf .gatewayService (headerValue? service)).setIf .responseTime
          (headerValue? elapsed.millisText)).set .correlationId correlation }

end Response

end Tollgate
