import Tollgate.Http.Caller
import Tollgate.Http.Uri
import Tollgate.Time

/-!
# Messages

Requests as they come in, as they are sent on, and responses. The body of a request is read while it
is sent on, and reading can fail: the caller sends more than is accepted, breaks off, or stops.
-/

namespace Tollgate

/-- Why a body cannot be read to its end. -/
inductive BodyFlaw where
  /-- More came than is accepted. -/
  | overrun
  /-- The sender broke off. -/
  | broken
  /-- The sender stopped, and nothing more comes. -/
  | stalled
deriving DecidableEq, Repr

/-- A request body, as far as it can be read. A body with a flaw may have been read in part when that
shows, so `content` is then what can be read of it at most. -/
structure Body where
  content : Bytes := []
  /-- What keeps it from being read to its end, if anything does. -/
  flaw : Option BodyFlaw := none
deriving DecidableEq, Repr

namespace Body

/-- No bytes. -/
def empty : Body := {}

/-- The body can be read to its end. -/
def isWhole (b : Body) : Bool :=
  b.flaw.isNone

/-- The body of which no more than `bound` bytes are accepted. -/
def upTo (bound : Nat) (b : Body) : Body :=
  if bound < b.content.length then ⟨b.content.take bound, some .overrun⟩ else b

end Body

/-- A request to be sent on. -/
structure Request where
  method : String
  uri : Uri
  headers : Headers
  body : Body
  /-- Who made it, if that was resolved. -/
  caller : Option Caller := none
deriving DecidableEq, Repr

/-- A request as it is sent to an instance. -/
structure Outbound where
  method : String
  uri : Uri
  headers : Headers
  body : Body
  /-- The whole answer has to arrive within this time. -/
  timeout : Duration
deriving DecidableEq, Repr

/-- A response. -/
structure Response where
  status : Nat
  headers : Headers := []
  body : Bytes := []
deriving DecidableEq, Repr

namespace Response

/-- The status says that the request succeeded. -/
def isSuccess (r : Response) : Bool :=
  200 ≤ r.status && r.status < 300

end Response

/-- How an exchange with an instance fails. -/
inductive TransportFailure where
  /-- The answer did not arrive in time. -/
  | timeout
  /-- No connection was made. -/
  | connect
  /-- Anything else. -/
  | other
deriving DecidableEq, Repr

namespace TransportFailure

/-- The name of the failure. -/
def name : TransportFailure → String
  | timeout => "Timeout"
  | connect => "Connect"
  | other => "Other"

end TransportFailure

/-- A failed exchange with its cause in words. -/
structure TransportError where
  kind : TransportFailure
  message : String
deriving DecidableEq, Repr

namespace TransportError

/-- The exchange took longer than `limit`. -/
def timeout (limit : Duration) : TransportError :=
  ⟨.timeout, "no response within " ++ toString limit.millis ++ "ms"⟩

/-- The kind and the cause. -/
def text (e : TransportError) : String :=
  e.kind.name ++ " error: " ++ e.message

end TransportError

/-- What an instance does with a request: how long it takes, and what comes of it. -/
structure Reply where
  latency : Duration := .zero
  outcome : Except TransportFailure Response := .ok { status := 200 }

/-- The instances behind the gateway, as the function from requests to what comes of them. What comes
of a request whose body is cut short is up to them as well: an instance may answer before the flaw
shows, and the exchange fails or times out where it does not. -/
abbrev Backend := Outbound → Reply

end Tollgate
