import Tollgate.Http.Header
import Tollgate.Net.Address
import Tollgate.Text.Blank

/-!
# Callers

Who made a request: the address, taken from the forwarding fields the edge sets and else from the
connection, and the authenticated user, if there is one.
-/

namespace Tollgate

/-- The caller of a request. -/
structure Caller where
  address : String
  user : Option String
deriving DecidableEq, Repr

/-- The part of a text before the first comma. -/
def beforeComma (s : String) : String :=
  String.ofList (s.toList.takeWhile (· != ','))

namespace Headers

/-- The first forwarding address, then the real one, then the peer's, then `unknown`. Only the first
field of a name is looked at, and one that is unreadable or blank counts as absent. -/
def callerAddress (h : Headers) (peer : Option IpAddress) : String :=
  match h.text? .forwardedFor fun s => trimBlank (beforeComma s) with
  | some address => address
  | none =>
    match h.text? .realIp trimBlank with
    | some address => address
    | none => (peer.map IpAddress.text).getD "unknown"

end Headers

end Tollgate
