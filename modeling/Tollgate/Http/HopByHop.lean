import Tollgate.Http.Header

/-!
# Hop-by-hop fields

Fields that are meaningful for one leg of a connection only, and are sent on in neither direction.
Requests are copied without them, responses have them removed in place; both leave the same fields.
-/

namespace Tollgate

/-- The names of hop-by-hop fields. -/
def hopByHopNames : List HeaderName :=
  ["connection", "keep-alive", "proxy-authenticate", "proxy-authorization", "te", "trailers",
    "transfer-encoding", "upgrade"].map HeaderName.mk

/-- The field is meaningful for one leg only. -/
def isHopByHop (name : HeaderName) : Bool :=
  hopByHopNames.contains name

namespace Headers

/-- A copy of the fields without the hop-by-hop ones. -/
def withoutHopByHop (h : Headers) : Headers :=
  h.filter fun f => !isHopByHop f.1

/-- The fields after removing every hop-by-hop name from them. -/
def stripHopByHop (h : Headers) : Headers :=
  hopByHopNames.foldl remove h

end Headers

end Tollgate
