import Tollgate.Config
import Tollgate.Route.PathPrefix

/-!
# Route table

The compiled routes, the most specific prefix first and routes of equally long prefixes in
configured order. A lookup takes the first route that matches.
-/

namespace Tollgate

/-- A compiled route. -/
structure Route where
  name : String
  service : String
  pathPrefix : PathPrefix
  replacement : Option String
deriving DecidableEq, Repr

/-- The outcome of a lookup: which route matched, and the path to request from its service. -/
structure RouteMatch where
  route : String
  service : String
  targetPath : String
deriving DecidableEq, Repr

namespace Route

/-- The route of a configuration entry. -/
def ofConfig (r : RouteConfig) : Route :=
  ⟨r.name, r.service, .ofText r.pathPrefix, r.replacement⟩

/-- The path to request, if the route matches. -/
def target? (r : Route) (path : String) : Option String :=
  match r.replacement with
  | some replacement => r.pathPrefix.replace? path replacement
  | none => if r.pathPrefix.isMatch path then some path else none

/-- The match of a path, if there is one. -/
def match? (r : Route) (path : String) : Option RouteMatch :=
  (r.target? path).map fun target => ⟨r.name, r.service, target⟩

end Route

/-- Routes in the order they are tried. -/
structure RouteTable where
  routes : List Route
deriving DecidableEq, Repr

namespace RouteTable

/-- Insert a route behind every route that is at least as specific. -/
def insert (r : Route) : List Route → List Route
  | [] => [r]
  | s :: rest =>
    if r.pathPrefix.specificity ≤ s.pathPrefix.specificity then s :: insert r rest
    else r :: s :: rest

/-- The table of the configured routes. -/
def ofConfig (routes : List RouteConfig) : RouteTable :=
  ⟨(routes.map Route.ofConfig).foldl (fun table r => insert r table) []⟩

/-- The first route that matches. -/
def lookup (t : RouteTable) (path : String) : Option RouteMatch :=
  t.routes.findSome? fun r => r.match? path

end RouteTable

end Tollgate
