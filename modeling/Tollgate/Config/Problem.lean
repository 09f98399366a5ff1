import Tollgate.Config
import Tollgate.Url

/-!
# Problems of a configuration

What can be wrong with a configuration whose shape is right. Every problem is reported, in the order
of the sections: services, routes, critical services, numbers.
-/

namespace Tollgate

/-- Why a text does not locate an instance. -/
inductive UrlProblem where
  | malformed (reason : UrlError)
  | unsupportedScheme (scheme : String)
  | missingHost
deriving DecidableEq, Repr

namespace UrlProblem

/-- The reason as a text. -/
def message : UrlProblem → String
  | malformed reason => reason.message
  | unsupportedScheme scheme => "unsupported scheme \x60" ++ scheme ++ "\x60"
  | missingHost => "missing host"

/-- What keeps a text from locating an instance; nothing where it is an `http` URL with a host. -/
def ofText? (url : String) : Option UrlProblem :=
  match Url.parse? url with
  | .error reason => some (malformed reason)
  | .ok u =>
    if u.scheme ≠ "http" then some (unsupportedScheme u.scheme)
    else if u.host = none then some missingHost
    else none

end UrlProblem

/-- A problem of a configuration. -/
inductive Problem where
  | emptyServiceName
  | duplicateService (name : String)
  | noInstances (service : String)
  | invalidUrl (service url : String) (reason : UrlProblem)
  | unknownRouteService (route service : String)
  | invalidPathPrefix (route : String)
  | unknownCriticalService (name : String)
  | zero (field : String)
deriving DecidableEq, Repr

namespace Problem

/-- The problem as a text. -/
def message : Problem → String
  | emptyServiceName => "service name must not be empty"
  | duplicateService name => "service \x60" ++ name ++ "\x60 is defined more than once"
  | noInstances service => "service \x60" ++ service ++ "\x60 has no instances"
  | invalidUrl service url reason =>
    "service \x60" ++ service ++ "\x60 has invalid url \x60" ++ url ++ "\x60: " ++ reason.message
  | unknownRouteService route service =>
    "route \x60" ++ route ++ "\x60 references unknown service \x60" ++ service ++ "\x60"
  | invalidPathPrefix route => "route \x60" ++ route ++ "\x60 path_prefix must start with '/'"
  | unknownCriticalService name => "critical service \x60" ++ name ++ "\x60 is not registered"
  | zero field => "\x60" ++ field ++ "\x60 must be greater than zero"

end Problem

/-- A name of blank characters only names nothing. -/
def isBlankName (name : String) : Bool :=
  name.toList.all isBlank

namespace InstanceConfig

/-- The problems of the URLs of an instance: the one requests go to, then the one that is probed. -/
def problems (service : String) (i : InstanceConfig) : List Problem :=
  [i.url, i.resolvedHealthUrl].filterMap fun url =>
    (UrlProblem.ofText? url).map (.invalidUrl service url)

end InstanceConfig

namespace ServiceConfig

/-- The problem of a service's name, given the names before it. -/
def nameProblems (earlier : List String) (s : ServiceConfig) : List Problem :=
  if isBlankName s.name then [.emptyServiceName]
  else if earlier.contains s.name then [.duplicateService s.name]
  else []

/-- The problems of a service, given the names before it. -/
def problems (earlier : List String) (s : ServiceConfig) : List Problem :=
  s.nameProblems earlier
    ++ (if s.instances = [] then [.noInstances s.name] else [])
    ++ s.instances.flatMap (·.problems s.name)

end ServiceConfig

/-- The problems of a list of services, given the names before it. -/
def serviceProblems (earlier : List String) : List ServiceConfig → List Problem
  | [] => []
  | s :: rest => s.problems earlier ++ serviceProblems (s.name :: earlier) rest

namespace RouteConfig

/-- The problems of a route, given the names it may lead to. -/
def problems (names : List String) (r : RouteConfig) : List Problem :=
  (if r.pathPrefix.toList.head? = some '/' then [] else [.invalidPathPrefix r.name])
    ++ (if names.contains r.service then [] else [.unknownRouteService r.name r.service])

end RouteConfig

namespace Config

/-- The names that routes and critical services may refer to. -/
def serviceNames (c : Config) : List String :=
  (c.services.map (·.name)).filter fun name => !isBlankName name

/-- The numbers that have to be positive, by their names in a configuration text. -/
def positiveFields (c : Config) : List (String × Nat) :=
  [("health_check.interval_secs", c.healthCheck.intervalSeconds),
    ("health_check.timeout_secs", c.healthCheck.timeoutSeconds),
    ("circuit_breaker.failure_threshold", c.breaker.failureThreshold),
    ("timeouts.request_secs", c.timeouts.requestSeconds),
    ("rate_limit.global.requests", c.rateLimit.global.requests),
    ("rate_limit.global.window_secs", c.rateLimit.global.windowSeconds),
    ("rate_limit.per_user.requests", c.rateLimit.perUser.requests),
    ("rate_limit.per_user.window_secs", c.rateLimit.perUser.windowSeconds),
    ("rate_limit.store_timeout_ms", c.rateLimit.storeTimeoutMillis)]

/-- Every problem of a configuration. -/
def problems (c : Config) : List Problem :=
  serviceProblems [] c.services
    ++ c.routes.flatMap (·.problems c.serviceNames)
    ++ (c.healthCheck.criticalServices.filter fun name => !c.serviceNames.contains name).map
      .unknownCriticalService
    ++ (c.positiveFields.filter fun field => field.2 == 0).map fun field => .zero field.1

end Config

end Tollgate
