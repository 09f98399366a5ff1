import Tollgate.Breaker
import Tollgate.Text.Blank

/-!
# Configuration

The settings of a gateway. Every section has defaults, which stand for whatever a configuration
leaves out; services, instances and routes have no defaults for what names or locates them.
-/

namespace Tollgate

/-- Where the gateway listens. -/
structure ListenerConfig where
  bindAddress : String := "0.0.0.0:8080"
deriving DecidableEq, Repr

/-- One instance of a configured service. -/
structure InstanceConfig where
  url : String
  healthUrl : Option String := none
deriving DecidableEq, Repr

namespace InstanceConfig

/-- The probed URL: the configured one, or `/health` below the instance. -/
def resolvedHealthUrl (i : InstanceConfig) : String :=
  match i.healthUrl with
  | some url => url
  | none => trimSlashes i.url ++ "/health"

end InstanceConfig

/-- A configured service; its instances are used in this order. -/
structure ServiceConfig where
  name : String
  instances : List InstanceConfig
deriving DecidableEq, Repr

/-- A configured route from a path prefix to a service. -/
structure RouteConfig where
  name : String
  pathPrefix : String
  service : String
  /-- What the matched prefix is replaced by; nothing keeps the path as it came. -/
  replacement : Option String := none
deriving DecidableEq, Repr

/-- Active probing of instances. -/
structure HealthCheckConfig where
  enabled : Bool := true
  intervalSeconds : Nat := 30
  timeoutSeconds : Nat := 5
  criticalServices : List String := []
deriving DecidableEq, Repr

/-- Limits on calls to services. -/
structure TimeoutConfig where
  requestSeconds : Nat := 30
deriving DecidableEq, Repr

/-- What keeps the sliding windows. -/
inductive StoreKind where
  | redis
  | memory
deriving DecidableEq, Repr

/-- Requests allowed in a window. -/
structure Quota where
  requests : Nat := 100
  windowSeconds : Nat := 60
deriving DecidableEq, Repr

/-- Rate limiting. -/
structure RateLimitConfig where
  enabled : Bool := true
  store : StoreKind := .redis
  redisUrl : String := "redis://127.0.0.1:6379"
  storeTimeoutMillis : Nat := 500
  global : Quota := {}
  perUser : Quota := { requests := 1000, windowSeconds := 3600 }
  userIdHeader : String := "x-user-id"
  exemptPaths : List String := ["/health", "/health/detailed", "/health/ready", "/health/live"]
deriving DecidableEq, Repr

/-- Limits on request sizes. -/
structure SecurityConfig where
  maxBodySize : Nat := 10485760
deriving DecidableEq, Repr

/-- How log lines look. -/
inductive LogFormat where
  | pretty
  | json
deriving DecidableEq, Repr

/-- Logs and metrics. -/
structure ObservabilityConfig where
  logLevel : String := "info"
  logFormat : LogFormat := .pretty
  metricsEnabled : Bool := true
  metricsAddress : String := "0.0.0.0:9090"
deriving DecidableEq, Repr

/-- All settings of a gateway. -/
structure Config where
  listener : ListenerConfig := {}
  services : List ServiceConfig := []
  routes : List RouteConfig := []
  healthCheck : HealthCheckConfig := {}
  breaker : BreakerPolicy := {}
  timeouts : TimeoutConfig := {}
  rateLimit : RateLimitConfig := {}
  security : SecurityConfig := {}
  observability : ObservabilityConfig := {}
deriving DecidableEq, Repr

end Tollgate
