import Tollgate.Config
import Tollgate.Number.Shortest
import Tollgate.Number.Width
import Tollgate.Text.Quoted
import Tollgate.Toml.Value

/-!
# Configurations from values

The shape of a configuration: which settings there are, by which names, and of which type. A section
may also be given as the list of its settings in their order. Settings are read in the order of the
text and the first fault is the one reported; a setting that is missing where there is no default is
a fault of the end of its section. Settings nobody knows are passed over.
-/

namespace Tollgate

open Toml (Value)

/-- Why a value has not the shape of a configuration. -/
inductive ShapeError where
  | wrongType (found : Value) (expected : String)
  | outOfRange (n : Int) (expected : String)
  | missingField (name : String)
  | unknownVariant (name : String) (known : List String)
  /-- A choice is neither a text nor a table with one empty entry. -/
  | noVariant
  /-- A section given as a list ends before its last setting that has no default. -/
  | tooShort (expected : String)

namespace Toml.Value

/-- What a message calls a value. -/
def described : Value → String
  | string s => "string " ++ Quoted.encode s
  | integer n => "integer \x60" ++ toString n ++ "\x60"
  | float x => "floating point \x60" ++ x.positionalText ++ "\x60"
  | boolean b => "boolean \x60" ++ (if b then "true" else "false") ++ "\x60"
  | moment => "map"
  | list _ => "sequence"
  | table _ => "map"

end Toml.Value

namespace ShapeError

/-- The fault as a text. -/
def message : ShapeError → String
  | wrongType found expected =>
    "invalid type: " ++ found.described ++ ", expected " ++ expected
  | outOfRange n expected =>
    "invalid value: integer \x60" ++ toString n ++ "\x60, expected " ++ expected
  | missingField name => "missing field \x60" ++ name ++ "\x60"
  | unknownVariant name known =>
    "unknown variant \x60" ++ name ++ "\x60, expected "
      ++ " or ".intercalate (known.map fun k => "\x60" ++ k ++ "\x60")
  | noVariant => "wanted a string or a table with one element"
  | tooShort expected => "invalid length, expected " ++ expected

end ShapeError

/-- Reads a value as what it stands for. -/
abbrev Decoder (α : Type) := Value → Except ShapeError α

namespace Decoder

/-- A text. -/
def text : Decoder String
  | .string s => .ok s
  | v => .error (.wrongType v "a string")

/-- Yes or no. -/
def truth : Decoder Bool
  | .boolean b => .ok b
  | v => .error (.wrongType v "a boolean")

/-- A number from zero to a bound. -/
def number (expected : String) (bound : Nat) : Decoder Nat
  | .integer n =>
    if 0 ≤ n ∧ n ≤ bound then .ok n.toNat else .error (.outOfRange n expected)
  | v => .error (.wrongType v expected)

/-- A number of 64 bits. -/
def word : Decoder Nat := number "u64" maxUnsigned64

/-- A list of things of one kind. -/
def many {α : Type} (item : Decoder α) : Decoder (List α)
  | .list items => items.mapM item
  | v => .error (.wrongType v "a sequence")

/-- A value that chooses nothing more than its name does. -/
def isEmpty : Value → Bool
  | .list [] => true
  | .table [] => true
  | _ => false

/-- One of several named things, given by its name or by a table whose only entry has that name. -/
def variant {α : Type} (known : List (String × α)) : Decoder α
  | .string s => named s
  | .table [(s, v)] => do
    let a ← named s
    if isEmpty v then .ok a else .error .noVariant
  | _ => .error .noVariant
where
  /-- The thing of a name. -/
  named (s : String) : Except ShapeError α :=
    match Keyed.get? s known with
    | some a => .ok a
    | none => .error (.unknownVariant s (known.map Prod.fst))

/-- The settings of a section by their names, and whether they were given as a list. A moment is a
table in which there is no setting. -/
def settings (expected : String) (names : List String) :
    Value → Except ShapeError (List (String × Value) × Bool)
  | .table entries => .ok (entries, false)
  | .moment => .ok ([], false)
  | .list items => .ok (names.zip items, true)
  | v => .error (.wrongType v ("struct " ++ expected))

/-- A section whose settings all have defaults: each of those that are given replaces its own. -/
def section_ {α : Type} (expected : String) (names : List String) (start : α)
    (set : α → String → Value → Except ShapeError α) : Decoder α := fun v => do
  let (entries, _) ← settings expected names v
  entries.foldlM (fun a entry => set a entry.1 entry.2) start

/-- A setting that has to be given. -/
def required {α : Type} (expected : String) (asList : Bool) (name : String) :
    Option α → Except ShapeError α
  | some a => .ok a
  | none => .error (if asList then .tooShort expected else .missingField name)

/-! ### Sections -/

/-- Where the gateway listens. -/
def listener : Decoder ListenerConfig :=
  section_ "ListenerConfig" ["bind_address"] {} fun c name v =>
    match name with
    | "bind_address" => return { c with bindAddress := ← text v }
    | _ => .ok c

/-- One instance of a service. -/
def instance_ : Decoder InstanceConfig := fun v => do
  let (entries, asList) ← settings "InstanceConfig" ["url", "health_url"] v
  let (url, healthUrl) ← entries.foldlM
    (fun (draft : Option String × Option String) entry =>
      match entry.1 with
      | "url" => return (some (← text entry.2), draft.2)
      | "health_url" => return (draft.1, some (← text entry.2))
      | _ => .ok draft)
    (none, none)
  let url ← required "struct InstanceConfig with 2 elements" asList "url" url
  .ok { url, healthUrl }

/-- A service. -/
def service : Decoder ServiceConfig := fun v => do
  let (entries, asList) ← settings "ServiceConfig" ["name", "instances"] v
  let (name, instances) ← entries.foldlM
    (fun (draft : Option String × Option (List InstanceConfig)) entry =>
      match entry.1 with
      | "name" => return (some (← text entry.2), draft.2)
      | "instances" => return (draft.1, some (← many instance_ entry.2))
      | _ => .ok draft)
    (none, none)
  let expected := "struct ServiceConfig with 2 elements"
  let name ← required expected asList "name" name
  let instances ← required expected asList "instances" instances
  .ok { name, instances }

/-- A route whose settings are being read. -/
structure RouteDraft where
  name : Option String := none
  pathPrefix : Option String := none
  service : Option String := none
  replacement : Option String := none

/-- A route. -/
def route : Decoder RouteConfig := fun v => do
  let (entries, asList) ←
    settings "RouteConfig" ["name", "path_prefix", "service", "upstream_prefix"] v
  let draft ← entries.foldlM
    (fun (draft : RouteDraft) entry =>
      match entry.1 with
      | "name" => return { draft with name := some (← text entry.2) }
      | "path_prefix" => return { draft with pathPrefix := some (← text entry.2) }
      | "service" => return { draft with service := some (← text entry.2) }
      | "upstream_prefix" => return { draft with replacement := some (← text entry.2) }
      | _ => .ok draft)
    {}
  let expected := "struct RouteConfig with 4 elements"
  let name ← required expected asList "name" draft.name
  let pathPrefix ← required expected asList "path_prefix" draft.pathPrefix
  let service ← required expected asList "service" draft.service
  .ok { name, pathPrefix, service, replacement := draft.replacement }

/-- Active probing. -/
def healthCheck : Decoder HealthCheckConfig :=
  section_ "HealthCheckConfig" ["enabled", "interval_secs", "timeout_secs", "critical_services"] {}
    fun c name v =>
      match name with
      | "enabled" => return { c with enabled := ← truth v }
      | "interval_secs" => return { c with intervalSeconds := ← word v }
      | "timeout_secs" => return { c with timeoutSeconds := ← word v }
      | "critical_services" => return { c with criticalServices := ← many text v }
      | _ => .ok c

/-- When breakers open, and for how long. -/
def breaker : Decoder BreakerPolicy :=
  section_ "CircuitBreakerConfig" ["failure_threshold", "open_duration_secs"] {} fun c name v =>
    match name with
    | "failure_threshold" => return { c with failureThreshold := ← number "u32" maxUnsigned32 v }
    | "open_duration_secs" => return { c with openSeconds := ← word v }
    | _ => .ok c

/-- Limits on calls. -/
def timeouts : Decoder TimeoutConfig :=
  section_ "TimeoutConfig" ["request_secs"] {} fun c name v =>
    match name with
    | "request_secs" => return { c with requestSeconds := ← word v }
    | _ => .ok c

/-- Requests allowed in a window. -/
def quota : Decoder Quota :=
  section_ "QuotaConfig" ["requests", "window_secs"] {} fun c name v =>
    match name with
    | "requests" => return { c with requests := ← word v }
    | "window_secs" => return { c with windowSeconds := ← word v }
    | _ => .ok c

/-- Rate limiting. -/
def rateLimit : Decoder RateLimitConfig :=
  section_ "RateLimitConfig"
    ["enabled", "backend", "redis_url", "store_timeout_ms", "global", "per_user", "user_id_header",
      "exempt_paths"] {} fun c name v =>
    match name with
    | "enabled" => return { c with enabled := ← truth v }
    | "backend" => return { c with store := ← variant [("redis", .redis), ("memory", .memory)] v }
    | "redis_url" => return { c with redisUrl := ← text v }
    | "store_timeout_ms" => return { c with storeTimeoutMillis := ← word v }
    | "global" => return { c with global := ← quota v }
    | "per_user" => return { c with perUser := ← quota v }
    | "user_id_header" => return { c with userIdHeader := ← text v }
    | "exempt_paths" => return { c with exemptPaths := ← many text v }
    | _ => .ok c

/-- Limits on request sizes. -/
def security : Decoder SecurityConfig :=
  section_ "SecurityConfig" ["max_body_size"] {} fun c name v =>
    match name with
    | "max_body_size" => return { c with maxBodySize := ← number "usize" maxUnsigned64 v }
    | _ => .ok c

/-- Logs and metrics. -/
def observability : Decoder ObservabilityConfig :=
  section_ "ObservabilityConfig" ["log_level", "log_format", "metrics_enabled", "metrics_address"] {}
    fun c name v =>
      match name with
      | "log_level" => return { c with logLevel := ← text v }
      | "log_format" =>
        return { c with logFormat := ← variant [("pretty", .pretty), ("json", .json)] v }
      | "metrics_enabled" => return { c with metricsEnabled := ← truth v }
      | "metrics_address" => return { c with metricsAddress := ← text v }
      | _ => .ok c

/-- All settings. -/
def config : Decoder Config :=
  section_ "GatewayConfig"
    ["listener", "services", "routes", "health_check", "circuit_breaker", "timeouts", "rate_limit",
      "security", "observability"] {} fun c name v =>
    match name with
    | "listener" => return { c with listener := ← listener v }
    | "services" => return { c with services := ← many service v }
    | "routes" => return { c with routes := ← many route v }
    | "health_check" => return { c with healthCheck := ← healthCheck v }
    | "circuit_breaker" => return { c with breaker := ← breaker v }
    | "timeouts" => return { c with timeouts := ← timeouts v }
    | "rate_limit" => return { c with rateLimit := ← rateLimit v }
    | "security" => return { c with security := ← security v }
    | "observability" => return { c with observability := ← observability v }
    | _ => .ok c

end Decoder

end Tollgate
