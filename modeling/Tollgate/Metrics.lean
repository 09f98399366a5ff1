import Tollgate.Number.Double

/-!
# Metrics

What the gateway measures about itself: counters, levels and distributions, each split into series
by labels. The measurements are kept as the log of what was recorded, oldest first; totals, last
values and samples are views of that log.
-/

namespace Tollgate

/-- One labelled series. -/
structure Series where
  name : String
  labels : List (String × String)
deriving DecidableEq, Repr

namespace Series

/-- The labels in ascending order of their names. -/
def sortedLabels (s : Series) : List (String × String) :=
  s.labels.mergeSort fun a b => a.1 ≤ b.1

/-- The name and the sorted labels, such as `requests{method=GET,status=200}`. -/
def text (s : Series) : String :=
  s.name ++ "\x7b" ++ ",".intercalate (s.sortedLabels.map fun l => l.1 ++ "=" ++ l.2) ++ "\x7d"

end Series

/-- One recorded measurement. -/
inductive Measurement where
  | increment (series : Series)
  | level (series : Series) (value : Magnitude)
  | sample (series : Series) (value : Magnitude)
deriving DecidableEq, Repr

namespace Measurement

/-- The series the measurement belongs to. -/
def series : Measurement → Series
  | increment s => s
  | level s _ => s
  | sample s _ => s

end Measurement

/-- The log of measurements, oldest first. -/
abbrev Metrics := List Measurement

namespace Metrics

/-- How often the counter was incremented. -/
def total (m : Metrics) (s : Series) : Nat :=
  m.count (.increment s)

/-- The last value of the level. -/
def level? (m : Metrics) (s : Series) : Option Magnitude :=
  m.foldl (fun last x => match x with
    | .level t v => if t = s then some v else last
    | _ => last) none

/-- The samples of the distribution, in the order they were taken. -/
def samples (m : Metrics) (s : Series) : List Magnitude :=
  m.filterMap fun x => match x with
    | .sample t v => if t = s then some v else none
    | _ => none

/-- The series that were recorded at least once, in the order of their first measurement. -/
def recorded (m : Metrics) : List Series :=
  (m.map Measurement.series).eraseDups

/-- Circuits opened, by service. -/
def circuitOpened (service : String) : Series :=
  ⟨"gateway_circuit_opened_total", [("service", service)]⟩

/-- Probe status by service: one when healthy, a half when degraded, nothing otherwise. -/
def serviceHealth (service : String) : Series :=
  ⟨"gateway_service_health", [("service", service)]⟩

/-- Requests rejected by the rate limiter, by scope. -/
def rateLimited (scope : String) : Series :=
  ⟨"gateway_rate_limited_total", [("scope", scope)]⟩

/-- Checks that failed open. -/
def limiterErrors : Series :=
  ⟨"gateway_rate_limiter_errors_total", []⟩

/-- Requests handled by the proxy. -/
def requests (method : String) (status : Nat) (service : String) : Series :=
  ⟨"gateway_requests_total",
    [("method", method), ("status", toString status), ("service", service)]⟩

/-- Seconds a request took, by service. -/
def requestSeconds (service : String) : Series :=
  ⟨"gateway_request_duration_seconds", [("service", service)]⟩

end Metrics

end Tollgate
