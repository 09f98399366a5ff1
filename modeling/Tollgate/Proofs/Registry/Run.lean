import Mathlib.Data.List.Induction
import Tollgate.Proofs.Registry.Catalogue

/-!
# Runs of a registry

A registry lives through selections, successes, failures and probe cycles of its services, in any
order and at any times. Each of them concerns the endpoint of the service it names and no other
(`Registry.find?_perform`), so what a run does to one service is a fold over the operations that
name it.

`Registry.entries` is the record of a run: every operation with the registry that it met. What is
said about an operation in the middle of a run is said about a place in that record, and a place in
the record is a place in the operations (`Registry.exists_of_entries_eq`).
-/

namespace Tollgate

/-- What is asked of a registry, or reported to it. -/
inductive Operation where
  /-- An instance is selected at `now`. -/
  | select (service : String) (now : Timestamp)
  /-- A call succeeded after `elapsed`. -/
  | success (service : String) (elapsed : Duration)
  /-- A call failed at `now`. -/
  | failure (service : String) (now : Timestamp)
  /-- A probe cycle that ended at `now` found this many instances healthy. -/
  | probes (service : String) (healthy : Nat) (latency : Option Duration) (now : Timestamp)
deriving DecidableEq, Repr

namespace Operation

/-- The service that is named. -/
def service : Operation → String
  | select service _ => service
  | success service _ => service
  | failure service _ => service
  | probes service _ _ _ => service

end Operation

namespace Endpoint

/-- What an operation on a service makes of its endpoint. -/
def perform (policy : BreakerPolicy) (e : Endpoint) : Operation → Endpoint
  | .select _ now => if (e.available now).1 then (e.available now).2.rotate else (e.available now).2
  | .success _ elapsed => e.recordSuccess elapsed
  | .failure _ now => (e.recordFailure now policy.failureThreshold policy.openFor).2
  | .probes _ healthy latency now =>
    (e.applyProbeCycle healthy latency now policy.failureThreshold policy.openFor).2

/-- What the failure did that an operation on a service records, if it records one. -/
def outcome? (policy : BreakerPolicy) (e : Endpoint) : Operation → Option FailureOutcome
  | .failure _ now => some (e.recordFailure now policy.failureThreshold policy.openFor).1
  | .probes _ healthy latency now =>
    (e.applyProbeCycle healthy latency now policy.failureThreshold policy.openFor).1
  | _ => none

/-- **Asking for the availability** changes nothing but the breaker. -/
theorem snd_available (e : Endpoint) (now : Timestamp) :
    (e.available now).2 = { e with breaker := (e.breaker.tryPass now).2 } := by
  rw [available]
  rcases hopen : e.breaker.openUntil with _ | deadline
  · simp [Breaker.isOpen, Breaker.tryPass, hopen]
  · simp [Breaker.isOpen, hopen]

/-- **A selection touches nothing but the cursor and the breaker.** -/
theorem exists_perform_select (policy : BreakerPolicy) (e : Endpoint) (service : String)
    (now : Timestamp) :
    ∃ cursor, ∃ h : cursor < e.instances.length, e.perform policy (.select service now)
      = { e with cursor, cursor_lt := h, breaker := (e.breaker.tryPass now).2 } := by
  rw [perform, snd_available]
  split
  · exact ⟨(e.cursor + 1) % e.instances.length,
      Nat.mod_lt _ (Nat.zero_lt_of_lt e.cursor_lt), rfl⟩
  · exact ⟨e.cursor, e.cursor_lt, rfl⟩

/-- An endpoint keeps its name. -/
theorem name_perform (policy : BreakerPolicy) (e : Endpoint) (o : Operation) :
    (e.perform policy o).name = e.name := by
  cases o with
  | select service now =>
      obtain ⟨cursor, h, hselect⟩ := e.exists_perform_select policy service now
      rw [hselect]
  | success service elapsed => rfl
  | failure service now => rfl
  | probes service healthy latency now =>
      rw [perform, applyProbeCycle]
      split <;> rfl

/-- Only a probe cycle tells the status of a service. -/
theorem status_perform (policy : BreakerPolicy) (e : Endpoint) (o : Operation) :
    (e.perform policy o).status
      = match o with
        | .probes _ healthy _ _ => .ofTally healthy e.instances.length
        | .select _ _ | .success _ _ | .failure _ _ => e.status := by
  cases o with
  | select service now =>
      obtain ⟨cursor, h, hselect⟩ := e.exists_perform_select policy service now
      rw [hselect]
  | success service elapsed => rfl
  | failure service now => rfl
  | probes service healthy latency now =>
      rw [perform, applyProbeCycle]
      split <;> rfl

end Endpoint

namespace Registry

/-- What an operation makes of a registry. -/
def perform (r : Registry) : Operation → Registry
  | .select service now => (r.select service now).2
  | .success service elapsed => r.recordSuccess service elapsed
  | .failure service now => (r.recordFailure service now).2
  | .probes service healthy latency now => (r.applyProbeCycle service healthy latency now).2

/-- All operations in turn. -/
def run (r : Registry) (operations : List Operation) : Registry :=
  operations.foldl perform r

/-- An operation and the registry that it met. -/
structure Entry where
  before : Registry
  operation : Operation

namespace Entry

/-- The registry after the operation. -/
def after (x : Entry) : Registry :=
  x.before.perform x.operation

end Entry

/-- The record of a run. -/
def entries (r : Registry) : List Operation → List Entry
  | [] => []
  | o :: rest => ⟨r, o⟩ :: (r.perform o).entries rest

/-! ### One operation -/

/-- Operations on a service outside the catalogue change nothing. -/
theorem perform_of_find?_eq_none {r : Registry} {o : Operation} (h : r.find? o.service = none) :
    r.perform o = r := by
  cases o with
  | select service now =>
      rw [Operation.service] at h
      rw [perform, select, h]
  | success service elapsed =>
      rw [Operation.service] at h
      rw [perform, recordSuccess, h]
  | failure service now =>
      rw [Operation.service] at h
      rw [perform, recordFailure, h]
  | probes service healthy latency now =>
      rw [Operation.service] at h
      rw [perform, applyProbeCycle, h]

/-- **An operation on a service** replaces its endpoint and notes what the failure did, if it was
one. -/
theorem perform_of_find?_eq_some {r : Registry} {o : Operation} {e : Endpoint}
    (h : r.find? o.service = some e) :
    r.perform o
      = (r.replace (e.perform r.policy o)).noteOutcome o.service (e.outcome? r.policy o) := by
  cases o with
  | select service now =>
      rw [Operation.service] at h
      rw [perform, select, h]
      simp only [Endpoint.perform, Endpoint.outcome?, noteOutcome, reduceCtorEq, if_false]
      by_cases hfree : (e.available now).1 = true
      · simp [hfree, Endpoint.next]
      · simp [hfree]
  | success service elapsed =>
      rw [Operation.service] at h
      simp [perform, recordSuccess, h, Endpoint.perform, Endpoint.outcome?, noteOutcome]
  | failure service now =>
      rw [Operation.service] at h
      simp [perform, recordFailure, h, Endpoint.perform, Endpoint.outcome?, Operation.service]
  | probes service healthy latency now =>
      rw [Operation.service] at h
      simp [perform, applyProbeCycle, h, Endpoint.perform, Endpoint.outcome?, Operation.service]

/-- **An operation concerns one service**: the endpoint of the service it names, if there is one. -/
theorem find?_perform (r : Registry) (o : Operation) (name : String) :
    (r.perform o).find? name
      = if o.service = name then (r.find? name).map fun e => e.perform r.policy o
        else r.find? name := by
  rcases he : r.find? o.service with _ | e
  · rw [perform_of_find?_eq_none he]
    split
    · next hname => rw [← hname, he, Option.map_none]
    · rfl
  · have hnamed : (e.perform r.policy o).name = o.service :=
      (e.name_perform r.policy o).trans (name_of_find? he)
    rw [perform_of_find?_eq_some he, find?_noteOutcome, find?_replace, hnamed]
    split
    · next hname => rw [← hname, he, Option.map_some, Option.map_some]
    · rfl

/-- An operation keeps the policy. -/
@[simp] theorem policy_perform (r : Registry) (o : Operation) :
    (r.perform o).policy = r.policy := by
  rcases he : r.find? o.service with _ | e
  · rw [perform_of_find?_eq_none he]
  · rw [perform_of_find?_eq_some he, policy_noteOutcome, policy_replace]

/-! ### Whole runs -/

/-- One operation more. -/
theorem run_append_singleton (r : Registry) (operations : List Operation) (o : Operation) :
    r.run (operations ++ [o]) = (r.run operations).perform o := by
  rw [run, List.foldl_append, List.foldl_cons, List.foldl_nil, ← run]

/-- The record of one operation more. -/
theorem entries_append_singleton (r : Registry) (operations : List Operation) (o : Operation) :
    r.entries (operations ++ [o]) = r.entries operations ++ [⟨r.run operations, o⟩] := by
  induction operations generalizing r with
  | nil => rfl
  | cons first rest ih =>
      rw [List.cons_append, entries, entries, ih, List.cons_append]
      rfl

/-- A run keeps the policy. -/
theorem policy_run (r : Registry) (operations : List Operation) :
    (r.run operations).policy = r.policy := by
  induction operations using List.reverseRecOn with
  | nil => rfl
  | append_singleton rest o ih => rw [run_append_singleton, policy_perform, ih]

/-- **A part of the record is a part of the run.** -/
theorem exists_of_entries_eq_append {r : Registry} {operations : List Operation}
    {past later : List Entry} (h : r.entries operations = past ++ later) :
    ∃ done rest, operations = done ++ rest ∧ r.entries done = past ∧
      (r.run done).entries rest = later := by
  induction past generalizing r operations with
  | nil => exact ⟨[], operations, rfl, rfl, h⟩
  | cons x past ih =>
      cases operations with
      | nil => cases h
      | cons o rest =>
          rw [entries, List.cons_append, List.cons.injEq] at h
          obtain ⟨rfl, h⟩ := h
          obtain ⟨done, later, rfl, rfl, rfl⟩ := ih h
          exact ⟨o :: done, later, rfl, rfl, rfl⟩

/-- **A place in the record is a place in the run.** -/
theorem exists_of_entries_eq {r : Registry} {operations : List Operation} {past later : List Entry}
    {x : Entry} (h : r.entries operations = past ++ x :: later) :
    ∃ done rest, operations = done ++ x.operation :: rest ∧ r.entries done = past ∧
      x.before = r.run done ∧ x.after.entries rest = later := by
  obtain ⟨done, rest, rfl, hpast, hlater⟩ := exists_of_entries_eq_append h
  cases rest with
  | nil => cases hlater
  | cons o rest =>
      cases hlater
      exact ⟨done, rest, rfl, hpast, rfl, rfl⟩

/-- The last entry of a record is that of the last operation. -/
theorem exists_of_entries_eq_append_singleton {r : Registry} {operations : List Operation}
    {past : List Entry} {x : Entry} (h : r.entries operations = past ++ [x]) :
    ∃ done, operations = done ++ [x.operation] ∧ r.entries done = past ∧
      x.before = r.run done := by
  obtain ⟨done, rest, rfl, hpast, hbefore, hrest⟩ := exists_of_entries_eq h
  cases rest with
  | nil => exact ⟨done, rfl, hpast, hbefore⟩
  | cons o rest => cases hrest

end Registry

end Tollgate
