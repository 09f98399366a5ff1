import Tollgate.Monitor
import Tollgate.Proofs.Registry.Forwarding

/-!
# The life of a registry

Requests are forwarded through a registry, the monitor reports to it, and it is asked and told
single things, in any order and at any times. Every such event stands for some operations in turn
(`Registry.operationsOf`): an errand for its selection and its outcome, a cycle of the monitor for
one tally of each service. The event does to the services what its operations do
(`Registry.services_meet`); a cycle only measures something besides.

Since an operation concerns the service it names and no other, what a whole life makes of one
service is a fold over the operations that name it (`Registry.find?_meetAll`). What is said about a
service in every reachable registry is so said about what one operation makes of one endpoint.

## Main results

* `Registry.find?_run`: what a run makes of one service.
* `Registry.services_meet`: an event does to the services what its operations do.
* `Registry.find?_meetAll`: what a life makes of one service.
* `Registry.DistinctNames.meetAll`: the services and their instances stay.

## Conventions

* An errand is selection, exchange and outcome without anything in between, and a cycle reports its
  tallies one after the other. Where other things happen meanwhile, the errand or the cycle is a list
  of single operations among those.
-/

namespace Tollgate

namespace Endpoint

/-- What some operations on a service make of its endpoint. -/
def performAll (policy : BreakerPolicy) (e : Endpoint) (operations : List Operation) :
    Endpoint :=
  operations.foldl (Endpoint.perform policy) e

/-- An operation keeps the instances. -/
theorem instances_perform (policy : BreakerPolicy) (e : Endpoint) (o : Operation) :
    (e.perform policy o).instances = e.instances := by
  cases o with
  | select service now =>
      obtain ⟨cursor, h, hselect⟩ := e.exists_perform_select policy service now
      rw [hselect]
  | success service elapsed => rfl
  | failure service now => rfl
  | probes service healthy latency now =>
      rw [perform, applyProbeCycle]
      split <;> rfl

/-- Operations keep the instances. -/
theorem instances_performAll (policy : BreakerPolicy) (e : Endpoint) (operations : List Operation) :
    (e.performAll policy operations).instances = e.instances := by
  induction operations generalizing e with
  | nil => rfl
  | cons o rest ih => rw [performAll, List.foldl_cons, ← performAll, ih, instances_perform]

end Endpoint

namespace Registry

/-! ### Runs -/

/-- **What a run makes of one service** is a fold over the operations that name it. -/
theorem find?_run (r : Registry) (operations : List Operation) (name : String) :
    (r.run operations).find? name
      = (r.find? name).map fun e =>
          e.performAll r.policy (operations.filter fun o => o.service = name) := by
  induction operations using List.reverseRecOn with
  | nil => simp [run, Endpoint.performAll]
  | append_singleton rest o ih =>
      rw [run_append_singleton, find?_perform, ih, policy_run, List.filter_append]
      by_cases hname : o.service = name
      · simp [hname, Endpoint.performAll, Function.comp_def]
      · simp [hname]

/-- A run keeps the names of the services. -/
theorem map_name_run (r : Registry) (operations : List Operation) :
    (r.run operations).services.map Endpoint.name = r.services.map Endpoint.name := by
  induction operations using List.reverseRecOn with
  | nil => rfl
  | append_singleton rest o ih => rw [run_append_singleton, map_name_perform, ih]

/-- Where names are distinct, an operation keeps the catalogue. -/
theorem DistinctNames.catalogue_perform {r : Registry} (h : r.DistinctNames) (o : Operation) :
    (r.perform o).catalogue = r.catalogue := by
  rcases he : r.find? o.service with _ | e
  · rw [perform_of_find?_eq_none he]
  · rw [perform_of_find?_eq_some he, catalogue, services_noteOutcome, replace, List.map_map]
    refine List.map_congr_left fun f hf => ?_
    rw [Function.comp_apply]
    split
    · next hname =>
        rw [Endpoint.name_perform] at hname
        rw [Endpoint.name_perform, Endpoint.instances_perform, h.eq_of_mem he hf hname]
    · rfl

/-- Where names are distinct, a run keeps the catalogue. -/
theorem DistinctNames.catalogue_run {r : Registry} (h : r.DistinctNames)
    (operations : List Operation) : (r.run operations).catalogue = r.catalogue := by
  induction operations using List.reverseRecOn with
  | nil => rfl
  | append_singleton rest o ih => rw [run_append_singleton, (h.run rest).catalogue_perform, ih]

/-- What an operation makes of the services is a matter of the services and of the policy, and not
of what was measured. -/
theorem services_perform_congr {r r' : Registry} (hservices : r.services = r'.services)
    (hpolicy : r.policy = r'.policy) (o : Operation) :
    (r.perform o).services = (r'.perform o).services := by
  have hsame : r.find? o.service = r'.find? o.service := by rw [find?, find?, hservices]
  rcases he : r.find? o.service with _ | e
  · rw [perform_of_find?_eq_none he, perform_of_find?_eq_none (hsame ▸ he), hservices]
  · rw [perform_of_find?_eq_some he, perform_of_find?_eq_some (hsame ▸ he), services_noteOutcome,
      services_noteOutcome, replace, replace, hservices, hpolicy]

/-- What a run makes of the services is a matter of the services and of the policy. -/
theorem services_run_congr {r r' : Registry} (hservices : r.services = r'.services)
    (hpolicy : r.policy = r'.policy) (operations : List Operation) :
    (r.run operations).services = (r'.run operations).services := by
  induction operations using List.reverseRecOn with
  | nil => exact hservices
  | append_singleton rest o ih =>
      rw [run_append_singleton, run_append_singleton]
      refine services_perform_congr ih ?_ o
      rw [policy_run, policy_run, hpolicy]

/-! ### Events -/

/-- What happens to a registry. -/
inductive Event where
  /-- It is asked something, or told something. -/
  | operation (o : Operation)
  /-- A request is forwarded. -/
  | errand (x : Errand)
  /-- The monitor probes every instance, and reports the tally of each service at the time that
  `doneAt` says. -/
  | cycle (doneAt : String → Timestamp) (timeout : Duration) (backend : Backend)

/-- The registry after an event. -/
def meet (r : Registry) : Event → Registry
  | .operation o => r.perform o
  | .errand x => (Delivery.result ⟨r, x⟩).registry
  | .cycle doneAt timeout backend => (Monitor.checkAll r doneAt timeout backend).2

/-- The registry after some events. -/
def meetAll (r : Registry) (events : List Event) : Registry :=
  events.foldl meet r

/-- The tally that the monitor reports of one service. -/
def tallyOf (doneAt : String → Timestamp) (p : String × List Probe) : Operation :=
  .probes p.1 (Monitor.tally p.2) (Monitor.latency? p.2) (doneAt p.1)

/-- The operations that an event stands for. -/
def operationsOf (r : Registry) : Event → List Operation
  | .operation o => [o]
  | .errand x => Delivery.operations ⟨r, x⟩
  | .cycle doneAt timeout backend => (Monitor.probes r timeout backend).map (tallyOf doneAt)

/-- The operations that some events stand for. -/
def history (r : Registry) : List Event → List Operation
  | [] => []
  | event :: rest => r.operationsOf event ++ (r.meet event).history rest

/-- Reporting the probes of a service is an operation, but for what is measured. -/
theorem services_report (doneAt : String → Timestamp) (r : Registry) (p : String × List Probe) :
    (Monitor.report doneAt r p).services = (r.perform (tallyOf doneAt p)).services ∧
      (Monitor.report doneAt r p).policy = r.policy := by
  have hpolicy := policy_perform r (tallyOf doneAt p)
  rw [tallyOf, perform] at hpolicy ⊢
  rw [Monitor.report, Monitor.apply]
  rcases hcycle : r.applyProbeCycle p.1 (Monitor.tally p.2) (Monitor.latency? p.2) (doneAt p.1) with
    ⟨_ | ⟨previous, current⟩, after⟩
  · rw [hcycle] at hpolicy
    exact ⟨rfl, hpolicy⟩
  · rw [hcycle] at hpolicy
    exact ⟨rfl, hpolicy⟩

/-- Reporting the probes of some services is a run, but for what is measured. -/
theorem services_foldl_report (doneAt : String → Timestamp) (r : Registry)
    (all : List (String × List Probe)) :
    (all.foldl (Monitor.report doneAt) r).services
        = (r.run (all.map (tallyOf doneAt))).services ∧
      (all.foldl (Monitor.report doneAt) r).policy = r.policy := by
  induction all generalizing r with
  | nil => exact ⟨rfl, rfl⟩
  | cons p rest ih =>
      obtain ⟨hservices, hpolicy⟩ := services_report doneAt r p
      obtain ⟨ihservices, ihpolicy⟩ := ih (Monitor.report doneAt r p)
      refine ⟨?_, ihpolicy.trans hpolicy⟩
      rw [List.foldl_cons, ihservices]
      exact services_run_congr hservices (hpolicy.trans (policy_perform r _).symm) _

/-- **An event does to the services what its operations do.** -/
theorem services_meet (r : Registry) (event : Event) :
    (r.meet event).services = (r.run (r.operationsOf event)).services := by
  cases event with
  | operation o => rfl
  | errand x => rw [meet, Delivery.registry_result]; rfl
  | cycle doneAt timeout backend => exact (services_foldl_report doneAt r _).1

/-- An event keeps the policy. -/
theorem policy_meet (r : Registry) (event : Event) : (r.meet event).policy = r.policy := by
  cases event with
  | operation o => exact policy_perform r o
  | errand x => rw [meet, Delivery.registry_result, policy_run]
  | cycle doneAt timeout backend => exact (services_foldl_report doneAt r _).2

/-- What an event makes of one service. -/
theorem find?_meet (r : Registry) (event : Event) (name : String) :
    (r.meet event).find? name
      = (r.find? name).map fun e =>
          e.performAll r.policy ((r.operationsOf event).filter fun o => o.service = name) := by
  rw [← find?_run, find?, services_meet, ← find?]

/-- An event keeps the names of the services. -/
theorem map_name_meet (r : Registry) (event : Event) :
    (r.meet event).services.map Endpoint.name = r.services.map Endpoint.name := by
  rw [services_meet, map_name_run]

/-! ### Whole lives -/

/-- **The names of the services stay** as long as a registry lives. -/
theorem map_name_meetAll (r : Registry) (events : List Event) :
    (r.meetAll events).services.map Endpoint.name = r.services.map Endpoint.name := by
  induction events generalizing r with
  | nil => rfl
  | cons event rest ih => rw [meetAll, List.foldl_cons, ← meetAll, ih, map_name_meet]

/-- **Nothing is lost and nothing is added** as long as a registry lives: where names are distinct,
they stay so, and the catalogue stays. -/
theorem DistinctNames.meetAll {r : Registry} (h : r.DistinctNames) (events : List Event) :
    (r.meetAll events).DistinctNames ∧ (r.meetAll events).catalogue = r.catalogue := by
  induction events generalizing r with
  | nil => exact ⟨h, rfl⟩
  | cons event rest ih =>
      have hnext : (r.meet event).DistinctNames := by
        rw [DistinctNames, map_name_meet]
        exact h
      have hsame : (r.meet event).catalogue = r.catalogue := by
        rw [catalogue, services_meet, ← catalogue, h.catalogue_run]
      obtain ⟨hdistinct, hcatalogue⟩ := ih hnext
      exact ⟨hdistinct, hcatalogue.trans hsame⟩

/-- **What a life makes of one service** is a fold over the operations that name it. -/
theorem find?_meetAll (r : Registry) (events : List Event) (name : String) :
    (r.meetAll events).find? name
      = (r.find? name).map fun e =>
          e.performAll r.policy ((r.history events).filter fun o => o.service = name) := by
  induction events generalizing r with
  | nil => simp [meetAll, history, Endpoint.performAll]
  | cons event rest ih =>
      rw [meetAll, List.foldl_cons, ← meetAll, ih, find?_meet, policy_meet, Option.map_map, history,
        List.filter_append]
      simp only [Endpoint.performAll, Function.comp_def, List.foldl_append]

end Registry

end Tollgate
