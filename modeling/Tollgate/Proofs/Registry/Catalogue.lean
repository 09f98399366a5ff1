import Mathlib.Data.List.Nodup
import Tollgate.Registry

/-!
# The catalogue of services

Services are found by their names. Putting an endpoint in the place of one of its name is seen under
that name only (`Registry.find?_replace`), and a registry that was built from a configuration knows
under every name the endpoint of the last service configured with it (`Registry.find?_ofConfig`).

## Main results

* `Registry.find?_replace`: what is found after an endpoint was replaced.
* `Registry.find?_ofConfig`: what is found in a registry as it was configured.
* `Registry.catalogue_ofConfig`: the services of a registry whose names differ.
* `Registry.breaker_ofConfig`: all circuits are closed at first.
-/

namespace Tollgate

namespace Registry

/-! ### Replacing -/

/-- Replacing services changes neither the policy nor what was measured. -/
@[simp] theorem policy_replace (r : Registry) (e : Endpoint) : (r.replace e).policy = r.policy :=
  rfl

/-- Replacing services measures nothing. -/
@[simp] theorem metrics_replace (r : Registry) (e : Endpoint) :
    (r.replace e).metrics = r.metrics :=
  rfl

/-- A found service has the name it was looked for. -/
theorem name_of_find? {r : Registry} {name : String} {e : Endpoint}
    (h : r.find? name = some e) : e.name = name := by
  rw [find?] at h
  simpa using List.find?_some h

/-- **Replacing an endpoint** is seen under its own name, and only if there was one. -/
theorem find?_replace (r : Registry) (e : Endpoint) (name : String) :
    (r.replace e).find? name
      = if e.name = name then (r.find? name).map fun _ => e else r.find? name := by
  obtain ⟨services, policy, metrics⟩ := r
  simp only [find?, replace]
  induction services with
  | nil => simp
  | cons f rest ih =>
      rw [List.map_cons, List.find?_cons, List.find?_cons]
      by_cases hf : f.name = e.name
      · by_cases he : e.name = name
        · simp [hf, he]
        · simpa [hf, he] using ih
      · by_cases he : e.name = name
        · subst he
          simpa [hf] using ih
        · by_cases hname : f.name = name
          · have hother : ¬ name = e.name := fun h => he h.symm
            simp [he, hname, hother]
          · simpa [hf, he, hname] using ih

/-- Noting an outcome changes no service. -/
@[simp] theorem find?_noteOutcome (r : Registry) (service : String)
    (outcome : Option FailureOutcome) (name : String) :
    (r.noteOutcome service outcome).find? name = r.find? name := by
  rw [noteOutcome]
  split <;> rfl

/-- Noting an outcome keeps the policy. -/
@[simp] theorem policy_noteOutcome (r : Registry) (service : String)
    (outcome : Option FailureOutcome) : (r.noteOutcome service outcome).policy = r.policy := by
  rw [noteOutcome]
  split <;> rfl

/-! ### Building -/

/-- An inserted endpoint is found under its name. -/
theorem find?_insertEndpoint (e : Endpoint) (known : List Endpoint) (name : String) :
    (insertEndpoint e known).find? (fun f => f.name = name)
      = if e.name = name then some e else known.find? fun f => f.name = name := by
  induction known with
  | nil => by_cases he : e.name = name <;> simp [insertEndpoint, he]
  | cons f rest ih =>
      by_cases hf : f.name = e.name
      · by_cases he : e.name = name
        · simp [insertEndpoint, hf, he]
        · simp [insertEndpoint, hf, he]
      · rw [insertEndpoint, if_neg hf, List.find?_cons, List.find?_cons, ih]
        by_cases he : e.name = name
        · subst he
          simp [hf]
        · simp [he]

/-- Of many inserted endpoints the last of a name is found. -/
theorem find?_foldl_insertEndpoint (endpoints known : List Endpoint) (name : String) :
    (endpoints.foldl (fun known e => insertEndpoint e known) known).find?
        (fun f => f.name = name)
      = (endpoints.reverse.find? fun f => f.name = name).or
          (known.find? fun f => f.name = name) := by
  induction endpoints generalizing known with
  | nil => simp
  | cons e rest ih =>
      rw [List.foldl_cons, ih, find?_insertEndpoint, List.reverse_cons, List.find?_append,
        Option.or_assoc]
      by_cases he : e.name = name <;> simp [he]

/-- The endpoint of a service, if it has instances. -/
def endpoint? (s : ServiceConfig) : Option Endpoint :=
  Endpoint.ofInstances? s.name (instancesOf s)

/-- A service has an endpoint if it has instances. -/
theorem endpoint?_eq_some {s : ServiceConfig} {e : Endpoint} (h : endpointOf s = .ok e) :
    endpoint? s = some e := by
  rw [endpointOf, ← endpoint?] at h
  rcases hs : endpoint? s with _ | e'
  · rw [hs] at h
    cases h
  · rw [hs] at h
    cases h
    rfl

/-- A fresh endpoint has the name of its service, its instances, and everything else at its
start. -/
theorem endpoint?_fields {s : ServiceConfig} {e : Endpoint} (h : endpoint? s = some e) :
    e.name = s.name ∧ e.instances = instancesOf s ∧ e.cursor = 0 ∧ e.status = .unknown ∧
      e.lastCheck = none ∧ e.errorCount = 0 ∧ e.breaker = .closed := by
  rw [endpoint?, Endpoint.ofInstances?] at h
  split at h
  · cases h
    exact ⟨rfl, rfl, rfl, rfl, rfl, rfl, rfl⟩
  · cases h

/-- If a service and those behind it have endpoints, each of the two parts has. -/
theorem exists_of_mapM_cons {s : ServiceConfig} {rest : List ServiceConfig}
    {endpoints : List Endpoint} (h : (s :: rest).mapM endpointOf = .ok endpoints) :
    ∃ e later, endpoint? s = some e ∧ rest.mapM endpointOf = .ok later ∧
      endpoints = e :: later := by
  rw [List.mapM_cons] at h
  rcases hs : endpointOf s with _ | e
  · rw [hs] at h
    cases h
  · rcases hrest : rest.mapM endpointOf with _ | later
    · rw [hs, hrest] at h
      cases h
    · rw [hs, hrest] at h
      cases h
      exact ⟨e, later, endpoint?_eq_some hs, rfl, rfl⟩

/-- If all services have endpoints, each of them has. -/
theorem endpoint?_of_mem {services : List ServiceConfig} {endpoints : List Endpoint}
    (h : services.mapM endpointOf = .ok endpoints) {s : ServiceConfig} (hs : s ∈ services) :
    ∃ e, endpoint? s = some e := by
  induction services generalizing endpoints with
  | nil => exact absurd hs List.not_mem_nil
  | cons s' rest ih =>
      obtain ⟨e, later, he, hrest, -⟩ := exists_of_mapM_cons h
      rcases List.mem_cons.mp hs with rfl | hs
      · exact ⟨e, he⟩
      · exact ih hrest hs

/-- Of the endpoints of services that all have instances, the last of a name is that of the last
service of that name. -/
theorem find?_reverse_mapM {services : List ServiceConfig} {endpoints : List Endpoint}
    (h : services.mapM endpointOf = .ok endpoints) (name : String) :
    endpoints.reverse.find? (fun e => e.name = name)
      = (services.reverse.find? fun s => s.name = name).bind endpoint? := by
  induction services generalizing endpoints with
  | nil =>
      rw [List.mapM_nil] at h
      cases h
      rfl
  | cons s rest ih =>
      obtain ⟨e, later, hfound, hrest, rfl⟩ := exists_of_mapM_cons h
      have hname := (endpoint?_fields hfound).1
      rw [List.reverse_cons, List.reverse_cons, List.find?_append, List.find?_append, ih hrest]
      rcases hlast : rest.reverse.find? fun s => s.name = name with _ | s'
      · rw [hlast]
        by_cases hs : s.name = name
        · simp [hs, hname, hfound]
        · simp [hs, hname]
      · obtain ⟨e', he'⟩ :=
          endpoint?_of_mem hrest (List.mem_reverse.mp (List.mem_of_find?_eq_some hlast))
        rw [hlast]
        simp [he']

/-- Among services there is a last one of each name. -/
theorem exists_find?_reverse {services : List ServiceConfig} {s : ServiceConfig}
    (hs : s ∈ services) :
    ∃ t ∈ services, (services.reverse.find? fun t => t.name = s.name) = some t ∧
      t.name = s.name := by
  obtain ⟨t, ht⟩ : ∃ t, (services.reverse.find? fun t => t.name = s.name) = some t := by
    rw [← Option.isSome_iff_exists, List.find?_isSome]
    exact ⟨s, List.mem_reverse.mpr hs, by simp⟩
  exact ⟨t, List.mem_reverse.mp (List.mem_of_find?_eq_some ht), ht, by simpa using List.find?_some ht⟩

/-- A registry is made of the endpoints of its services. -/
theorem exists_of_ofConfig {services : List ServiceConfig} {policy : BreakerPolicy} {r : Registry}
    (h : ofConfig services policy = .ok r) :
    ∃ endpoints, services.mapM endpointOf = .ok endpoints ∧
      r = { services := endpoints.foldl (fun known e => insertEndpoint e known) [], policy } := by
  rw [ofConfig] at h
  rcases hall : services.mapM endpointOf with _ | endpoints
  · rw [hall] at h
    cases h
  · rw [hall] at h
    cases h
    exact ⟨endpoints, rfl, rfl⟩

/-- **A registry as it was configured** finds the endpoint of the last service of a name. -/
theorem find?_ofConfig {services : List ServiceConfig} {policy : BreakerPolicy} {r : Registry}
    (h : ofConfig services policy = .ok r) (name : String) :
    r.find? name = (services.reverse.find? fun s => s.name = name).bind endpoint? := by
  obtain ⟨endpoints, hall, rfl⟩ := exists_of_ofConfig h
  rw [find?, find?_foldl_insertEndpoint, find?_reverse_mapM hall, List.find?_nil, Option.or_none]

/-- The services with their instances, in the order of the catalogue. -/
def catalogue (r : Registry) : List (String × List Instance) :=
  r.services.map fun e => (e.name, e.instances)

/-- Endpoints list the services that they are the endpoints of. -/
theorem map_of_mapM {services : List ServiceConfig} {endpoints : List Endpoint}
    (h : services.mapM endpointOf = .ok endpoints) :
    endpoints.map (fun e => (e.name, e.instances))
      = services.map fun s => (s.name, instancesOf s) := by
  induction services generalizing endpoints with
  | nil =>
      rw [List.mapM_nil] at h
      cases h
      rfl
  | cons s rest ih =>
      obtain ⟨e, later, he, hrest, rfl⟩ := exists_of_mapM_cons h
      obtain ⟨hname, hinstances, -⟩ := endpoint?_fields he
      rw [List.map_cons, List.map_cons, ih hrest, hname, hinstances]

/-- An endpoint with a new name gets the last place. -/
theorem insertEndpoint_of_not_mem {e : Endpoint} {known : List Endpoint}
    (h : e.name ∉ known.map Endpoint.name) : insertEndpoint e known = known ++ [e] := by
  induction known with
  | nil => rfl
  | cons f rest ih =>
      rw [List.map_cons, List.mem_cons, not_or] at h
      rw [insertEndpoint, if_neg (Ne.symm h.1), ih h.2, List.cons_append]

/-- Endpoints with new and different names are put one behind the other. -/
theorem foldl_insertEndpoint_of_nodup {known endpoints : List Endpoint}
    (h : ((known ++ endpoints).map Endpoint.name).Nodup) :
    endpoints.foldl (fun known e => insertEndpoint e known) known = known ++ endpoints := by
  induction endpoints generalizing known with
  | nil => rw [List.append_nil]; rfl
  | cons e rest ih =>
      have hnew : e.name ∉ known.map Endpoint.name := by
        rw [List.map_append, List.map_cons] at h
        exact fun hmem => List.disjoint_of_nodup_append h hmem List.mem_cons_self
      rw [List.foldl_cons, insertEndpoint_of_not_mem hnew, ih, List.append_assoc,
        List.singleton_append]
      rwa [List.append_assoc, List.singleton_append]

/-- **Services with different names** all get into the catalogue, in their order. -/
theorem catalogue_ofConfig {services : List ServiceConfig} {policy : BreakerPolicy} {r : Registry}
    (h : ofConfig services policy = .ok r) (hnames : (services.map ServiceConfig.name).Nodup) :
    r.catalogue = services.map fun s => (s.name, instancesOf s) := by
  obtain ⟨endpoints, hall, rfl⟩ := exists_of_ofConfig h
  have hlist := map_of_mapM hall
  have hsame : endpoints.map Endpoint.name = services.map ServiceConfig.name := by
    simpa [Function.comp_def] using congrArg (List.map Prod.fst) hlist
  rw [catalogue, foldl_insertEndpoint_of_nodup, List.nil_append, hlist]
  rwa [List.nil_append, hsame]

/-- A registry keeps the policy it was built with, and has measured nothing at first. -/
theorem policy_ofConfig {services : List ServiceConfig} {policy : BreakerPolicy} {r : Registry}
    (h : ofConfig services policy = .ok r) : r.policy = policy ∧ r.metrics = [] := by
  obtain ⟨endpoints, -, rfl⟩ := exists_of_ofConfig h
  exact ⟨rfl, rfl⟩

/-- **All circuits are closed at first.** -/
theorem breaker_ofConfig {services : List ServiceConfig} {policy : BreakerPolicy} {r : Registry}
    (h : ofConfig services policy = .ok r) {name : String} {e : Endpoint}
    (he : r.find? name = some e) : e.breaker = .closed := by
  rw [find?_ofConfig h, Option.bind_eq_some_iff] at he
  obtain ⟨s, -, hs⟩ := he
  exact (endpoint?_fields hs).2.2.2.2.2.2

end Registry

end Tollgate
