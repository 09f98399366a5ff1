import Mathlib.Data.List.Nodup
import Tollgate.Config.Text
import Tollgate.Proofs.Registry.Catalogue

/-!
# Validated configurations

What a configuration without problems promises (`Config.Validated`): services have names of their
own and instances with URLs, routes lead to services from prefixes that are paths. A registry can be
built from such a configuration, and knows every one of its services (`Config.Validated.ofConfig`).

## Main results

* `Config.validated`: a configuration is accepted only if it keeps the promises.
* `Config.exists_of_mem_criticalServices`: critical services exist.
* `Config.Validated.ofConfig`: the registry of a validated configuration.
-/

namespace Tollgate

namespace Config

/-- **What validation promises.** -/
structure Validated (c : Config) : Prop where
  names : (c.services.map ServiceConfig.name).Nodup
  instances : ∀ s ∈ c.services, s.instances ≠ []
  /-- Requests and probes go to `http` URLs. -/
  urls : ∀ s ∈ c.services, ∀ i ∈ s.instances,
    UrlProblem.ofText? i.url = none ∧ UrlProblem.ofText? i.resolvedHealthUrl = none
  prefixes : ∀ r ∈ c.routes, r.pathPrefix.toList.head? = some '/'
  destinations : ∀ r ∈ c.routes, ∃ s ∈ c.services, s.name = r.service

/-- A service without problems has a name that is new, instances, and URLs. -/
theorem of_problems_eq_nil {earlier : List String} {s : ServiceConfig}
    (h : s.problems earlier = []) :
    s.name ∉ earlier ∧ s.instances ≠ [] ∧
      ∀ i ∈ s.instances,
        UrlProblem.ofText? i.url = none ∧ UrlProblem.ofText? i.resolvedHealthUrl = none := by
  rw [ServiceConfig.problems, List.append_eq_nil_iff, List.append_eq_nil_iff] at h
  obtain ⟨⟨hname, hinstances⟩, hurls⟩ := h
  refine ⟨fun hearlier => ?_, fun hnone => ?_, fun i hi => ?_⟩
  · rw [ServiceConfig.nameProblems] at hname
    split at hname
    · cases hname
    · rw [if_pos (List.contains_iff_mem.mpr hearlier)] at hname
      cases hname
  · rw [if_pos hnone] at hinstances
    cases hinstances
  · have hi := List.flatMap_eq_nil_iff.mp hurls i hi
    rw [InstanceConfig.problems, List.filterMap_eq_nil_iff] at hi
    exact ⟨Option.map_eq_none_iff.mp (hi i.url (by simp)),
      Option.map_eq_none_iff.mp (hi i.resolvedHealthUrl (by simp))⟩

/-- Services without problems have different names, none of which was there before. -/
theorem nodup_of_serviceProblems_eq_nil {earlier : List String} {services : List ServiceConfig}
    (h : serviceProblems earlier services = []) :
    (services.map ServiceConfig.name).Nodup ∧
      (∀ s ∈ services, s.name ∉ earlier) ∧
      ∀ s ∈ services, ∃ before, s.problems before = [] := by
  induction services generalizing earlier with
  | nil => simp
  | cons s rest ih =>
      rw [serviceProblems, List.append_eq_nil_iff] at h
      obtain ⟨hs, hrest⟩ := h
      obtain ⟨hnodup, hnew, hproblems⟩ := ih hrest
      refine ⟨?_, ?_, ?_⟩
      · rw [List.map_cons, List.nodup_cons]
        refine ⟨fun hmem => ?_, hnodup⟩
        obtain ⟨t, ht, hname⟩ := List.mem_map.mp hmem
        exact hnew t ht (hname ▸ List.mem_cons_self)
      · intro t ht
        rcases List.mem_cons.mp ht with rfl | ht
        · exact (of_problems_eq_nil hs).1
        · exact fun hearlier => hnew t ht (List.mem_cons_of_mem _ hearlier)
      · intro t ht
        rcases List.mem_cons.mp ht with rfl | ht
        · exact ⟨earlier, hs⟩
        · exact hproblems t ht

/-- A route without problems has a prefix that is a path, and one of the names. -/
theorem of_routeProblems_eq_nil {names : List String} {r : RouteConfig}
    (h : r.problems names = []) :
    r.pathPrefix.toList.head? = some '/' ∧ r.service ∈ names := by
  rw [RouteConfig.problems, List.append_eq_nil_iff] at h
  obtain ⟨hslash, hservice⟩ := h
  refine ⟨?_, ?_⟩
  · by_contra hnot
    rw [if_neg hnot] at hslash
    cases hslash
  · by_contra hnot
    rw [if_neg (by simpa using hnot)] at hservice
    cases hservice

/-- A configuration is accepted only if it has no problems. -/
theorem problems_of_validate {c : Config} (h : c.validate = .ok c) : c.problems = [] := by
  rw [validate] at h
  split at h
  · assumption
  · cases h

/-- A name that may be referred to is the name of a service. -/
theorem exists_of_mem_serviceNames {c : Config} {name : String} (h : name ∈ c.serviceNames) :
    ∃ s ∈ c.services, s.name = name :=
  List.mem_map.mp (List.mem_filter.mp h).1

/-- **A configuration is accepted only if it keeps the promises.** -/
theorem validated {c : Config} (h : c.validate = .ok c) : c.Validated := by
  have hproblems := problems_of_validate h
  rw [problems, List.append_eq_nil_iff, List.append_eq_nil_iff, List.append_eq_nil_iff] at hproblems
  obtain ⟨⟨⟨hservices, hroutes⟩, -⟩, -⟩ := hproblems
  obtain ⟨hnodup, -, hnone⟩ := nodup_of_serviceProblems_eq_nil hservices
  have hroute : ∀ r ∈ c.routes, r.problems c.serviceNames = [] := List.flatMap_eq_nil_iff.mp hroutes
  refine
    { names := hnodup
      instances := fun s hs => ?_
      urls := fun s hs => ?_
      prefixes := fun r hr => (of_routeProblems_eq_nil (hroute r hr)).1
      destinations := fun r hr =>
        exists_of_mem_serviceNames (of_routeProblems_eq_nil (hroute r hr)).2 }
  · obtain ⟨before, hbefore⟩ := hnone s hs
    exact (of_problems_eq_nil hbefore).2.1
  · obtain ⟨before, hbefore⟩ := hnone s hs
    exact (of_problems_eq_nil hbefore).2.2

/-- **The critical services** of a configuration that is accepted are among its services. -/
theorem exists_of_mem_criticalServices {c : Config} (h : c.validate = .ok c) {name : String}
    (hname : name ∈ c.healthCheck.criticalServices) : ∃ s ∈ c.services, s.name = name := by
  have hproblems := problems_of_validate h
  rw [problems, List.append_eq_nil_iff, List.append_eq_nil_iff, List.map_eq_nil_iff,
    List.filter_eq_nil_iff] at hproblems
  have hknown := hproblems.1.2 name hname
  rw [Bool.not_eq_true', Bool.not_eq_false, List.contains_iff_mem] at hknown
  exact exists_of_mem_serviceNames hknown

/-! ### The registry -/

/-- Services that have instances have endpoints. -/
theorem exists_mapM_endpointOf {services : List ServiceConfig}
    (h : ∀ s ∈ services, s.instances ≠ []) :
    ∃ endpoints, services.mapM Registry.endpointOf = .ok endpoints := by
  induction services with
  | nil => exact ⟨[], by rw [List.mapM_nil]; rfl⟩
  | cons s rest ih =>
      obtain ⟨endpoints, hrest⟩ := ih fun t ht => h t (List.mem_cons_of_mem _ ht)
      have hpos : 0 < (Registry.instancesOf s).length := by
        rw [Registry.instancesOf, List.length_map]
        exact List.length_pos_of_ne_nil (h s List.mem_cons_self)
      have hs : ∃ e, Registry.endpointOf s = .ok e := by
        rw [Registry.endpointOf, Endpoint.ofInstances?, dif_pos hpos]
        exact ⟨_, rfl⟩
      obtain ⟨e, he⟩ := hs
      refine ⟨e :: endpoints, ?_⟩
      rw [List.mapM_cons, he, hrest]
      rfl

/-- Where names are different, a service is the last of its name. -/
theorem find?_reverse_of_mem {services : List ServiceConfig}
    (h : (services.map ServiceConfig.name).Nodup) {s : ServiceConfig} (hs : s ∈ services) :
    (services.reverse.find? fun t => t.name = s.name) = some s := by
  obtain ⟨t, ht, hlast, hname⟩ := Registry.exists_find?_reverse hs
  rw [hlast, List.inj_on_of_nodup_map h ht hs hname]

/-- **The registry of a validated configuration** exists and knows every service with its
instances. -/
theorem Validated.ofConfig {c : Config} (h : c.Validated) :
    ∃ r, Registry.ofConfig c.services c.breaker = .ok r ∧
      ∀ s ∈ c.services, ∃ e, r.find? s.name = some e ∧ e.instances = Registry.instancesOf s := by
  obtain ⟨endpoints, hall⟩ := exists_mapM_endpointOf h.instances
  have hr : ∃ r, Registry.ofConfig c.services c.breaker = .ok r := by
    rw [Registry.ofConfig, hall]
    exact ⟨_, rfl⟩
  obtain ⟨r, hr⟩ := hr
  refine ⟨r, hr, fun s hs => ?_⟩
  obtain ⟨e, he⟩ := Registry.endpoint?_of_mem hall hs
  refine ⟨e, ?_, (Registry.endpoint?_fields he).2.1⟩
  rw [Registry.find?_ofConfig hr, find?_reverse_of_mem h.names hs, Option.bind_some, he]

end Config

end Tollgate
