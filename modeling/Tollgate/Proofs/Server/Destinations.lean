import Tollgate.Proofs.Config.Validated
import Tollgate.Proofs.Registry.Invariant
import Tollgate.Proofs.Route.Table
import Tollgate.Proofs.Server.Visit

/-!
# Destinations

Routes lead to services by their names, and so do the lists of critical services. A server that
hosts a configuration (`Server.Hosts`) knows every name that may come up: its registry is the list
of the configured services, neither shorter nor longer, and both its routes and its critical
services are in it. Then the proxy never looks for a service that is not there
(`Server.Hosts.proxyAnswer_ne`).

The server of a configuration that is accepted hosts it, from the start and as long as it lives.

## Main results

* `Delivery.answer_eq_serviceNotFound_iff`: when an errand ends at an unknown service.
* `Server.hosts_ofConfig`: a server is built from a configuration that is accepted, and hosts it.
* `Server.Hosts.meetAll`: a server goes on to host its configuration.
* `Server.every_destination_registered`: no request ever ends at an unknown service.
-/

namespace Tollgate

/-- **An errand ends at an unknown service** exactly if its service is not in the catalogue. -/
theorem Delivery.answer_eq_serviceNotFound_iff {d : Delivery} (h : d.before.DistinctNames)
    (name : String) :
    d.result.answer = .error (.serviceNotFound name)
      ↔ d.before.contains d.errand.service = false ∧ name = d.errand.service := by
  obtain ⟨course, hcourse, -⟩ := existsUnique_course h
  have hfound : ∀ base, d.choice = .ok base → d.before.contains d.errand.service = true := by
    intro base hbase
    rw [choice, Registry.select] at hbase
    rw [Registry.contains]
    rcases hfind : d.before.find? d.errand.service with _ | e
    · rw [hfind] at hbase
      cases hbase
    · rfl
  cases course with
  | refused =>
      rw [Refused.answer hcourse, Registry.refusal, Registry.contains]
      rcases d.before.find? d.errand.service with _ | e
      · simp [eq_comm]
      · simp only [Option.isSome_some, Bool.true_eq_false, false_and, iff_false]
        split <;> simp
  | misaddressed =>
      obtain ⟨base, hbase, -⟩ := Misaddressed.choice hcourse
      rw [Misaddressed.answer hcourse, hfound base hbase]
      simp
  | exchanged =>
      obtain ⟨o, ho⟩ := hcourse
      obtain ⟨base, hbase, -⟩ := ho.choice
      rw [hfound base hbase]
      rcases hreply : (d.errand.backend o).outcome with failure | response
      · rw [(ho.failed failure hreply).1]
        cases failure <;> simp [GatewayError.ofTransport]
      · obtain ⟨headers, hanswer⟩ := (ho.answered response hreply).1
        simp [hanswer]

namespace Server

/-- What the proxy makes of a request: the response of a service, or why there is none. -/
def proxyAnswer (s : Server) (times : ForwardTimes) (backend : Backend) (request : Request) :
    Except GatewayError Response :=
  match s.routes.lookup request.uri.path with
  | none => .error (.routeNotFound request.uri.path)
  | some m =>
    (s.registry.forward times s.requestTimeout request m.service m.targetPath backend).answer

/-- The proxy responds with what it has made of the request. -/
theorem response_proxy (s : Server) (times : ForwardTimes) (backend : Backend) (request : Request) :
    (s.proxy times backend request).response = .ofAnswer (s.proxyAnswer times backend request) := by
  rw [proxy, proxyAnswer]
  rcases s.routes.lookup request.uri.path with _ | m
  · rfl
  · simp only
    split
    · next response hanswer => rw [hanswer]; rfl
    · next e hanswer => rw [hanswer]; rfl

/-- **A server hosts a configuration.** -/
structure Hosts (s : Server) (c : Config) : Prop where
  /-- Every service has one entry, with its instances in order; there are no others. -/
  catalogue : s.registry.catalogue
    = c.services.map fun t => (t.name, Registry.instancesOf t)
  names : s.registry.DistinctNames
  critical : ∀ name ∈ s.criticalServices, s.registry.contains name = true
  /-- Whatever is looked up, it is a service that exists. -/
  destinations : ∀ path m, s.routes.lookup path = some m →
    s.registry.contains m.service = true

variable {s : Server} {c : Config}

/-- A server that hosts a configuration has every destination, so that **the proxy never ends at an
unknown service**. -/
theorem Hosts.proxyAnswer_ne (h : s.Hosts c) (times : ForwardTimes) (backend : Backend)
    (request : Request) (name : String) :
    s.proxyAnswer times backend request ≠ .error (.serviceNotFound name) := by
  rw [proxyAnswer]
  rcases hlookup : s.routes.lookup request.uri.path with _ | m
  · simp
  · intro hanswer
    let d : Delivery :=
      ⟨s.registry, times, s.requestTimeout, request, m.service, m.targetPath, backend⟩
    have hunknown : s.registry.contains m.service = false :=
      ((d.answer_eq_serviceNotFound_iff h.names name).mp hanswer).1
    rw [h.destinations _ m hlookup] at hunknown
    cases hunknown

/-- **The server of a configuration that is accepted** exists and hosts it. -/
theorem hosts_ofConfig (h : c.validate = .ok c) (limiter : Limiter) :
    ∃ s, Server.ofConfig c limiter = .ok s ∧
      Registry.ofConfig c.services c.breaker = .ok s.registry ∧
      s.routes = .ofConfig c.routes ∧ s.criticalServices = c.healthCheck.criticalServices ∧
      s.Hosts c := by
  have hvalid := Config.validated h
  obtain ⟨r, hr, -⟩ := hvalid.ofConfig
  have hcontains : ∀ name, (∃ t ∈ c.services, t.name = name) → r.contains name = true :=
    fun name => (Registry.contains_ofConfig hr name).mpr
  refine ⟨_, by rw [ofConfig, hr]; rfl, hr, rfl, rfl, ?_⟩
  refine
    { catalogue := Registry.catalogue_ofConfig hr hvalid.names
      names := Registry.distinctNames_ofConfig hr
      critical := fun name hname =>
        hcontains name (Config.exists_of_mem_criticalServices h hname)
      destinations := fun path m hlookup => ?_ }
  obtain ⟨route, hroute, -, hservice⟩ := RouteTable.exists_of_lookup hlookup
  exact hcontains m.service (hservice ▸ hvalid.destinations route hroute)

/-- **A server goes on to host its configuration**, whatever it meets. -/
theorem Hosts.meetAll (h : s.Hosts c) (events : List Event) : (s.meetAll events).Hosts c := by
  obtain ⟨hsettings, met, hmet⟩ := meetAll_keeps s events
  have hroutes : (s.meetAll events).routes = s.routes := congrArg Settings.routes hsettings
  have hcritical : (s.meetAll events).criticalServices = s.criticalServices :=
    congrArg Settings.criticalServices hsettings
  obtain ⟨hnames, hcatalogue⟩ := h.names.meetAll met
  have hcontains : ∀ name, (s.meetAll events).registry.contains name = s.registry.contains name :=
    fun name => by
      rw [Bool.eq_iff_iff, hmet, Registry.contains_iff_mem, Registry.contains_iff_mem,
        Registry.map_name_meetAll]
  exact
    { catalogue := by rw [hmet, hcatalogue, h.catalogue]
      names := hmet ▸ hnames
      critical := fun name hname => by
        rw [hcontains]
        exact h.critical name (hcritical ▸ hname)
      destinations := fun path m hlookup => by
        rw [hcontains]
        exact h.destinations path m (hroutes ▸ hlookup) }

/-- **Every destination is registered.** From a configuration that is accepted a server can be
built. As long as it lives it knows the configured services with their instances and no others,
every critical service and every service that a route leads to, so that at no time the proxy ends at
an unknown service. -/
theorem every_destination_registered (h : c.validate = .ok c) (limiter : Limiter) :
    ∃ s, Server.ofConfig c limiter = .ok s ∧
      Registry.ofConfig c.services c.breaker = .ok s.registry ∧
      s.routes = .ofConfig c.routes ∧ s.criticalServices = c.healthCheck.criticalServices ∧
      ∀ events, (s.meetAll events).Hosts c ∧
        ∀ times backend request,
          ((s.meetAll events).proxy times backend request).response
            = .ofAnswer ((s.meetAll events).proxyAnswer times backend request) ∧
          ∀ name, (s.meetAll events).proxyAnswer times backend request
            ≠ .error (.serviceNotFound name) := by
  obtain ⟨s, hs, hregistry, hroutes, hcritical, hhosts⟩ := hosts_ofConfig h limiter
  refine ⟨s, hs, hregistry, hroutes, hcritical, fun events => ?_⟩
  have hlives : (s.meetAll events).Hosts c := hhosts.meetAll events
  refine ⟨hlives, fun times backend request => ⟨response_proxy _ times backend request, ?_⟩⟩
  exact hlives.proxyAnswer_ne times backend request

/-- Two services, the second critical and below the first. No probe is answered, so the first cycle
opens both circuits; then a failure is told of a service that there is not. Both services are still
there, and what the proxy ends at is the circuit. -/
theorem every_destination_registered_below_another :
    let c : Config :=
      { services := [{ name := "users", instances := [{ url := "http://u" }, { url := "http://v" }] },
          { name := "orders", instances := [{ url := "http://o" }] }]
        routes := [{ name := "all", pathPrefix := "/", service := "users" },
          { name := "orders", pathPrefix := "/orders", service := "orders" }]
        breaker := { failureThreshold := 1 }
        healthCheck := { criticalServices := ["orders"] } }
    let silent : Backend := fun _ => { outcome := .error .connect }
    let get (path : String) : Request :=
      { method := "GET", uri := ⟨none, none, path, none⟩, headers := [], body := .empty }
    let events : List Event :=
      [.start (fun _ _ => .ofParts 0 0) silent,
        .registry (.operation (.failure "payments" (.ofParts 1 0)))]
    let times : ForwardTimes := .frozen (.ofParts 2 0)
    c.validate = .ok c ∧
      ∃ s, Server.ofConfig c (.ofConfig c.rateLimit none) = .ok s ∧
        (s.meetAll events).Hosts c ∧
        (s.meetAll events).registry.catalogue
          = [("users", [⟨"http://u", "http://u/health"⟩, ⟨"http://v", "http://v/health"⟩]),
            ("orders", [⟨"http://o", "http://o/health"⟩])] ∧
        (s.meetAll events).proxyAnswer times silent (get "/orders/1")
          = .error (.circuitOpen "orders") ∧
        (s.meetAll events).proxyAnswer times silent (get "/else")
          = .error (.circuitOpen "users") := by
  intro c silent get events times
  have hvalid : c.validate = .ok c := by decide +kernel
  obtain ⟨s, hs, -, -, -, hall⟩ :=
    every_destination_registered hvalid (.ofConfig c.rateLimit none)
  have hhosts : (s.meetAll events).Hosts c := (hall events).1
  obtain rfl := Except.ok.inj hs
  exact ⟨hvalid, _, hs, hhosts, by decide +kernel, by decide +kernel, by decide +kernel⟩

end Server

end Tollgate
