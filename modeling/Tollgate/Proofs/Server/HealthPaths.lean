import Tollgate.Proofs.Monitor.Cycle
import Tollgate.Proofs.Server.Destinations
import Tollgate.Proofs.Server.HealthReport

/-!
# The health paths agree

Three of the gateway's own paths tell how well it is, each from its own view of the registry: the
summary and the detailed report go through all services in the order of their names, readiness looks
up the critical services one by one. What they tell is compared here, as it stands in the bodies of
the responses, for any registry with distinct names, whatever became of its services.

All services are healthy in one report exactly if they are in the other, and readiness follows from
that, because every critical service of a configuration that is accepted is registered
(`Server.Hosts.critical`). Conversely a critical service that is healthy is one of the services, so
that these are not found unhealthy as a whole.

## Main results

* `Server.reports_of_shownBy`: what every report says of itself.
* `Server.readiness_ready`: what the response on readiness tells.
* `Server.health_paths_agree`: the reports of a server, as long as it lives.

## Conventions

A path tells something if every GET of it that is let in is answered so (`Server.Tells`), with the
time at which the report is made; neither the services nor the caller have a part in that.
-/

namespace Tollgate

namespace Server

variable {s : Server} {now : Timestamp}

/-- **A path tells this** at `now`, whoever asks for it. -/
def Tells (s : Server) (now : Timestamp) (path : String) (response : Response) : Prop :=
  ∀ (times : VisitTimes) (backend : Backend) (i : Inbound) (caller : Option Caller),
    times.report = now → i.method = "GET" → i.uri.path = path →
      (s.answer times backend i caller).response = response

/-- A health path tells its report. -/
theorem tells_healthResponse {path : String} {resource : HealthPath}
    (h : HealthPath.ofPath? path = some resource) (now : Timestamp) :
    s.Tells now path (s.healthResponse now resource) := by
  rintro times backend i caller rfl hmethod hpath
  have hresource : Resource.ofPath path = .health resource := by rw [Resource.ofPath, h]
  simp only [answer, hpath, hresource, healthAnswer, hmethod, true_or, if_true]

/-! ### What every report says -/

/-- **A report** on one of the paths: which one it is, whether all is well, how long the gateway runs,
and when the report was made. -/
structure Reports (s : Server) (now : Timestamp) (service : String) (well : Prop) (v : Json) :
    Prop where
  service : v.at? ["service"] = some (.string service)
  healthy_iff : v.at? ["status"] = some (.string "healthy") ↔ well
  /-- There is no third way. -/
  unhealthy_iff : v.at? ["status"] = some (.string "unhealthy") ↔ ¬well
  uptime : v.at? ["uptime_seconds"] = some (.number s.uptime.seconds)
  time : v.at? ["timestamp"] = some (.string now.text)

/-- What is shown of a report says all of that, if the report is healthy where all is well. -/
theorem reports_of_shownBy {r : HealthReport} {v : Json} (h : r.ShownBy v)
    (huptime : r.uptime = s.uptime) (htime : r.time = now) {well : Prop}
    (hwell : r.level = .healthy ↔ well) : s.Reports now r.service well v where
  service := h.service
  healthy_iff := by
    rw [h.status, ← hwell]
    exact Level.string_text_eq_iff r.level .healthy
  unhealthy_iff := by
    rw [h.status, ← hwell, ← HealthReport.level_eq_unhealthy_iff]
    exact Level.string_text_eq_iff r.level .unhealthy
  uptime := huptime ▸ h.uptime
  time := htime ▸ h.time

/-- The report on the path of the summary. -/
def summaryReport (s : Server) (now : Timestamp) : HealthReport :=
  .summary s.registry s.uptime now

/-- The report on the path of the details. -/
def detailedReport (s : Server) (now : Timestamp) : HealthReport :=
  .detailed s.registry s.limiter.isConnected s.uptime now

/-- No two findings of the summary have the same name. -/
theorem nodup_keys_summaryReport (s : Server) (now : Timestamp) :
    (Keyed.keys (s.summaryReport now).findings).Nodup :=
  show ["backend_services", "basic"].Nodup by decide

/-- No two findings of the details have the same name. -/
theorem nodup_keys_detailedReport (s : Server) (now : Timestamp) :
    (Keyed.keys (s.detailedReport now).findings).Nodup :=
  show ["backend_services", "basic", "gateway_components", "rate_limit_store"].Nodup by decide

/-- The report on readiness. -/
def readinessReport (s : Server) (now : Timestamp) : HealthReport :=
  .readiness s.registry s.criticalServices s.uptime now

/-- The summary is healthy if the services are found healthy. -/
theorem level_summaryReport :
    (s.summaryReport now).level = .healthy ↔ s.registry.tally.level = .healthy := by
  rw [HealthReport.level_eq_healthy_iff]
  simp [summaryReport, HealthReport.summary, HealthReport.basicFinding, Registry.servicesFinding]

/-- The details are healthy if the summary is, and the limiter has a store. -/
theorem level_detailedReport :
    (s.detailedReport now).level = .healthy
      ↔ (s.summaryReport now).level = .healthy ∧ s.limiter.store.isSome = true := by
  rw [level_summaryReport, HealthReport.level_eq_healthy_iff]
  rcases hstore : s.limiter.store with _ | store <;>
    simp [detailedReport, HealthReport.detailed, HealthReport.basicFinding,
      HealthReport.componentsFinding, HealthReport.storeFinding, Limiter.isConnected, hstore,
      Registry.servicesFinding]

/-- The gateway is found ready if it can do without any service, or one that it cannot do without is
healthy. -/
theorem level_readinessReport :
    (s.readinessReport now).level = .healthy
      ↔ s.criticalServices = [] ∨
        ∃ name ∈ s.criticalServices, ∃ e, s.registry.find? name = some e ∧ e.status = .healthy := by
  rw [HealthReport.level_eq_healthy_iff]
  simp only [readinessReport, HealthReport.readiness, List.forall_mem_singleton,
    Registry.level_criticalFinding, Registry.isHealthy_iff]

/-! ### Readiness -/

/-- **What readiness tells**: a report, which is a body by itself if the gateway is ready, and the
detail of an error if it is not. It lists the critical services, and which of them are healthy. -/
structure Readiness (s : Server) (now : Timestamp) (ready : Response) (report : Json) : Prop where
  reports : s.Reports now "api-gateway-readiness"
    (s.criticalServices = [] ∨
      ∃ name ∈ s.criticalServices, ∃ e, s.registry.find? name = some e ∧ e.status = .healthy) report
  of_healthy : report.at? ["status"] = some (.string "healthy") → ready = .ofJson 200 report
  of_unhealthy : report.at? ["status"] = some (.string "unhealthy") →
    ready = .ofJson 503 (.object [("detail", report)])
  critical : s.criticalServices ≠ [] →
    report.at? ["checks", "critical_services", "details", "critical_services"]
      = some (.array (s.criticalServices.map .string))
  healthy : s.criticalServices ≠ [] →
    report.at? ["checks", "critical_services", "details", "healthy_critical"]
      = some (.array ((s.criticalServices.filter s.registry.isHealthy).map .string))

/-- What is told about the critical services, if there are any. -/
theorem details_criticalFinding (h : s.criticalServices ≠ []) :
    (s.registry.criticalFinding s.criticalServices).details
      = some (.object
        [("critical_services", .array (s.criticalServices.map .string)),
          ("healthy_critical",
            .array ((s.criticalServices.filter s.registry.isHealthy).map .string))]) := by
  rw [Registry.criticalFinding, if_neg h]
  simp only
  split <;> rfl

/-- **Where the report is shown**, readiness tells that. -/
theorem readiness_of_shownBy {report : Json} (h : (s.readinessReport now).ShownBy report)
    {ready : Response}
    (hready : ready = if (s.readinessReport now).level = .healthy then .ofJson 200 report
      else .ofJson 503 (.object [("detail", report)])) : s.Readiness now ready report := by
  have hreports : s.Reports now _ _ report := reports_of_shownBy h rfl rfl level_readinessReport
  obtain ⟨check, hshown, hread⟩ := h.at?_checks (List.mem_cons_self ..)
  refine
    { reports := hreports
      of_healthy := fun hwell => ?_
      of_unhealthy := fun hill => ?_
      critical := fun hsome => by
        rw [hread, hshown.at?_details, details_criticalFinding hsome]
        rfl
      healthy := fun hsome => by
        rw [hread, hshown.at?_details, details_criticalFinding hsome]
        rfl }
  · rw [hready, if_pos (level_readinessReport.mpr (hreports.healthy_iff.mp hwell))]
  · rw [hready, if_neg (mt level_readinessReport.mp (hreports.unhealthy_iff.mp hill))]

/-- A gateway that is not ready says so in the detail of an error. -/
theorem healthResponse_of_not_isHealthy (h : (s.readinessReport now).isHealthy = false) :
    s.healthResponse now .ready
      = .ofJson 503 (.object [("detail", (s.readinessReport now).toOrderedJson)]) :=
  if_neg (Bool.eq_false_iff.mp h)

/-- **The response on readiness** tells that, with the report in one of its two forms. -/
theorem readiness_ready (s : Server) (now : Timestamp) :
    ∃ report, s.Readiness now (s.healthResponse now .ready) report := by
  have hkeys : (Keyed.keys (s.readinessReport now).findings).Nodup := List.nodup_singleton _
  rcases hwell : (s.readinessReport now).isHealthy with _ | _
  · refine ⟨_, readiness_of_shownBy (HealthReport.shownBy_toOrderedJson hkeys) ?_⟩
    have hlevel : ¬(s.readinessReport now).level = .healthy :=
      HealthReport.level_eq_unhealthy_iff.mp (if_neg (Bool.eq_false_iff.mp hwell))
    rw [if_neg hlevel, healthResponse_of_not_isHealthy hwell]
  · refine ⟨_, readiness_of_shownBy (HealthReport.shownBy_toJson hkeys) ?_⟩
    have hlevel : (s.readinessReport now).level = .healthy := if_pos hwell
    rw [if_pos hlevel]
    exact if_pos hwell

namespace Readiness

variable {ready : Response} {report : Json}

/-- Readiness is told by the status of the response, which is one of two. -/
theorem status_cases (h : s.Readiness now ready report) :
    ready.status = 200 ∧ report.at? ["status"] = some (.string "healthy") ∨
      ready.status = 503 ∧ report.at? ["status"] = some (.string "unhealthy") := by
  by_cases hwell : report.at? ["status"] = some (.string "healthy")
  · rw [h.of_healthy hwell]
    exact .inl ⟨rfl, hwell⟩
  · have hill := h.reports.unhealthy_iff.mpr (mt h.reports.healthy_iff.mpr hwell)
    rw [h.of_unhealthy hill]
    exact .inr ⟨rfl, hill⟩

/-- The gateway is ready exactly if it can do without any service, or one that it cannot do without is
healthy. -/
theorem status_eq_iff (h : s.Readiness now ready report) :
    ready.status = 200 ↔ s.criticalServices = [] ∨
      ∃ name ∈ s.criticalServices, ∃ e, s.registry.find? name = some e ∧ e.status = .healthy := by
  rw [← h.reports.healthy_iff]
  rcases h.status_cases with ⟨hstatus, hwell⟩ | ⟨hstatus, hill⟩
  · exact iff_of_true hstatus hwell
  · rw [hstatus]
    exact iff_of_false (by decide)
      (mt h.reports.healthy_iff.mp (h.reports.unhealthy_iff.mp hill))

end Readiness

/-! ### Agreement -/

/-- **The health paths of a server agree** in what they tell at `now`. -/
structure HealthAgrees (s : Server) (now : Timestamp) (summary detailed : Json) (ready : Response) :
    Prop where
  told : s.Tells now "/health" (.ofJson 200 summary) ∧
    s.Tells now "/health/detailed" (.ofJson 200 detailed) ∧ s.Tells now "/health/ready" ready
  reports_summary : s.Reports now "api-gateway"
    (s.registry.services ≠ [] ∧ ∀ e ∈ s.registry.services, e.status = .healthy) summary
  reports_detailed : s.Reports now "api-gateway-detailed"
    (summary.at? ["status"] = some (.string "healthy") ∧ s.limiter.store.isSome = true) detailed
  readiness : ∃ report, s.Readiness now ready report
  /-- Both reports carry what is found about the services, which sums them up. -/
  services : ∃ check, summary.at? ["checks", "backend_services"] = some check ∧
    detailed.at? ["checks", "backend_services"] = some check ∧ s.registry.SumsUp check
  /-- Readiness follows from the summary. -/
  ready_of_summary : summary.at? ["status"] = some (.string "healthy") → ready.status = 200
  /-- What follows from readiness in turn. -/
  services_of_ready : ready.status = 200 → s.criticalServices ≠ [] →
    summary.at? ["checks", "backend_services", "status"] ≠ some (.string "unhealthy")

/-- The critical services of a server are among its services. -/
theorem Hosts.exists_of_mem_criticalServices {c : Config} (h : s.Hosts c) {name : String}
    (hname : name ∈ s.criticalServices) :
    ∃ e ∈ s.registry.services, s.registry.find? name = some e := by
  obtain ⟨e, he⟩ := Option.isSome_iff_exists.mp (h.critical name hname)
  exact ⟨e, List.mem_of_find?_eq_some he, he⟩

/-- The gateway is ready where all services are healthy: every critical service is one of them. -/
theorem Hosts.ready_of_all {c : Config} (h : s.Hosts c)
    (hall : ∀ e ∈ s.registry.services, e.status = .healthy) :
    s.criticalServices = [] ∨
      ∃ name ∈ s.criticalServices, ∃ e, s.registry.find? name = some e ∧ e.status = .healthy := by
  rcases hcritical : s.criticalServices with _ | ⟨name, rest⟩
  · exact .inl rfl
  · have hname : name ∈ s.criticalServices := hcritical ▸ List.mem_cons_self
    obtain ⟨e, he, hfind⟩ := h.exists_of_mem_criticalServices hname
    exact .inr ⟨name, List.mem_cons_self, e, hfind, hall e he⟩

/-- What stands in the summary about the services. -/
theorem checks_summaryReport (s : Server) (now : Timestamp) :
    (s.summaryReport now).toJson.at? ["checks", "backend_services"]
      = some s.registry.servicesFinding.toJson := rfl

/-- The same stands in the details. -/
theorem checks_detailedReport (s : Server) (now : Timestamp) :
    (s.detailedReport now).toJson.at? ["checks", "backend_services"]
      = some s.registry.servicesFinding.toJson := rfl

/-- **The health paths of a server that hosts a configuration** agree. -/
theorem Hosts.healthAgrees {c : Config} (h : s.Hosts c) (now : Timestamp) :
    s.HealthAgrees now (s.summaryReport now).toJson (s.detailedReport now).toJson
      (s.healthResponse now .ready) := by
  have hpaths : HealthPath.ofPath? "/health" = some .summary ∧
      HealthPath.ofPath? "/health/detailed" = some .detailed ∧
      HealthPath.ofPath? "/health/ready" = some .ready := by decide
  have hsummary : s.Reports now "api-gateway" _ (s.summaryReport now).toJson :=
    reports_of_shownBy (HealthReport.shownBy_toJson (nodup_keys_summaryReport s now)) rfl rfl
      (level_summaryReport.trans Registry.level_tally_eq_healthy_iff)
  have hsums : s.registry.SumsUp s.registry.servicesFinding.toJson :=
    Registry.sumsUp_servicesFinding h.names (Finding.shownBy_toJson _)
  obtain ⟨report, hready⟩ := s.readiness_ready now
  refine
    { told := ⟨tells_healthResponse hpaths.1 now, tells_healthResponse hpaths.2.1 now,
        tells_healthResponse hpaths.2.2 now⟩
      reports_summary := hsummary
      reports_detailed := ?detailed
      readiness := ⟨report, hready⟩
      services := ⟨_, checks_summaryReport s now, checks_detailedReport s now, hsums⟩
      ready_of_summary := fun hwell =>
        hready.status_eq_iff.mpr (h.ready_of_all (hsummary.healthy_iff.mp hwell).2)
      services_of_ready := ?critical }
  case detailed =>
    refine reports_of_shownBy (HealthReport.shownBy_toJson (nodup_keys_detailedReport s now)) rfl
      rfl ?_
    rw [level_detailedReport, hsummary.healthy_iff, level_summaryReport,
      Registry.level_tally_eq_healthy_iff]
  case critical =>
    intro hstatus hsome hunhealthy
    -- the critical service that is healthy is one of the services
    obtain ⟨name, -, e, hfind, hhealthy⟩ := (hready.status_eq_iff.mp hstatus).resolve_left hsome
    have hread := (s.summaryReport now).toJson.at?_append ["checks", "backend_services"] ["status"]
    rw [checks_summaryReport, Option.bind_some] at hread
    exact hsums.unhealthy_iff.mp (hread.symm.trans hunhealthy) e (List.mem_of_find?_eq_some hfind)
      hhealthy

/-- **The health paths agree** as long as a server lives that was built from a configuration that is
accepted: whatever became of its services, whatever limiter it has, and whatever the time. -/
theorem health_paths_agree {c : Config} (h : c.validate = .ok c) (limiter : Limiter) :
    ∃ s, Server.ofConfig c limiter = .ok s ∧
      ∀ (events : List Event) (limiter : Limiter) (now : Timestamp),
        let later : Server := { s.meetAll events with limiter }
        later.criticalServices = c.healthCheck.criticalServices ∧
          ∃ summary detailed ready, later.HealthAgrees now summary detailed ready := by
  obtain ⟨s, hs, -, -, hcritical, hhosts⟩ := hosts_ofConfig h limiter
  refine ⟨s, hs, fun events limiter now => ?_⟩
  intro later
  have hlives : (s.meetAll events).Hosts c := hhosts.meetAll events
  -- the limiter is no part of what a server hosts
  have hlater : later.Hosts c :=
    ⟨hlives.catalogue, hlives.names, hlives.critical, hlives.destinations⟩
  have hkept : later.criticalServices = s.criticalServices :=
    congrArg Settings.criticalServices (meetAll_keeps s events).1
  exact ⟨hkept.trans hcritical, _, _, _, hlater.healthAgrees now⟩

/-- Two services, both critical and one of them listed twice. Before any probe the gateway is not
ready, and says so. While only the first service answers its probes, the services are found degraded,
no report is healthy, and the gateway is ready. When both do, it is healthy in all reports, but for
the details if the limiter has no store. -/
theorem health_paths_agree_two_critical :
    let c : Config :=
      { services := [{ name := "users", instances := [{ url := "http://u" }] },
          { name := "orders", instances := [{ url := "http://o" }] }]
        routes := [{ name := "all", pathPrefix := "/", service := "users" }]
        healthCheck := { criticalServices := ["orders", "users", "orders"] } }
    let users : Backend := fun o =>
      if o.uri.text = "http://u/health" then {} else { outcome := .error .connect }
    let now : Timestamp := .ofParts 0 0
    let probed (s : Server) (backend : Backend) : Server := s.meetAll [.start (fun _ _ => now) backend]
    c.validate = .ok c ∧
      ∃ s, Server.ofConfig c .disabled = .ok s ∧
        (∃ body, s.healthResponse now .ready = .ofJson 503 body ∧ body.text =
          "\x7b\"detail\":\x7b\"checks\":\x7b\"critical_services\":\x7b\"details\":\x7b" ++
            "\"critical_services\":[\"orders\",\"users\",\"orders\"],\"healthy_critical\":[]\x7d," ++
            "\"message\":\"No critical backend services are healthy\",\"status\":\"unhealthy\"" ++
            "\x7d\x7d,\"service\":\"api-gateway-readiness\",\"status\":\"unhealthy\"," ++
            "\"timestamp\":\"1970-01-01T00:00:00Z\",\"uptime_seconds\":0.0\x7d\x7d") ∧
        (∃ summary detailed ready, (probed s users).HealthAgrees now summary detailed ready ∧
          summary.at? ["status"] = some (.string "unhealthy") ∧
          summary.at? ["checks", "backend_services", "status"] = some (.string "degraded") ∧
          ready.status = 200) ∧
        ∃ summary detailed ready, (probed s fun _ => {}).HealthAgrees now summary detailed ready ∧
          summary.at? ["status"] = some (.string "healthy") ∧
          detailed.at? ["status"] = some (.string "unhealthy") ∧ ready.status = 200 := by
  intro c users now probed
  have hvalid : c.validate = .ok c := by decide +kernel
  obtain ⟨s, hs, hall⟩ := health_paths_agree hvalid .disabled
  have hagrees := fun backend =>
    (hall [.start (fun _ _ => now) backend] (probed s backend).limiter now).2
  obtain ⟨summary, detailed, ready, husers⟩ := hagrees users
  obtain ⟨summary', detailed', ready', hboth⟩ := hagrees fun _ => {}
  obtain rfl := Except.ok.inj hs
  refine ⟨hvalid, _, hs, ⟨_, healthResponse_of_not_isHealthy (by decide +kernel), by decide +kernel⟩,
    ⟨summary, detailed, ready, husers, ?_, ?_, ?_⟩, summary', detailed', ready', hboth, ?_, ?_, ?_⟩
  · exact husers.reports_summary.unhealthy_iff.mpr (by decide +kernel)
  · obtain ⟨check, hcheck, -, hsums⟩ := husers.services
    have hread := summary.at?_append ["checks", "backend_services"] ["status"]
    rw [hcheck, Option.bind_some, hsums.degraded_iff.mpr (by decide +kernel)] at hread
    exact hread
  · obtain ⟨report, hready⟩ := husers.readiness
    exact hready.status_eq_iff.mpr (by decide +kernel)
  · exact hboth.reports_summary.healthy_iff.mpr (by decide +kernel)
  · refine hboth.reports_detailed.unhealthy_iff.mpr fun hdetailed => ?_
    exact absurd hdetailed.2 (by decide +kernel)
  · exact hboth.ready_of_summary (hboth.reports_summary.healthy_iff.mpr (by decide +kernel))

end Server

end Tollgate
