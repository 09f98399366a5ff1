import Mathlib.Tactic.NormNum.Inv
import Mathlib.Tactic.NormNum.Pow
import Tollgate.Proofs.Registry.Isolation
import Tollgate.Server

/-!
# A cycle of the monitor

In one cycle every instance of every service is probed once, and every service is told the tally of
its own instances. A report is confined to the service it is about (`Monitor.confined_report`), so
what a cycle makes of a service is what the report of its own probes makes of it
(`Monitor.viewOf_foldl_report`), and no service is touched by the probes of another one. What this
is, and what is measured, is told by the answers of the instances (`Endpoint.Checked`).

Readiness looks at the services by what the last cycle found. Asked right after a cycle it tells
whether a critical service had all its instances answer (`Server.cycle_end_to_end`).

## Main results

* `Probe.healthy_run_iff`: which probes count.
* `Monitor.checkAll_fst`: the requests of a cycle.
* `Monitor.confined_report`: reports are confined to their services.
* `Registry.checked_of_mem`: what a cycle makes of a service.
* `Server.cycle_end_to_end`: the requests of a cycle, the services after it, and readiness.

## Conventions

* An instance answers (`Probe.Answers`) if a request can be made to its health URL and comes back
  with a status between 200 and 299, within the time that the exchange has.
* Only the names and the instances of the services have to be those of a configuration; the rest of
  their state is whatever the cycle meets.
-/

namespace Tollgate

/-! ### Probes -/

namespace Probe

variable {backend : Backend} {timeout : Duration} {url : String}

/-- The instance behind a health URL answers its probe, and successfully. -/
def Answers (backend : Backend) (timeout : Duration) (url : String) : Prop :=
  ∃ o response, request? url timeout = some o ∧ (backend o).outcome = .ok response ∧
    200 ≤ response.status ∧ response.status < 300

/-- **A probe counts as healthy** exactly if the instance answers. -/
theorem healthy_run_iff : (run backend timeout url).healthy = true ↔ Answers backend timeout url := by
  rw [run, Answers]
  rcases request? url timeout with _ | o
  · simp
  · rcases hreply : (backend o).outcome with failure | response
    · simp [isHealthy, hreply]
    · simp [isHealthy, hreply, Response.isSuccess]

/-- A request can be made to a URL that is a valid URI, and it goes there. -/
theorem map_uri_request? (url : String) (timeout : Duration) :
    (request? url timeout).map Outbound.uri = Uri.parse? url := by
  rw [request?, Option.map_map]
  exact Option.map_id'

/-- A request is sent for a probe if one can be made to its URL. -/
theorem sent_run (backend : Backend) (timeout : Duration) (url : String) :
    (run backend timeout url).sent = request? url timeout := by
  rw [run]
  split
  · next hnone => exact hnone.symm
  · next o hsome => exact hsome.symm

/-- A probe is a matter of what comes of the one request that is sent for it. -/
theorem run_congr {backend' : Backend}
    (h : ∀ o, request? url timeout = some o → backend' o = backend o) :
    run backend' timeout url = run backend timeout url := by
  rw [run, run]
  split
  · rfl
  · next o hsome => simp only [h o hsome]

end Probe

namespace Status

variable {healthy total : Nat}

/-- A service is unhealthy if no instance is healthy. -/
theorem ofTally_eq_unhealthy_iff : ofTally healthy total = .unhealthy ↔ healthy = 0 := by
  rw [ofTally]
  split
  · next hnone => exact iff_of_true rfl hnone
  · next hsome => split <;> exact iff_of_false Status.noConfusion hsome

/-- A service is healthy if all instances are. -/
theorem ofTally_eq_healthy_iff (hpos : 0 < total) (hle : healthy ≤ total) :
    ofTally healthy total = .healthy ↔ healthy = total := by
  rw [ofTally]
  split
  · exact iff_of_false Status.noConfusion (by omega)
  · split
    · exact iff_of_true rfl (by omega)
    · exact iff_of_false Status.noConfusion (by omega)

/-- A service is degraded if some instances are healthy, but not all. -/
theorem ofTally_eq_degraded_iff (hle : healthy ≤ total) :
    ofTally healthy total = .degraded ↔ 0 < healthy ∧ healthy < total := by
  rw [ofTally]
  split
  · exact iff_of_false Status.noConfusion (by omega)
  · split
    · exact iff_of_false Status.noConfusion (by omega)
    · exact iff_of_true rfl (by omega)

end Status

/-! ### Levels -/

/-- The number that a magnitude stands for. -/
def Magnitude.value (x : Magnitude) : ℚ :=
  x.significand * 2 ^ x.exponent

namespace Status

/-- **A level shows a status**: one a healthy service, a half a degraded one, and nothing an unhealthy
one. -/
structure ShownBy (status : Status) (level : Magnitude) : Prop where
  healthy : status = .healthy → level.value = 1
  degraded : status = .degraded → level.value = 1 / 2
  unhealthy : status = .unhealthy → level.value = 0

/-- The level that is recorded for a status shows it. -/
theorem shownBy_level (status : Status) : status.ShownBy status.level where
  healthy := by
    rintro rfl
    have hlevel : level healthy = ⟨4503599627370496, -52⟩ := by decide
    norm_num [hlevel, Magnitude.value]
  degraded := by
    rintro rfl
    have hlevel : level degraded = ⟨4503599627370496, -53⟩ := by decide
    norm_num [hlevel, Magnitude.value]
  unhealthy := by
    rintro rfl
    norm_num [level, Magnitude.zero, Magnitude.value]

end Status

namespace Monitor

/-! ### Reports -/

/-- The level that is recorded with a report, if the service is known. -/
def reading (r : Registry) (p : String × List Probe) : Metrics :=
  ((r.find? p.1).map fun e => Measurement.level (Metrics.serviceHealth p.1)
    (Status.ofTally (tally p.2) e.instances.length).level).toList

/-- A level is read off one service. -/
theorem labels_of_mem_reading {r : Registry} {p : String × List Probe} {x : Measurement}
    (h : x ∈ reading r p) : x.series.labels = [("service", p.1)] := by
  rw [reading, Option.mem_toList, Option.map_eq_some_iff] at h
  obtain ⟨e, -, rfl⟩ := h
  rfl

/-- **A report** is an operation, and a level that is recorded. -/
theorem report_eq (doneAt : String → Timestamp) (r : Registry) (p : String × List Probe) :
    report doneAt r p
      = { r.perform (Registry.tallyOf doneAt p) with
          metrics := (r.perform (Registry.tallyOf doneAt p)).metrics ++ reading r p } := by
  have hstatus : ∀ e : Endpoint, (e.applyProbeCycle (tally p.2) (latency? p.2) (doneAt p.1)
      r.policy.failureThreshold r.policy.openFor).2.status
        = Status.ofTally (tally p.2) e.instances.length := by
    intro e
    rw [Endpoint.applyProbeCycle]
    split <;> rfl
  rw [report, apply, Registry.tallyOf, Registry.perform, reading, Registry.applyProbeCycle]
  rcases r.find? p.1 with _ | e
  · simp
  · simp [hstatus]

/-- A cycle reports all services. -/
theorem checkAll_snd (r : Registry) (doneAt : String → Timestamp) (timeout : Duration)
    (backend : Backend) :
    (checkAll r doneAt timeout backend).2 = (probes r timeout backend).foldl (report doneAt) r :=
  rfl

/-- What one sees of a service after a report: the operation, and the level behind it. -/
theorem viewOf_report (doneAt : String → Timestamp) (r : Registry) (p : String × List Probe)
    (name : String) :
    (report doneAt r p).viewOf name
      = ((r.perform (Registry.tallyOf doneAt p)).viewOf name).extend
          ((reading r p).ofService name) := by
  rw [report_eq]
  exact congrArg _ (Metrics.ofService_append ..)

/-- **Reports are confined** to their services. -/
theorem confined_report (doneAt : String → Timestamp) :
    Confined Registry.viewOf (report doneAt) Prod.fst where
  elsewhere := by
    intro r p name hne
    have hnothing : (reading r p).ofService name = [] :=
      Metrics.ofService_eq_nil hne fun x hx => labels_of_mem_reading hx
    rw [viewOf_report, hnothing, Registry.View.extend, List.append_nil]
    exact Registry.confined_perform.elsewhere r (Registry.tallyOf doneAt p) name hne
  own := by
    intro r r' p hsame
    have hfind : r.find? p.1 = r'.find? p.1 := congrArg Registry.View.endpoint hsame
    have hperform := Registry.confined_perform.own r r' (Registry.tallyOf doneAt p) hsame
    rw [viewOf_report, viewOf_report, reading, reading, hfind]
    exact congrArg (Registry.View.extend · _) hperform

/-- The probes of one service. -/
def probesOf (e : Endpoint) (timeout : Duration) (backend : Backend) : List Probe :=
  e.instances.map fun i => Probe.run backend timeout i.healthUrl

/-- The probes of all services are those of each. -/
theorem probes_eq (r : Registry) (timeout : Duration) (backend : Backend) :
    probes r timeout backend = r.services.map fun e => (e.name, probesOf e timeout backend) := by
  simp [probes, Registry.probeTargets, probesOf, Function.comp_def]

/-- **The requests of a cycle**: one for each instance whose health URL a request can be made to. -/
theorem checkAll_fst (r : Registry) (doneAt : String → Timestamp) (timeout : Duration)
    (backend : Backend) :
    (checkAll r doneAt timeout backend).1
      = (r.services.flatMap Endpoint.instances).filterMap fun i =>
          Probe.request? i.healthUrl timeout := by
  have hsent : ∀ e : Endpoint, (probesOf e timeout backend).filterMap Probe.sent
      = e.instances.filterMap fun i => Probe.request? i.healthUrl timeout := by
    intro e
    rw [probesOf, List.filterMap_map]
    exact List.filterMap_congr fun i _ => Probe.sent_run ..
  rw [checkAll, probes_eq, List.flatMap_map, List.filterMap_flatMap]
  simp only [hsent]

/-- Where names are distinct, the probes of a service are all that is reported of it. -/
theorem filter_probes {r : Registry} (h : r.DistinctNames) {e : Endpoint} (he : e ∈ r.services)
    (timeout : Duration) (backend : Backend) :
    ((probes r timeout backend).filter fun p => p.1 = e.name)
      = [(e.name, probesOf e timeout backend)] := by
  have hone : (r.services.filter fun f => f.name = e.name) = [e] := by
    have hcount : (r.services.filter fun f => f.name = e.name).length = 1 := by
      rw [← List.countP_eq_length_filter]
      have hmem : e.name ∈ r.services.map Endpoint.name := List.mem_map_of_mem he
      have hnames := List.count_eq_one_of_mem h hmem
      rw [List.count, List.countP_map] at hnames
      rw [← hnames]
      exact List.countP_congr fun f _ => by simp
    obtain ⟨f, hf⟩ := List.length_eq_one_iff.mp hcount
    have hmem : e ∈ r.services.filter fun f => f.name = e.name :=
      List.mem_filter.mpr ⟨he, by simp⟩
    rw [hf, List.mem_singleton] at hmem
    rw [hf, hmem]
  rw [probes_eq, List.filter_map]
  simp only [Function.comp_def]
  rw [hone]
  rfl

/-- **What a cycle makes of a service** is what the report of its own probes makes of it. -/
theorem viewOf_foldl_report {r : Registry} (h : r.DistinctNames) {e : Endpoint}
    (he : e ∈ r.services) (doneAt : String → Timestamp) (timeout : Duration) (backend : Backend) :
    ((probes r timeout backend).foldl (report doneAt) r).viewOf e.name
      = (report doneAt r (e.name, probesOf e timeout backend)).viewOf e.name := by
  rw [(confined_report doneAt).foldl rfl, filter_probes h he]
  rfl

/-! ### Tallies -/

variable {e : Endpoint} {timeout : Duration} {backend : Backend}

/-- The tally counts the instances that answer. -/
theorem tally_probesOf (e : Endpoint) (timeout : Duration) (backend : Backend) :
    tally (probesOf e timeout backend)
      = e.instances.countP fun i => (Probe.run backend timeout i.healthUrl).healthy := by
  rw [tally, probesOf, ← List.countP_eq_length_filter, List.countP_map]
  rfl

/-- Nobody is counted if no instance answers. -/
theorem tally_eq_zero_iff :
    tally (probesOf e timeout backend) = 0
      ↔ ∀ i ∈ e.instances, ¬ Probe.Answers backend timeout i.healthUrl := by
  simp only [tally_probesOf, List.countP_eq_zero, Probe.healthy_run_iff]

/-- Everybody is counted if every instance answers. -/
theorem tally_eq_length_iff :
    tally (probesOf e timeout backend) = e.instances.length
      ↔ ∀ i ∈ e.instances, Probe.Answers backend timeout i.healthUrl := by
  simp only [tally_probesOf, List.countP_eq_length, Probe.healthy_run_iff]

/-- Somebody is counted if an instance answers. -/
theorem tally_pos_iff :
    0 < tally (probesOf e timeout backend)
      ↔ ∃ i ∈ e.instances, Probe.Answers backend timeout i.healthUrl := by
  simp only [tally_probesOf, List.countP_pos_iff, Probe.healthy_run_iff]

/-- There are no more healthy instances than instances. -/
theorem tally_le_length : tally (probesOf e timeout backend) ≤ e.instances.length := by
  rw [tally_probesOf]
  exact List.countP_le_length

/-- Not everybody is counted if an instance does not answer. -/
theorem tally_lt_length_iff :
    tally (probesOf e timeout backend) < e.instances.length
      ↔ ∃ i ∈ e.instances, ¬ Probe.Answers backend timeout i.healthUrl := by
  rw [Nat.lt_iff_le_and_ne, and_iff_right tally_le_length, ne_eq, tally_eq_length_iff]
  simp only [not_forall, exists_prop]

/-- **The latency of a cycle** is that of the last instance that answers, in the order of the
instances. -/
theorem exists_latency? (h : 0 < tally (probesOf e timeout backend)) :
    ∃ before i after o, e.instances = before ++ i :: after ∧
      Probe.Answers backend timeout i.healthUrl ∧
      (∀ j ∈ after, ¬ Probe.Answers backend timeout j.healthUrl) ∧
      Probe.request? i.healthUrl timeout = some o ∧
      latency? (probesOf e timeout backend) = some (backend o).latency := by
  let healthy (i : Instance) : Bool := (Probe.run backend timeout i.healthUrl).healthy
  have hlatency : latency? (probesOf e timeout backend)
      = (e.instances.reverse.find? healthy).map fun i =>
          (Probe.run backend timeout i.healthUrl).latency := by
    rw [latency?, probesOf, List.filter_map, List.getLast?_map, Option.map_map,
      ← List.head?_reverse, ← List.filter_reverse, List.head?_filter]
    rfl
  obtain ⟨i, hi⟩ : ∃ i, e.instances.reverse.find? healthy = some i := by
    rw [tally_probesOf, List.countP_pos_iff] at h
    obtain ⟨i, hi, hhealthy⟩ := h
    rw [← Option.isSome_iff_exists, List.find?_isSome]
    exact ⟨i, List.mem_reverse.mpr hi, hhealthy⟩
  obtain ⟨hanswers, later, earlier, hsplit, hlater⟩ := List.find?_eq_some_iff_append.mp hi
  have hinstances : e.instances = earlier.reverse ++ i :: later.reverse := by
    have hreverse := congrArg List.reverse hsplit
    simpa using hreverse
  have hanswers : Probe.Answers backend timeout i.healthUrl := Probe.healthy_run_iff.mp hanswers
  obtain ⟨o, response, hrequest, hrest⟩ := hanswers
  refine ⟨earlier.reverse, i, later.reverse, o, hinstances, ⟨o, response, hrequest, hrest⟩,
    fun j hj => ?_, hrequest, ?_⟩
  · have hsilent := hlater j (List.mem_reverse.mp hj)
    rw [← Probe.healthy_run_iff]
    simpa [healthy] using hsilent
  · rw [hlatency, hi, Option.map_some, Probe.run, hrequest]

end Monitor

/-! ### A service after a cycle -/

namespace Endpoint

/-- **What a cycle makes of a service** whose probes are done at `now`, by the answers of its
instances. -/
structure Checked (policy : BreakerPolicy) (backend : Backend) (timeout : Duration)
    (now : Timestamp) (e e' : Endpoint) : Prop where
  name : e'.name = e.name
  instances : e'.instances = e.instances
  cursor : e'.cursor = e.cursor
  lastCheck : e'.lastCheck = some now
  healthy_iff : e'.status = .healthy
    ↔ ∀ i ∈ e.instances, Probe.Answers backend timeout i.healthUrl
  unhealthy_iff : e'.status = .unhealthy
    ↔ ∀ i ∈ e.instances, ¬ Probe.Answers backend timeout i.healthUrl
  degraded_iff : e'.status = .degraded
    ↔ (∃ i ∈ e.instances, Probe.Answers backend timeout i.healthUrl) ∧
      ∃ i ∈ e.instances, ¬ Probe.Answers backend timeout i.healthUrl
  /-- If an instance answers, one success is recorded: the circuit is closed and has no failures, and
  the response time is that of the last instance that answers. -/
  answered : (∃ i ∈ e.instances, Probe.Answers backend timeout i.healthUrl) →
    e'.breaker = .closed ∧ e'.errorCount = e.errorCount - 1 ∧
      ∃ before i after o, e.instances = before ++ i :: after ∧
        Probe.Answers backend timeout i.healthUrl ∧
        (∀ j ∈ after, ¬ Probe.Answers backend timeout j.healthUrl) ∧
        Probe.request? i.healthUrl timeout = some o ∧
        e'.responseTime = some (backend o).latency
  /-- If no instance answers, one failure is recorded, and the response time stays. -/
  silent : (∀ i ∈ e.instances, ¬ Probe.Answers backend timeout i.healthUrl) →
    e'.breaker = (e.breaker.onFailure now policy.failureThreshold policy.openFor).2 ∧
      e'.errorCount = Saturating.addUpTo maxUnsigned64 e.errorCount 1 ∧
      e'.responseTime = e.responseTime

/-- A report with healthy instances records a success. -/
theorem perform_probes_of_pos (policy : BreakerPolicy) (e : Endpoint) {healthy : Nat}
    (h : 0 < healthy) (name : String) (latency : Option Duration) (now : Timestamp) :
    e.perform policy (.probes name healthy latency now)
      = Endpoint.recordSuccess
          { e with status := .ofTally healthy e.instances.length, lastCheck := some now }
          (latency.getD .zero) := by
  rw [perform, applyProbeCycle, if_pos h]

/-- A report without healthy instances records a failure. -/
theorem perform_probes_zero (policy : BreakerPolicy) (e : Endpoint) (name : String)
    (latency : Option Duration) (now : Timestamp) :
    e.perform policy (.probes name 0 latency now)
      = (Endpoint.recordFailure
          { e with status := .ofTally 0 e.instances.length, lastCheck := some now }
          now policy.failureThreshold policy.openFor).2 :=
  rfl

/-- **The report of its probes** makes of a service what a cycle should. -/
theorem checked_perform (policy : BreakerPolicy) (backend : Backend) (timeout : Duration)
    (doneAt : String → Timestamp) (e : Endpoint) :
    e.Checked policy backend timeout (doneAt e.name)
      (e.perform policy (Registry.tallyOf doneAt (e.name, Monitor.probesOf e timeout backend))) := by
  let probes := Monitor.probesOf e timeout backend
  have hbound : Monitor.tally probes ≤ e.instances.length := Monitor.tally_le_length
  have hsome : 0 < e.instances.length := Nat.zero_lt_of_lt e.cursor_lt
  have hstatus := e.status_perform policy (Registry.tallyOf doneAt (e.name, probes))
  have hcheck := lastCheck_perform policy e (Registry.tallyOf doneAt (e.name, probes))
  refine
    { name := name_perform ..
      instances := instances_perform ..
      cursor := ?_
      lastCheck := hcheck
      healthy_iff := ?_
      unhealthy_iff := ?_
      degraded_iff := ?_
      answered := fun hanswered => ?_
      silent := fun hsilent => ?_ }
  · exact cursor_perform fun _ _ hselect => Operation.noConfusion hselect
  · rw [hstatus, Registry.tallyOf, Status.ofTally_eq_healthy_iff hsome hbound]
    exact Monitor.tally_eq_length_iff
  · rw [hstatus, Registry.tallyOf, Status.ofTally_eq_unhealthy_iff]
    exact Monitor.tally_eq_zero_iff
  · rw [hstatus, Registry.tallyOf, Status.ofTally_eq_degraded_iff hbound]
    exact and_congr Monitor.tally_pos_iff Monitor.tally_lt_length_iff
  · have hpos : 0 < Monitor.tally probes := Monitor.tally_pos_iff.mpr hanswered
    obtain ⟨before, i, after, o, hsplit, hlast, hlater, hrequest, hlatency⟩ :=
      Monitor.exists_latency? hpos
    rw [Registry.tallyOf, perform_probes_of_pos policy e hpos, hlatency]
    exact ⟨rfl, rfl, before, i, after, o, hsplit, hlast, hlater, hrequest, rfl⟩
  · have hzero : Monitor.tally probes = 0 := Monitor.tally_eq_zero_iff.mpr hsilent
    rw [Registry.tallyOf, hzero, perform_probes_zero]
    exact ⟨rfl, rfl, rfl⟩

end Endpoint

namespace Registry

variable {r : Registry} {e : Endpoint}

/-- **What a cycle makes of a service in a registry**, and of its recorded level, if its probes are
done at the time that `doneAt` says. -/
structure Checked (backend : Backend) (timeout : Duration) (doneAt : String → Timestamp)
    (r r' : Registry) (e : Endpoint) : Prop where
  service : ∃ e' level, r'.find? e.name = some e' ∧
    e.Checked r.policy backend timeout (doneAt e.name) e' ∧
    r'.metrics.level? (Metrics.serviceHealth e.name) = some level ∧ e'.status.ShownBy level
  /-- What is found about the service, and measured, is a matter of its own probes. -/
  apart : ∀ backend' : Backend, (∀ i ∈ e.instances, ∀ o, Probe.request? i.healthUrl timeout = some o →
      backend' o = backend o) →
    (Monitor.checkAll r doneAt timeout backend').2.viewOf e.name = r'.viewOf e.name

/-- What one sees of a service after its report. -/
theorem viewOf_report_self (doneAt : String → Timestamp) {p : String × List Probe}
    (h : r.find? p.1 = some e) :
    (Monitor.report doneAt r p).viewOf p.1
      = ⟨r.policy, some (e.perform r.policy (tallyOf doneAt p)),
          Metrics.ofService ((r.perform (tallyOf doneAt p)).metrics ++
            [.level (Metrics.serviceHealth p.1)
              (e.perform r.policy (tallyOf doneAt p)).status.level]) p.1⟩ := by
  have hfound : (r.perform (tallyOf doneAt p)).find? p.1
      = some (e.perform r.policy (tallyOf doneAt p)) := by
    rw [find?_perform, h]
    exact if_pos rfl
  have hstatus : (e.perform r.policy (tallyOf doneAt p)).status
      = .ofTally (Monitor.tally p.2) e.instances.length := Endpoint.status_perform ..
  rw [Monitor.report_eq, Monitor.reading, h, ← hfound, hstatus, ← policy_perform]
  rfl

/-- **A cycle checks every service** of the registry. -/
theorem checked_of_mem (h : r.DistinctNames) (he : e ∈ r.services) (doneAt : String → Timestamp)
    (timeout : Duration) (backend : Backend) :
    Checked backend timeout doneAt r (Monitor.checkAll r doneAt timeout backend).2 e := by
  have hfind : r.find? e.name = some e := h.find?_of_mem he
  have hview := fun backend => Monitor.viewOf_foldl_report h he doneAt timeout backend
  refine ⟨?_, fun backend' hsame => ?_⟩
  · let e' := e.perform r.policy (tallyOf doneAt (e.name, Monitor.probesOf e timeout backend))
    have hafter := (hview backend).trans (viewOf_report_self doneAt hfind)
    have hmetrics := congrArg View.metrics hafter
    refine ⟨e', e'.status.level, congrArg View.endpoint hafter,
      e.checked_perform r.policy backend timeout doneAt, ?_, e'.status.shownBy_level⟩
    rw [← Metrics.level?_ofService List.mem_cons_self]
    refine (congrArg (Metrics.level? · _) hmetrics).trans ?_
    rw [Metrics.level?_ofService List.mem_cons_self, Metrics.level?_append_singleton]
    exact if_pos rfl
  · have hprobes : Monitor.probesOf e timeout backend' = Monitor.probesOf e timeout backend :=
      List.map_congr_left fun i hi => Probe.run_congr (hsame i hi)
    rw [Monitor.checkAll_snd, Monitor.checkAll_snd, hview, hview, hprobes]

/-! ### Readiness -/

/-- A service counts as healthy if it is in the registry, and the last cycle found it so. -/
theorem isHealthy_iff {name : String} :
    r.isHealthy name = true ↔ ∃ e, r.find? name = some e ∧ e.status = .healthy := by
  rw [isHealthy]
  rcases r.find? name with _ | e
  · simp
  · simp

/-- **After a cycle a service counts as healthy** if all its instances have answered. -/
theorem isHealthy_checkAll (h : r.DistinctNames) (doneAt : String → Timestamp) (timeout : Duration)
    (backend : Backend) (name : String) :
    (Monitor.checkAll r doneAt timeout backend).2.isHealthy name = true
      ↔ ∃ e ∈ r.services, e.name = name ∧
        ∀ i ∈ e.instances, Probe.Answers backend timeout i.healthUrl := by
  rw [isHealthy_iff]
  constructor
  · rintro ⟨f, hf, hstatus⟩
    have hmem : name ∈ r.services.map Endpoint.name := by
      rw [← map_name_meet r (.cycle doneAt timeout backend), ← contains_iff_mem]
      exact Option.isSome_of_eq_some hf
    obtain ⟨e, he, rfl⟩ := List.mem_map.mp hmem
    obtain ⟨e', -, hfind, hafter, -⟩ := (checked_of_mem h he doneAt timeout backend).service
    obtain rfl : e' = f := Option.some.inj (hfind.symm.trans hf)
    exact ⟨e, he, rfl, hafter.healthy_iff.mp hstatus⟩
  · rintro ⟨e, he, rfl, hall⟩
    obtain ⟨e', -, hfind, hafter, -⟩ := (checked_of_mem h he doneAt timeout backend).service
    exact ⟨e', hfind, hafter.healthy_iff.mpr hall⟩

/-- One healthy service suffices, if there are any that the gateway cannot do without. -/
theorem level_criticalFinding (r : Registry) (critical : List String) :
    (r.criticalFinding critical).level = .healthy
      ↔ critical = [] ∨ ∃ name ∈ critical, r.isHealthy name = true := by
  have hfilter : critical.filter r.isHealthy = [] ↔ ¬ ∃ name ∈ critical, r.isHealthy name = true := by
    simp [List.filter_eq_nil_iff]
  rw [criticalFinding]
  by_cases hcritical : critical = []
  · rw [if_pos hcritical]
    exact iff_of_true rfl (.inl hcritical)
  · rw [if_neg hcritical, or_iff_right hcritical]
    by_cases hnone : critical.filter r.isHealthy = []
    · simp only [if_pos hnone]
      exact iff_of_false Level.noConfusion (hfilter.mp hnone)
    · simp only [if_neg hnone]
      exact iff_of_true trivial (not_not.mp (mt hfilter.mpr hnone))

end Registry

namespace Server

/-- The readiness report is answered by its status. -/
theorem status_answer_ready {s : Server} {times : VisitTimes} {backend : Backend} {i : Inbound}
    {caller : Option Caller} (hpath : i.uri.path = "/health/ready") (hmethod : i.method = "GET") :
    (s.answer times backend i caller).response.status
      = if (s.registry.criticalFinding s.criticalServices).level = .healthy then 200 else 503 := by
  have hresource : Resource.ofPath "/health/ready" = .health .ready := by decide
  simp only [answer, hpath, hresource, healthAnswer, hmethod, true_or, if_true, healthResponse]
  rw [HealthReport.isHealthy, HealthReport.readiness]
  simp only [List.all_cons, List.all_nil, Bool.and_true, beq_iff_eq]
  split <;> rfl

/-- **What is promised of a cycle** of the monitor, in which the probes of each service are done at
the time that `doneAt` says. -/
structure Cycle (doneAt : String → Timestamp) (backend : Backend) (s : Server) (sent : List Outbound)
    (s' : Server) : Prop where
  /-- The health URLs that are valid URIs are asked for, each once for each instance. -/
  uris : sent.map Outbound.uri
    = (s.registry.services.flatMap Endpoint.instances).filterMap fun i => Uri.parse? i.healthUrl
  requests : ∀ o ∈ sent, o.method = "GET" ∧ o.body = .empty ∧
    o.timeout = .ofSeconds s.healthCheck.timeoutSeconds
  /-- Every service is told one tally, when its probes are done, and nothing else happens to the
  services. -/
  tallies : ∃ operations, operations.map Operation.service = s.registry.services.map Endpoint.name ∧
    (∀ o ∈ operations, ∃ healthy latency,
      o = .probes o.service healthy latency (doneAt o.service)) ∧
    s'.registry.services = (s.registry.run operations).services
  checked : ∀ e ∈ s.registry.services,
    Registry.Checked backend (.ofSeconds s.healthCheck.timeoutSeconds) doneAt s.registry
      s'.registry e
  /-- Asked right afterwards, the gateway is ready if no service is critical, or all instances of a
  critical one have answered. -/
  ready : ∀ (times : VisitTimes) (later : Backend) (i : Inbound) (caller : Option Caller),
    i.method = "GET" → i.uri.path = "/health/ready" →
    let status := (s'.answer times later i caller).response.status
    (status = 200 ∨ status = 503) ∧
      (status = 200 ↔ s.criticalServices = [] ∨
        ∃ e ∈ s.registry.services, e.name ∈ s.criticalServices ∧ ∀ j ∈ e.instances,
          Probe.Answers backend (.ofSeconds s.healthCheck.timeoutSeconds) j.healthUrl)

/-- **A cycle of the monitor, end to end**: for a server whose registry was configured, in whatever
state its services are. -/
theorem cycle_end_to_end {services : List ServiceConfig} {policy : BreakerPolicy} {r : Registry}
    (hr : Registry.ofConfig services policy = .ok r) {s : Server}
    (hs : s.registry.catalogue = r.catalogue) (doneAt : String → Timestamp) (backend : Backend) :
    Cycle doneAt backend s (s.cycle doneAt backend).1 (s.cycle doneAt backend).2 := by
  let timeout := Duration.ofSeconds s.healthCheck.timeoutSeconds
  have hdistinct : s.registry.DistinctNames := by
    have hnames := congrArg (List.map Prod.fst) hs
    simp only [Registry.catalogue, List.map_map, Function.comp_def] at hnames
    rw [Registry.DistinctNames, hnames]
    exact Registry.distinctNames_ofConfig hr
  have hchecked := fun e he => Registry.checked_of_mem (e := e) hdistinct he doneAt timeout backend
  have hsent : (s.cycle doneAt backend).1 = (s.registry.services.flatMap Endpoint.instances).filterMap
      fun i => Probe.request? i.healthUrl timeout :=
    Monitor.checkAll_fst s.registry doneAt timeout backend
  refine
    { uris := ?_
      requests := fun o ho => ?_
      tallies := ⟨s.registry.operationsOf (.cycle doneAt timeout backend), ?_, fun o ho => ?_, ?_⟩
      checked := hchecked
      ready := fun times later i caller hmethod hpath => ?_ }
  · rw [hsent, List.map_filterMap]
    exact List.filterMap_congr fun i _ => Probe.map_uri_request? ..
  · rw [hsent, List.mem_filterMap] at ho
    obtain ⟨i, -, ho⟩ := ho
    obtain ⟨uri, -, rfl⟩ := Option.map_eq_some_iff.mp ho
    exact ⟨rfl, rfl, rfl⟩
  · rw [Registry.operationsOf, Monitor.probes_eq, List.map_map, List.map_map]
    rfl
  · obtain ⟨p, -, rfl⟩ := List.mem_map.mp ho
    exact ⟨_, _, rfl⟩
  · exact (Registry.services_foldl_report doneAt s.registry _).1
  · intro status
    have hstatus : status = if ((s.cycle doneAt backend).2.registry.criticalFinding
        s.criticalServices).level = .healthy then 200 else 503 := status_answer_ready hpath hmethod
    have hready :
        ((s.cycle doneAt backend).2.registry.criticalFinding s.criticalServices).level = .healthy
          ↔ s.criticalServices = [] ∨ ∃ e ∈ s.registry.services, e.name ∈ s.criticalServices ∧
            ∀ j ∈ e.instances, Probe.Answers backend timeout j.healthUrl := by
      have hhealthy := Registry.isHealthy_checkAll hdistinct doneAt timeout backend
      rw [Registry.level_criticalFinding]
      refine or_congr_right ⟨?_, ?_⟩
      · rintro ⟨name, hcritical, hname⟩
        obtain ⟨e, he, rfl, hall⟩ := (hhealthy name).mp hname
        exact ⟨e, he, hcritical, hall⟩
      · rintro ⟨e, he, hcritical, hall⟩
        exact ⟨e.name, hcritical, (hhealthy e.name).mpr ⟨e, he, rfl, hall⟩⟩
    rw [hstatus, ← hready]
    split
    · next hlevel => exact ⟨.inl rfl, iff_of_true rfl hlevel⟩
    · next hlevel => exact ⟨.inr rfl, iff_of_false (by decide) hlevel⟩

/-- Three services: of the first one's two instances the last one answers, of the second one's two
none does, as one has a health URL that is no URI, and the third one's answers at once. The probes of
the first take two seconds, and those of the second one. The gateway is ready if the third service is
critical as well as the second one, but not without it. -/
theorem cycle_end_to_end_three_services :
    let c : Config :=
      { services := [{ name := "users", instances := [{ url := "http://u" }, { url := "http://v" }] },
          { name := "orders", instances := [{ url := "http://o" },
            { url := "http://p", healthUrl := some "http://p/a b" }] },
          { name := "files", instances := [{ url := "http://f" }] }]
        breaker := { failureThreshold := 1, openSeconds := 60 }
        healthCheck := { criticalServices := ["orders"] } }
    let backend : Backend := fun o =>
      if o.uri.text = "http://v/health" then
        { outcome := .ok { status := 204 }, latency := .ofSeconds 2 }
      else if o.uri.text = "http://f/health" then { outcome := .ok { status := 200 } }
      else { outcome := .error .connect, latency := .ofSeconds 1 }
    let doneAt (service : String) : Timestamp :=
      if service = "users" then .ofParts 2 0
      else if service = "orders" then .ofParts 1 0 else .ofParts 0 0
    let get : Inbound := { method := "GET", uri := ⟨none, none, "/health/ready", none⟩ }
    let status (s : Server) : Nat :=
      (s.answer (.frozen (.ofParts 2 0)) backend get none).response.status
    let level (s : Server) (service : String) : Option Nat :=
      (s.metrics.level? (Metrics.serviceHealth service)).map Magnitude.bits
    ∃ r s, Registry.ofConfig c.services c.breaker = .ok r ∧
      Server.ofConfig c (.ofConfig c.rateLimit none) = .ok s ∧
      s.registry.catalogue = r.catalogue ∧
      Cycle doneAt backend s (s.cycle doneAt backend).1 (s.cycle doneAt backend).2 ∧
      (s.cycle doneAt backend).1.map (fun o => o.uri.text)
        = ["http://u/health", "http://v/health", "http://o/health", "http://f/health"] ∧
      (s.cycle doneAt backend).2.registry.services.map
          (fun e => (e.status, e.responseTime, e.lastCheck, e.breaker.openUntil))
        = [(.degraded, some (.ofSeconds 2), some (.ofParts 2 0), none),
          (.unhealthy, none, some (.ofParts 1 0), some (.ofParts 61 0)),
          (.healthy, some .zero, some (.ofParts 0 0), none)] ∧
      ["users", "orders", "files"].map (level (s.cycle doneAt backend).2)
        = [some 0x3fe0000000000000, some 0, some 0x3ff0000000000000] ∧
      status (s.cycle doneAt backend).2 = 503 ∧
      status { (s.cycle doneAt backend).2 with criticalServices := ["orders", "files"] } = 200 := by
  intro c backend doneAt get status level
  refine ⟨_, _, rfl, rfl, rfl, ?_, by decide +kernel, by decide +kernel, by decide +kernel,
    by decide +kernel, by decide +kernel⟩
  exact @cycle_end_to_end c.services c.breaker _ rfl _ rfl doneAt backend

end Server

end Tollgate
