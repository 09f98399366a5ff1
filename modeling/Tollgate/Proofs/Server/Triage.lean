import Mathlib.Algebra.BigOperators.Group.List.Lemmas
import Mathlib.Algebra.GroupWithZero.Nat
import Tollgate.Proofs.Monitor.Cycle
import Tollgate.Proofs.Server.Visit

/-!
# Triage and accounting

A request passes the limit on its size, admission, the gateway's own paths and the lookup of a route
before it gets to a service, and it may end at each of these. Wherever it ends before the last one,
nothing is sent and the registry stays as it is; behind it one request is sent at most
(`Server.Triage`).

What the proxy measures about requests is told apart from all other measurements by the names of its
two series (`Metrics.ofProxy`). A request that reaches the proxy adds one measurement to each of
them, and nothing else ever does (`Server.ofProxy_meetAll`). So in every life of a server its
counters grow by the number of requests with their labels, and all together by the number of requests
that have reached the proxy (`Server.Counted`).

## Main results

* `Server.triage_handle`: what is promised of every request.
* `Server.ofProxy_meetAll`: what the proxy has measured in a life.
* `Metrics.handled_eq_countP`: the counters of requests all together.
* `Server.triaged_and_counted`: triage of every request, and accounting for every life.

## Conventions

* Which instances answer what is a function of the requests that they are sent. That no more than
  one request is sent is to say that no other value of this function matters.
* The status that the caller sees is that of the response, behind all layers.
-/

namespace Tollgate

/-! ### What the proxy measures -/

namespace Measurement

/-- The measurement is one that the proxy makes. -/
def isProxied (m : Measurement) : Bool :=
  m.series.name = "gateway_requests_total" || m.series.name = "gateway_request_duration_seconds"

/-- The measurement counts a request that the proxy has handled. -/
def isHandled : Measurement → Bool
  | increment s => s.name = "gateway_requests_total"
  | level _ _ | sample _ _ => false

end Measurement

namespace Metrics

/-- What the proxy has measured, oldest first. -/
def ofProxy (m : Metrics) : Metrics :=
  m.filter Measurement.isProxied

/-- What is measured about one request. -/
def ofRequest (method : String) (status : Nat) (service : String) (elapsed : Duration) : Metrics :=
  [.increment (requests method status service), .sample (requestSeconds service) elapsed.seconds]

/-- What is measured later comes behind. -/
theorem ofProxy_append (m more : Metrics) :
    Metrics.ofProxy (m ++ more) = m.ofProxy ++ more.ofProxy :=
  List.filter_append ..

/-- What is measured about a request is measured by the proxy. -/
theorem ofProxy_ofRequest (method : String) (status : Nat) (service : String)
    (elapsed : Duration) :
    (ofRequest method status service elapsed).ofProxy = ofRequest method status service elapsed :=
  List.filter_eq_self.mpr (by simp [ofRequest, Measurement.isProxied, Measurement.series, requests,
    requestSeconds])

/-- The requests that the proxy has handled, by all its counters. -/
def handled (m : Metrics) : Nat :=
  ((m.recorded.filter fun s => s.name = "gateway_requests_total").map m.total).sum

/-- Every series is recorded once. -/
theorem nodup_recorded (m : Metrics) : m.recorded.Nodup := by
  have hany : ∀ (n : Nat) (l : List Series), l.length ≤ n → l.eraseDups.Nodup := by
    intro n
    induction n with
    | zero =>
        intro l hl
        rw [List.eq_nil_of_length_eq_zero (Nat.le_zero.mp hl)]
        exact List.nodup_nil
    | succ n ih =>
        intro l hl
        cases l with
        | nil => exact List.nodup_nil
        | cons a rest =>
            rw [List.eraseDups_cons, List.nodup_cons, List.mem_eraseDups]
            refine ⟨by simp, ih _ ?_⟩
            exact Nat.le_trans (List.length_filter_le ..) (Nat.le_of_succ_le_succ hl)
  exact hany _ _ (Nat.le_refl _)

/-- Ones add up to the number of places where there is one. -/
theorem sum_map_ite {α : Type} (p : α → Bool) (l : List α) :
    (l.map fun a => if p a then 1 else 0).sum = l.countP p := by
  induction l with
  | nil => rfl
  | cons a rest ih => rw [List.map_cons, List.sum_cons, ih, List.countP_cons, Nat.add_comm]

/-- Counters add up to the number of their increments, if none of them is left out. -/
theorem sum_total {names : List Series} (hnodup : names.Nodup)
    (hname : ∀ s ∈ names, s.name = "gateway_requests_total") {m : Metrics}
    (hall : ∀ s, .increment s ∈ m → s.name = "gateway_requests_total" → s ∈ names) :
    (names.map m.total).sum = m.countP Measurement.isHandled := by
  induction m with
  | nil =>
      have hnone : Metrics.total [] = fun _ => 0 := rfl
      simp [hnone]
  | cons x rest ih =>
      have hcons : names.map (Metrics.total (x :: rest))
          = names.map fun s => Metrics.total rest s + if x == .increment s then 1 else 0 :=
        List.map_congr_left fun s _ => List.count_cons
      have hone : (names.countP fun s => x == .increment s) = if x.isHandled then 1 else 0 := by
        cases x with
        | increment s =>
            have hsame : (fun t => Measurement.increment s == .increment t) = fun t => t == s := by
              funext t
              rw [Bool.eq_iff_iff, beq_iff_eq, beq_iff_eq, Measurement.increment.injEq, eq_comm]
            rw [hsame, ← List.count, Measurement.isHandled]
            by_cases hs : s.name = "gateway_requests_total"
            · rw [List.count_eq_one_of_mem hnodup (hall s List.mem_cons_self hs), decide_eq_true hs,
                if_pos rfl]
            · rw [List.count_eq_zero.mpr (mt (hname s) hs), decide_eq_false hs,
                if_neg Bool.false_ne_true]
        | level s v => simp [Measurement.isHandled]
        | sample s v => simp [Measurement.isHandled]
      rw [hcons, List.sum_map_add, sum_map_ite, hone,
        ih fun s hs => hall s (List.mem_cons_of_mem x hs), List.countP_cons]

/-- **The counters of requests all together** count the requests. -/
theorem handled_eq_countP (m : Metrics) : m.handled = m.countP Measurement.isHandled := by
  refine sum_total (m.nodup_recorded.filter _) (fun s hs => by simpa using (List.mem_filter.mp hs).2)
    fun s hs hname => ?_
  rw [List.mem_filter, recorded, List.mem_eraseDups]
  exact ⟨List.mem_map_of_mem hs, by simpa using hname⟩

end Metrics

/-! ### What others measure -/

namespace Registry

/-- An operation measures nothing that the proxy does. -/
theorem ofProxy_perform (r : Registry) (o : Operation) :
    (r.perform o).metrics.ofProxy = r.metrics.ofProxy := by
  have hnothing : (r.measured o).ofProxy = [] := by
    rw [measured]
    split <;> rfl
  rw [metrics_perform, Metrics.ofProxy_append, hnothing, List.append_nil]

/-- Operations measure nothing that the proxy does. -/
theorem ofProxy_run (r : Registry) (operations : List Operation) :
    (r.run operations).metrics.ofProxy = r.metrics.ofProxy := by
  induction operations using List.reverseRecOn with
  | nil => rfl
  | append_singleton rest o ih => rw [run_append_singleton, ofProxy_perform, ih]

/-- Reports measure nothing that the proxy does. -/
theorem ofProxy_foldl_report (doneAt : String → Timestamp) (r : Registry)
    (all : List (String × List Probe)) :
    (all.foldl (Monitor.report doneAt) r).metrics.ofProxy = r.metrics.ofProxy := by
  induction all generalizing r with
  | nil => rfl
  | cons p rest ih =>
      have hnothing : (Monitor.reading r p).ofProxy = [] := by
        rw [Monitor.reading]
        rcases r.find? p.1 with _ | e <;> rfl
      rw [List.foldl_cons, ih, Monitor.report_eq, Metrics.ofProxy_append, hnothing,
        List.append_nil, ofProxy_perform]

/-- **Nothing that happens to a registry** is measured as the proxy does. -/
theorem ofProxy_meetAll (r : Registry) (events : List Event) :
    (r.meetAll events).metrics.ofProxy = r.metrics.ofProxy := by
  induction events generalizing r with
  | nil => rfl
  | cons event rest ih =>
      rw [meetAll, List.foldl_cons, ← meetAll, ih]
      cases event with
      | operation o => exact ofProxy_perform r o
      | errand x => rw [meet, Delivery.registry_result, ofProxy_run]
      | cycle doneAt timeout backend => exact ofProxy_foldl_report doneAt r _

end Registry

/-- A check of a window measures nothing that the proxy does. -/
theorem Limiter.ofProxy_check (l : Limiter) (faults : Faults) (key : String) (quota : Quota)
    (identifier : Option String) (now : Int) :
    (l.check faults key quota identifier now).limiter.metrics.ofProxy = l.metrics.ofProxy := by
  rw [check]
  split
  · simp only
    split
    · rfl
    · exact (Metrics.ofProxy_append ..).trans (List.append_nil _)
  · rfl

/-- Admission measures nothing that the proxy does. -/
theorem Admission.ofProxy_judge (a : Admission) (l : Limiter) (faults : Faults) (path : String)
    (headers : Headers) (peer : Option IpAddress) (seconds : Scope → Int) :
    (a.judge l faults path headers peer seconds).limiter.metrics.ofProxy = l.metrics.ofProxy := by
  rw [judge]
  split
  · rfl
  · simp only [check]
    split
    · exact Limiter.ofProxy_check ..
    · split
      · exact Limiter.ofProxy_check ..
      · exact (Limiter.ofProxy_check ..).trans (Limiter.ofProxy_check ..)

namespace Server

/-! ### One request -/

/-- The request reaches the proxy: it is let in, and the path is none of the gateway's own. -/
def reachesProxy (s : Server) (times : VisitTimes) (faults : Faults) (i : Inbound) : Bool :=
  (s.pass? times faults i).isSome && Resource.ofPath i.uri.path = .proxy

/-- The service of the route of a request, or the name that stands for none. -/
def destination (s : Server) (i : Inbound) : String :=
  (s.routes.lookup i.uri.path).elim noService RouteMatch.service

/-- What the proxy measures about a request. -/
def entry (s : Server) (times : VisitTimes) (faults : Faults) (backend : Backend) (i : Inbound) :
    Metrics :=
  if s.reachesProxy times faults i then
    Metrics.ofRequest i.method (s.handle times faults backend i).response.status (s.destination i)
      ((s.admittedDelivery? times faults backend i).elim .zero fun d => d.result.elapsed)
  else []

/-- What has been measured by the proxy is in the logs of the server. -/
theorem ofProxy_metrics (s : Server) :
    s.metrics.ofProxy
      = s.registry.metrics.ofProxy ++ s.limiter.metrics.ofProxy ++ s.requestLog.ofProxy := by
  rw [metrics, Metrics.ofProxy_append, Metrics.ofProxy_append]

/-- A request that is noted is measured. -/
theorem ofProxy_noteRequest (s : Server) (method : String) (status : Nat) (service : String)
    (elapsed : Duration) :
    (s.noteRequest method status service elapsed).metrics.ofProxy
      = s.metrics.ofProxy ++ Metrics.ofRequest method status service elapsed := by
  have hlog : (s.noteRequest method status service elapsed).requestLog.ofProxy
      = s.requestLog.ofProxy ++ Metrics.ofRequest method status service elapsed := by
    rw [← Metrics.ofProxy_ofRequest, ← Metrics.ofProxy_append]
    rfl
  rw [ofProxy_metrics, ofProxy_metrics, hlog, List.append_assoc _ _ (Metrics.ofRequest ..)]
  rfl

/-- A request with a route is answered as its delivery is, and noted. -/
theorem answer_of_delivery? {s : Server} {times : VisitTimes} {backend : Backend} {i : Inbound}
    {caller : Option Caller}
    {d : Delivery} (h : s.delivery? times backend i caller = some d) :
    Resource.ofPath i.uri.path = .proxy ∧ d.before = s.registry ∧
      s.destination i = d.errand.service ∧
      s.answer times backend i caller
        = { response := d.response
            sent := d.result.sent
            server :=
              ({ s with registry := d.result.registry, uptime := s.uptime + d.result.elapsed }
                : Server).noteRequest i.method d.response.status d.errand.service
                  d.result.elapsed } := by
  obtain ⟨hresource, m, hlookup, rfl⟩ := exists_lookup_of_delivery? h
  refine ⟨hresource, rfl, ?_, ?_⟩
  · rw [destination, hlookup]
    rfl
  · simp only [answer, hresource, proxy, Inbound.request, hlookup]
    -- what is noted of an answer is its status, and of an error the one that its response has
    split
    · next response hanswer => rw [Delivery.response, Delivery.result, hanswer]; rfl
    · next e hanswer => rw [Delivery.response, Delivery.result, hanswer]; rfl

/-- A request of the proxy without a delivery has no route; it is told so, and noted. -/
theorem answer_of_delivery?_eq_none {s : Server} {times : VisitTimes} {backend : Backend}
    {i : Inbound} {caller : Option Caller} (hresource : Resource.ofPath i.uri.path = .proxy)
    (h : s.delivery? times backend i caller = none) :
    s.routes.lookup i.uri.path = none ∧
      s.answer times backend i caller
        = { response := (GatewayError.routeNotFound i.uri.path).response
            server := s.noteRequest i.method 404 noService .zero } := by
  simp only [delivery?, hresource, Option.map_eq_none_iff] at h
  refine ⟨h, ?_⟩
  simp only [answer, hresource, proxy, Inbound.request, h]

/-- **An answer** adds what the proxy measures, if it is the proxy's. -/
theorem ofProxy_answer (s : Server) (times : VisitTimes) (backend : Backend) (i : Inbound)
    (caller : Option Caller) :
    (s.answer times backend i caller).server.metrics.ofProxy = s.metrics.ofProxy ++
      if Resource.ofPath i.uri.path = .proxy then
        Metrics.ofRequest i.method (s.answer times backend i caller).response.status (s.destination i)
          ((s.delivery? times backend i caller).elim .zero fun d => d.result.elapsed)
      else [] := by
  by_cases hresource : Resource.ofPath i.uri.path = .proxy
  · rw [if_pos hresource]
    rcases hd : s.delivery? times backend i caller with _ | d
    · obtain ⟨hlookup, hanswer⟩ := answer_of_delivery?_eq_none hresource hd
      rw [hanswer, destination, hlookup]
      exact ofProxy_noteRequest ..
    · obtain ⟨-, hbefore, hdestination, hanswer⟩ := answer_of_delivery? hd
      have hregistry : d.result.registry.metrics.ofProxy = s.registry.metrics.ofProxy := by
        rw [Delivery.registry_result, Registry.ofProxy_run, hbefore]
      rw [hanswer, hdestination, ofProxy_noteRequest, ofProxy_metrics, ofProxy_metrics, hregistry]
      rfl
  · rw [if_neg hresource, List.append_nil, answer]
    split
    · rfl
    · next h => exact absurd h hresource
    · rfl

/-- Admission adds nothing to what the proxy has measured. -/
theorem ofProxy_afterAdmission (s : Server) (times : VisitTimes) (faults : Faults) (i : Inbound) :
    (s.afterAdmission (s.judged times faults i)).metrics.ofProxy = s.metrics.ofProxy := by
  have hlimiter : (s.judged times faults i).limiter.metrics.ofProxy = s.limiter.metrics.ofProxy :=
    Admission.ofProxy_judge ..
  rw [ofProxy_metrics, ofProxy_metrics, afterAdmission, hlimiter]

/-- The status is the same whatever the caller is told about a quota. -/
theorem status_withQuota (r : Response) (quota : Option QuotaState) :
    (r.withQuota quota).status = r.status := by
  cases quota <;> rfl

/-- **A request** adds one measurement to each of two series of the proxy if it reaches it, and
nothing otherwise. -/
theorem ofProxy_handle (s : Server) (times : VisitTimes) (faults : Faults) (backend : Backend)
    (i : Inbound) :
    (s.handle times faults backend i).server.metrics.ofProxy
      = s.metrics.ofProxy ++ s.entry times faults backend i := by
  rw [entry, reachesProxy]
  rcases s.handle_cases times faults i with hsize | ⟨hsize, scope, decision, hverdict⟩ |
    ⟨caller, quota, hpass⟩
  · rw [handle_of_isTooLarge hsize, pass?, if_pos hsize]
    exact (List.append_nil _).symm
  · have hpass : s.pass? times faults i = none := by
      rw [pass?, hverdict]
      exact ite_self _
    have hrefusal : ((s.afterAdmission (s.judged times faults i)).noteRefusal scope).metrics.ofProxy
        = (s.afterAdmission (s.judged times faults i)).metrics.ofProxy := by
      rw [ofProxy_metrics, ofProxy_metrics, noteRefusal, Metrics.ofProxy_append]
      exact congrArg _ (List.append_nil _)
    rw [handle_of_refused hsize hverdict, hpass, hrefusal, ofProxy_afterAdmission]
    exact (List.append_nil _).symm
  · rw [handle_of_pass? hpass, admittedDelivery?_of_pass? hpass, hpass, Option.isSome_some,
      Bool.true_and, ofProxy_answer, ofProxy_afterAdmission, status_withQuota]
    simp only [decide_eq_true_eq]
    rfl

end Server

/-! ### Whole lives -/

namespace Reception

/-- The visit gets as far as the proxy. -/
def reachesProxy (x : Reception) : Bool :=
  x.server.reachesProxy x.visit.times x.visit.faults x.visit.inbound

/-- The counter of the visit: its method, the status that its caller sees, and the service. -/
def counter (x : Reception) : Series :=
  Metrics.requests x.visit.inbound.method x.served.response.status
    (x.server.destination x.visit.inbound)

/-- The histogram of the visit. -/
def histogram (x : Reception) : Series :=
  Metrics.requestSeconds (x.server.destination x.visit.inbound)

/-- What the proxy measures about the visit. -/
def entry (x : Reception) : Metrics :=
  x.server.entry x.visit.times x.visit.faults x.visit.backend x.visit.inbound

/-- A visit adds what the proxy measures about it. -/
theorem ofProxy_served (x : Reception) :
    x.served.server.metrics.ofProxy = x.server.metrics.ofProxy ++ x.entry :=
  Server.ofProxy_handle ..

/-- One increment of its counter and one sample of its histogram are measured about a visit that
reaches the proxy. -/
theorem entry_eq (x : Reception) : ∃ elapsed, x.entry
    = if x.reachesProxy then [.increment x.counter, .sample x.histogram elapsed] else [] :=
  ⟨_, rfl⟩

end Reception

/-- Counting what a list is mapped to, where everything in it counts for one or for nothing. -/
theorem countP_flatMap_of_ite {α β : Type} {p : β → Bool} {q : α → Bool} {f : α → List β}
    (h : ∀ a, (f a).countP p = if q a then 1 else 0) (l : List α) :
    (l.flatMap f).countP p = l.countP q := by
  induction l with
  | nil => rfl
  | cons a rest ih =>
      rw [List.flatMap_cons, List.countP_append, h, ih, List.countP_cons, Nat.add_comm]

namespace Server

/-- **What the proxy has measured in a life** is what it measures about each visit of its record. -/
theorem ofProxy_meetAll (s : Server) (events : List Event) :
    (s.meetAll events).metrics.ofProxy
      = s.metrics.ofProxy ++ (s.record events).flatMap Reception.entry := by
  induction events using List.reverseRecOn with
  | nil => exact (List.append_nil _).symm
  | append_singleton rest event ih =>
      rw [meetAll_append_singleton, record_append_singleton, List.flatMap_append,
        ← List.append_assoc, ← ih]
      generalize s.meetAll rest = later
      rcases hvisit : later.reception? event with _ | x
      · obtain ⟨hlimiter, hlog⟩ := meet_of_reception?_eq_none hvisit
        obtain ⟨-, met, hregistry⟩ := meet_keeps later event
        rw [ofProxy_metrics, ofProxy_metrics, hlimiter, hlog, hregistry, Registry.ofProxy_meetAll]
        exact (List.append_nil _).symm
      · obtain ⟨hmeet, hserver⟩ := meet_of_reception?_eq_some hvisit
        rw [hmeet, x.ofProxy_served, hserver, Option.toList_some, List.flatMap_singleton]

/-- What of the proxy's measurements is counted in a life is counted in the record of its visits. -/
theorem countP_metrics_meetAll {p : Measurement → Bool} {q : Reception → Bool}
    (hproxied : ∀ m, p m = true → m.isProxied = true)
    (hentry : ∀ x : Reception, x.entry.countP p = if q x then 1 else 0) (s : Server)
    (events : List Event) :
    (s.meetAll events).metrics.countP p = s.metrics.countP p + (s.record events).countP q := by
  have hof : ∀ m : Metrics, m.countP p = m.ofProxy.countP p := by
    intro m
    rw [Metrics.ofProxy, List.countP_filter]
    refine List.countP_congr fun x _ => ?_
    rw [Bool.and_eq_true]
    exact ⟨fun hx => ⟨hx, hproxied x hx⟩, And.left⟩
  rw [hof, ofProxy_meetAll, List.countP_append, ← hof, countP_flatMap_of_ite hentry]

/-- **Accounting for a life** of a server. -/
structure Counted (s : Server) (events : List Event) : Prop where
  /-- A visit adds one to the counter with its labels if it reaches the proxy, and to no other. -/
  counters : ∀ t : Series, t.name = "gateway_requests_total" →
    (s.meetAll events).metrics.total t
      = s.metrics.total t + (s.record events).countP fun x => x.reachesProxy && x.counter = t
  /-- It adds one sample to the histogram of its service, and to no other. -/
  samples : ∀ t : Series, t.name = "gateway_request_duration_seconds" →
    ((s.meetAll events).metrics.samples t).length
      = (s.metrics.samples t).length
        + (s.record events).countP fun x => x.reachesProxy && x.histogram = t
  /-- All counters together count the visits that reach the proxy. -/
  all : (s.meetAll events).metrics.handled
    = s.metrics.handled + (s.record events).countP Reception.reachesProxy

/-- **Every life is accounted for.** -/
theorem counted_meetAll (s : Server) (events : List Event) : s.Counted events where
  counters := by
    intro t ht
    refine countP_metrics_meetAll (fun m hm => ?_) (fun x => ?_) s events
    · rw [beq_iff_eq.mp hm]
      simp [Measurement.isProxied, Measurement.series, ht]
    · obtain ⟨elapsed, hentry⟩ := x.entry_eq
      rw [hentry]
      rcases x.reachesProxy with _ | _ <;> simp [List.countP_cons]
  samples := by
    intro t ht
    rw [Metrics.samples, Metrics.samples, List.length_filterMap_eq_countP,
      List.length_filterMap_eq_countP]
    refine countP_metrics_meetAll (fun m hm => ?_) (fun x => ?_) s events
    · cases m with
      | increment u => cases hm
      | level u v => cases hm
      | sample u v =>
          simp only at hm
          split at hm
          · next hu => simp [Measurement.isProxied, Measurement.series, hu, ht]
          · cases hm
    · obtain ⟨elapsed, hentry⟩ := x.entry_eq
      rw [hentry]
      rcases x.reachesProxy with _ | _
      · rfl
      · by_cases hx : x.histogram = t <;> simp [hx]
  all := by
    rw [Metrics.handled_eq_countP, Metrics.handled_eq_countP]
    refine countP_metrics_meetAll (fun m hm => ?_) (fun x => ?_) s events
    · cases m with
      | increment u =>
          have hu : u.name = "gateway_requests_total" := of_decide_eq_true hm
          simp [Measurement.isProxied, Measurement.series, hu]
      | level u v => cases hm
      | sample u v => cases hm
    · obtain ⟨elapsed, hentry⟩ := x.entry_eq
      rw [hentry]
      rcases x.reachesProxy with _ | _ <;> rfl

/-- Of five visits, to an instance that answers, to one that cannot be reached, to no route, to a
health path, and with a body that is declared to be too long, the first three reach the proxy and are
counted. -/
example :
    let c : Config :=
      { services := [{ name := "users", instances := [{ url := "http://u" }] },
          { name := "files", instances := [{ url := "http://f" }] }]
        routes := [{ name := "users", pathPrefix := "/users", service := "users" },
          { name := "files", pathPrefix := "/files", service := "files" }]
        security := { maxBodySize := 4 }
        rateLimit := { enabled := false } }
    let backend : Backend := fun o =>
      { outcome := if o.uri.text = "http://u/users/1" then .ok { status := 201 }
          else .error .connect }
    let visit (path : String) (headers : Headers) : Server.Event :=
      .visit ⟨.frozen (.ofParts 0 0), {}, backend,
        { method := "GET", uri := ⟨none, none, path, none⟩, headers }⟩
    let events : List Server.Event :=
      [visit "/users/1" [], visit "/files/1" [], visit "/else" [], visit "/health" [],
        visit "/users/1" [(.contentLength, Bytes.ofText "5")]]
    ∃ s, Server.ofConfig c (.ofConfig c.rateLimit none) = .ok s ∧
      (s.record events).map Reception.reachesProxy = [true, true, true, false, false] ∧
      (s.meetAll events).metrics.total (Metrics.requests "GET" 201 "users") = 1 ∧
      (s.meetAll events).metrics.total (Metrics.requests "GET" 502 "files") = 1 ∧
      (s.meetAll events).metrics.total (Metrics.requests "GET" 404 "none") = 1 ∧
      (s.meetAll events).metrics.handled = 3 :=
  ⟨_, rfl, by decide +kernel, by decide +kernel, by decide +kernel, by decide +kernel,
    by decide +kernel⟩

/-! ### Triage -/

/-- Nothing is sent for the request, and the registry stays as it is. -/
structure Untouched (s : Server) (served : Served) : Prop where
  sent : served.sent = none
  registry : served.server.registry = s.registry

/-- **What is promised of every request.** -/
structure Triage (s : Server) (times : VisitTimes) (faults : Faults) (backend : Backend) (i : Inbound)
    (served : Served) : Prop where
  /-- A request is sent on only if its declared length is within the limit, its path is exempt or it
  is admitted, its path is not one of the gateway's own, and has a route. -/
  sent_only : ∀ o, served.sent = some o →
    (∀ length, i.declaredLength? = some length → length ≤ s.maxBodySize) ∧
      (s.admission.isExempt i.uri.path = true ∨
        ∃ caller quota, (s.judged times faults i).verdict = .admitted caller quota) ∧
      HealthPath.ofPath? i.uri.path = none ∧ ∃ m, s.routes.lookup i.uri.path = some m
  /-- What the instances would have answered to any other request does not matter. -/
  once : ∀ backend' : Backend, (∀ o, served.sent = some o → backend' o = backend o) →
    s.handle times faults backend' i = served
  tooLarge : ∀ length, i.declaredLength? = some length → s.maxBodySize < length →
    served.response.status = 413 ∧ s.Untouched served
  refused : i.isTooLarge s.maxBodySize = false → ∀ scope decision,
    (s.judged times faults i).verdict = .refused scope decision →
    served.response.status = 429 ∧ s.Untouched served
  health : ∀ caller quota, s.pass? times faults i = some (caller, quota) →
    ∀ path, HealthPath.ofPath? i.uri.path = some path →
    served.response.status
        = ((s.afterAdmission (s.judged times faults i)).healthAnswer times.report path
          i.method).status ∧
      s.Untouched served
  unrouted : ∀ caller quota, s.pass? times faults i = some (caller, quota) →
    Resource.ofPath i.uri.path = .proxy → s.routes.lookup i.uri.path = none →
    served.response = ((GatewayError.routeNotFound i.uri.path).response).withQuota quota ∧
      served.response.status = 404 ∧ s.Untouched served
  nowhere : ∀ caller quota, s.pass? times faults i = some (caller, quota) →
    Resource.ofPath i.uri.path = .nothing →
    served.response.status = 404 ∧ s.Untouched served

/-- **A request without a delivery** leaves everything untouched. -/
theorem untouched_of_admittedDelivery?_eq_none {s : Server} {times : VisitTimes} {faults : Faults}
    {backend : Backend} {i : Inbound} (h : s.admittedDelivery? times faults backend i = none) :
    s.Untouched (s.handle times faults backend i) := by
  obtain ⟨quota, hfollows⟩ := s.follows_handle times faults backend i
  rw [h] at hfollows
  exact ⟨hfollows.sent, hfollows.registry⟩

/-- A request that is refused turns into no delivery. -/
theorem admittedDelivery?_of_refused {s : Server} {times : VisitTimes} {faults : Faults}
    {backend : Backend} {i : Inbound} {scope : Scope} {decision : Decision}
    (h : (s.judged times faults i).verdict = .refused scope decision) :
    s.admittedDelivery? times faults backend i = none := by
  rw [admittedDelivery?, h]
  exact ite_self _

/-- A refusal is a response of its own status. -/
theorem status_refusal (scope : Scope) (decision : Decision) (now : Int) :
    (Response.refusal scope decision now).status = 429 := by
  have hstatus := status_withQuota (.ofJson 429 (GatewayError.detail scope.refusal)) decision.quota
  rw [Response.refusal]
  split
  · exact hstatus
  · exact hstatus

/-- What comes of forwarding a request is a matter of what the instances answer to the one request
that is sent. -/
theorem forward_congr {r : Registry} {times : ForwardTimes} {timeout : Duration} {request : Request}
    {service targetPath : String} {backend backend' : Backend}
    (h : ∀ o, (r.forward times timeout request service targetPath backend).sent = some o →
      backend' o = backend o) :
    r.forward times timeout request service targetPath backend'
      = r.forward times timeout request service targetPath backend := by
  revert h
  rw [Registry.forward, Registry.forward]
  rcases r.select service times.selection with ⟨e | base, after⟩
  · exact fun _ => rfl
  · simp only
    rcases backendUri? base targetPath request.uri.query with _ | uri
    · exact fun _ => rfl
    · intro h
      have hsame := h
        (request.outbound uri (correlationValue request.headers times.identifier) timeout)
        (by simp only; split <;> rfl)
      simp only [hsame]

/-- An answer is a matter of what the instances answer to the one request that is sent. -/
theorem answer_congr {s : Server} {times : VisitTimes} {backend backend' : Backend} {i : Inbound}
    {caller : Option Caller}
    (h : ∀ o, (s.answer times backend i caller).sent = some o → backend' o = backend o) :
    s.answer times backend' i caller = s.answer times backend i caller := by
  revert h
  rw [answer, answer]
  rcases Resource.ofPath i.uri.path with path | _ | _
  · exact fun _ => rfl
  · rw [proxy, proxy]
    rcases s.routes.lookup (i.request s.maxBodySize caller).uri.path with _ | m
    · exact fun _ => rfl
    · intro h
      simp only at h ⊢
      rw [forward_congr fun o ho => h o (by split <;> exact ho)]
  · exact fun _ => rfl

/-- The gateway's own paths are none of the proxy's. -/
theorem ofPath?_eq_none_of_proxy {path : String} (h : Resource.ofPath path = .proxy) :
    HealthPath.ofPath? path = none := by
  rw [Resource.ofPath] at h
  rcases hpath : HealthPath.ofPath? path with _ | p
  · rfl
  · rw [hpath] at h
    cases h

/-- **Triage of every request.** -/
theorem triage_handle (s : Server) (times : VisitTimes) (faults : Faults) (backend : Backend)
    (i : Inbound) :
    s.Triage times faults backend i (s.handle times faults backend i) where
  sent_only := by
    intro o ho
    obtain ⟨quota, hfollows⟩ := s.follows_handle times faults backend i
    rw [hfollows.sent, Option.bind_eq_some_iff] at ho
    obtain ⟨d, hd, -⟩ := ho
    have hsize : i.isTooLarge s.maxBodySize = false := (of_admittedDelivery? hd).1
    rcases s.handle_cases times faults i with hlarge | ⟨-, scope, decision, hverdict⟩ |
      ⟨caller, quota, hpass⟩
    · rw [hsize] at hlarge
      cases hlarge
    · rw [admittedDelivery?_of_refused hverdict] at hd
      cases hd
    · rw [admittedDelivery?_of_pass? hpass] at hd
      obtain ⟨hresource, m, hlookup, -⟩ := exists_lookup_of_delivery? hd
      refine ⟨fun length hlength => ?_, ?_, ofPath?_eq_none_of_proxy hresource, m, hlookup⟩
      · rw [Inbound.isTooLarge, hlength] at hsize
        simpa using hsize
      · rw [pass?, hsize, if_neg Bool.false_ne_true] at hpass
        rcases hverdict : (s.judged times faults i).verdict with
          _ | ⟨caller', quota'⟩ | ⟨scope, decision⟩
        · exact .inl (Admission.isExempt_of_exempt hverdict)
        · exact .inr ⟨caller', quota', rfl⟩
        · rw [hverdict] at hpass
          cases hpass
  once := by
    intro backend' hsame
    rcases s.handle_cases times faults i with hsize | ⟨hsize, scope, decision, hverdict⟩ |
      ⟨caller, quota, hpass⟩
    · rw [handle_of_isTooLarge hsize, handle_of_isTooLarge hsize]
    · rw [handle_of_refused hsize hverdict, handle_of_refused hsize hverdict]
    · rw [handle_of_pass? hpass] at hsame ⊢
      rw [handle_of_pass? hpass, answer_congr hsame]
  tooLarge := by
    intro length hlength hlonger
    have hsize : i.isTooLarge s.maxBodySize = true := by
      rw [Inbound.isTooLarge, hlength]
      simpa using hlonger
    have hnone : s.admittedDelivery? times faults backend i = none := if_pos hsize
    refine ⟨?_, untouched_of_admittedDelivery?_eq_none hnone⟩
    rw [handle_of_isTooLarge hsize]
    rfl
  refused := by
    intro hsize scope decision hverdict
    refine ⟨?_, untouched_of_admittedDelivery?_eq_none (admittedDelivery?_of_refused hverdict)⟩
    rw [handle_of_refused hsize hverdict]
    exact status_refusal ..
  health := by
    intro caller quota hpass path hpath
    have hresource : Resource.ofPath i.uri.path = .health path := by
      rw [Resource.ofPath, hpath]
    have hnone : s.admittedDelivery? times faults backend i = none := by
      rw [admittedDelivery?_of_pass? hpass, delivery?, hresource]
    refine ⟨?_, untouched_of_admittedDelivery?_eq_none hnone⟩
    rw [handle_of_pass? hpass, status_withQuota, answer, hresource]
  unrouted := by
    intro caller quota hpass hresource hlookup
    have hnone : s.delivery? times backend i caller = none := by
      rw [delivery?, hresource]
      simp only [hlookup, Option.map_none]
    have hresponse : (s.handle times faults backend i).response
        = ((GatewayError.routeNotFound i.uri.path).response).withQuota quota := by
      have hanswer := (@answer_of_delivery?_eq_none (s.afterAdmission (s.judged times faults i))
        times backend i caller hresource hnone).2
      rw [handle_of_pass? hpass, hanswer]
    refine ⟨hresponse, ?_, untouched_of_admittedDelivery?_eq_none ?_⟩
    · rw [hresponse, status_withQuota]
      rfl
    · rw [admittedDelivery?_of_pass? hpass, hnone]
  nowhere := by
    intro caller quota hpass hresource
    have hnone : s.admittedDelivery? times faults backend i = none := by
      rw [admittedDelivery?_of_pass? hpass, delivery?, hresource]
    refine ⟨?_, untouched_of_admittedDelivery?_eq_none hnone⟩
    rw [handle_of_pass? hpass, status_withQuota, answer, hresource]
    rfl

end Server

end Tollgate
