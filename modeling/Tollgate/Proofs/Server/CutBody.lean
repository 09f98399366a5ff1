import Tollgate.Config.Text
import Tollgate.Proofs.Registry.BreakerContract
import Tollgate.Proofs.Server.Visit

/-!
# Bodies that are cut short

The size of a request is limited twice: a request that says its body is too long is answered at
once, and of any other body only so much is accepted. That a body is longer than that is noticed only
while it is sent on, and so is that the sender breaks off or stops. What comes of the exchange then is
up to the instance: it may have answered already, and otherwise the exchange fails or times out. The
failure is recorded on the service, which never saw the request.

With instances that answer whatever they get to its end, this is the only way in which a failure is
recorded (`Server.failures_are_cut_bodies`). A circuit can be opened so by a caller alone
(`Server.overlong_body_opens_circuit`).

## Conventions

* A run of a server is a list of visits, each with its own readings of the clock, faults of the
  limiter's store, and instances. The monitor does not run: probes are not made by callers.
* A body is cut short if it would be sent on, which only the methods with a body do, and is longer
  than is accepted, or is broken off, or stops (`Inbound.isCut`).
* What instances do with a body that is cut short is not assumed. Where they wait for the rest
  (`Backend.FailsCut`), every such body costs a failure.

## Main results

* `Reception.countP_isFailureOf`: the failures that a visit records.
* `Registry.NoWorse.run`: operations that fail nothing leave a service no worse off.
* `Server.failures_are_cut_bodies`: the failures of a run are bodies that were cut short.
-/

namespace Tollgate

/-! ### Instances that answer -/

namespace Backend

/-- The instances answer every request whose body can be read to its end. -/
def AnswersWhole (b : Backend) : Prop :=
  ∀ o : Outbound, o.body.isWhole = true → ∃ response, (b o).outcome = .ok response

/-- The instances wait for the whole body, and in vain if it is cut short. -/
def FailsCut (b : Backend) : Prop :=
  ∀ o : Outbound, o.body.isWhole = false → ∃ failure, (b o).outcome = .error failure

end Backend

namespace Inbound

/-- The method is one that is sent on with a body, and the body cannot be read to its end: it is
longer than is accepted, or has a flaw of its own. -/
def isCut (limit : Nat) (i : Inbound) : Bool :=
  Request.carriesBody i.method &&
    (i.bodyBound limit < i.body.content.length || !i.body.isWhole)

/-- What is sent on can be read to its end exactly if the body is not cut short. -/
theorem isWhole_outbound (i : Inbound) (limit : Nat) (caller : Option Caller) (uri : Uri)
    (correlation : Bytes) (timeout : Duration) :
    ((i.request limit caller).outbound uri correlation timeout).body.isWhole = !i.isCut limit := by
  rw [isCut]
  simp only [Request.outbound, request, bodyWithin, Body.upTo]
  by_cases hcarries : Request.carriesBody i.method = true
  · by_cases hlong : i.bodyBound limit < i.body.content.length
    · simp [hcarries, hlong, Body.isWhole]
    · simp [hcarries, hlong]
  · simp [hcarries, Body.isWhole, Body.empty]

end Inbound

namespace Operation

/-- The operation records a failed call of the service. -/
def isFailureOf (name : String) : Operation → Bool
  | .failure service _ => service = name
  | _ => false

/-- The operation reports a probe cycle. -/
def isProbes : Operation → Bool
  | .probes .. => true
  | _ => false

end Operation

/-! ### No worse off -/

namespace Registry

/-- **A service is no worse off** in the second registry: no count of errors has grown, its circuit
has not opened, and no opening was counted. -/
structure NoWorse (name : String) (r r' : Registry) : Prop where
  endpoint : ∀ e, r.find? name = some e → ∃ e', r'.find? name = some e' ∧
    e'.errorCount ≤ e.errorCount ∧ e'.breaker.failures ≤ e.breaker.failures ∧
      (e'.breaker.isOpen = true → e.breaker.isOpen = true)
  openings : r'.metrics.total (Metrics.circuitOpened name)
    = r.metrics.total (Metrics.circuitOpened name)

namespace NoWorse

variable {name : String} {r r' r'' : Registry}

/-- A service is no worse off where nothing happens. -/
theorem refl (name : String) (r : Registry) : NoWorse name r r :=
  ⟨fun e he => ⟨e, he, Nat.le_refl _, Nat.le_refl _, id⟩, rfl⟩

/-- A service that is no worse off twice is no worse off. -/
theorem trans (h : NoWorse name r r') (h' : NoWorse name r' r'') : NoWorse name r r'' := by
  refine ⟨fun e he => ?_, h'.openings.trans h.openings⟩
  obtain ⟨e', he', herrors, hfailures, hopen⟩ := h.endpoint e he
  obtain ⟨e'', he'', herrors', hfailures', hopen'⟩ := h'.endpoint e' he'
  exact ⟨e'', he'', Nat.le_trans herrors' herrors, Nat.le_trans hfailures' hfailures,
    fun h => hopen (hopen' h)⟩

end NoWorse

/-- Asking a breaker whether traffic may pass at most closes it. -/
theorem available_noWorse (e : Endpoint) (now : Timestamp) :
    (e.available now).2.errorCount = e.errorCount ∧
      (e.available now).2.breaker.failures ≤ e.breaker.failures ∧
      ((e.available now).2.breaker.isOpen = true → e.breaker.isOpen = true) := by
  rw [Endpoint.available]
  split
  · next hopen =>
      refine ⟨rfl, ?_, fun _ => hopen⟩
      simp only [Breaker.tryPass]
      split
      · exact Nat.le_refl _
      · split
        · exact Nat.zero_le _
        · exact Nat.le_refl _
  · exact ⟨rfl, Nat.le_refl _, id⟩

/-- **An operation that fails nothing** on a service, and is no probe cycle, leaves it no worse
off. -/
theorem NoWorse.perform {name : String} {o : Operation} (hfailure : o.isFailureOf name = false)
    (hprobes : o.isProbes = false) (r : Registry) : NoWorse name r (r.perform o) := by
  constructor
  · intro e he
    rw [find?_perform, he]
    by_cases hservice : o.service = name
    · rw [if_pos hservice, Option.map_some]
      refine ⟨_, rfl, ?_⟩
      cases o with
      | select service now =>
          obtain ⟨herrors, hfailures, hopen⟩ := available_noWorse e now
          rw [Endpoint.perform]
          split
          · exact ⟨Nat.le_of_eq herrors, hfailures, hopen⟩
          · exact ⟨Nat.le_of_eq herrors, hfailures, hopen⟩
      | success service elapsed =>
          exact ⟨Nat.sub_le _ _, Nat.zero_le _, fun h => by cases h⟩
      | failure service now => simp_all [Operation.isFailureOf, Operation.service]
      | probes service healthy latency now => cases hprobes
    · rw [if_neg hservice]
      exact ⟨e, rfl, Nat.le_refl _, Nat.le_refl _, id⟩
  · have htotal := total_perform ⟨r, o⟩ name
    have hquiet : Entry.outcome? name ⟨r, o⟩ = none := by
      cases o <;> simp_all [Entry.outcome?, Operation.isFailureOf, Operation.isProbes]
    rw [hquiet] at htotal
    simpa [Entry.after] using htotal

/-- **Operations that fail nothing** on a service, among them no probe cycle, leave it no worse
off. -/
theorem NoWorse.run {name : String} (r : Registry) {operations : List Operation}
    (hfailure : ∀ o ∈ operations, o.isFailureOf name = false)
    (hprobes : ∀ o ∈ operations, o.isProbes = false) : NoWorse name r (r.run operations) := by
  induction operations using List.reverseRecOn with
  | nil => exact .refl name r
  | append_singleton rest o ih =>
      rw [run_append_singleton]
      simp only [List.mem_append, List.mem_singleton] at hfailure hprobes
      have hrest := ih (fun o ho => hfailure o (.inl ho)) (fun o ho => hprobes o (.inl ho))
      exact hrest.trans (.perform (hfailure o (.inr rfl)) (hprobes o (.inr rfl)) _)

end Registry

/-! ### Failures of a run -/

/-- A request was sent to the service, and the exchange failed. -/
def Delivery.failedAt (name : String) (d : Delivery) : Bool :=
  d.reached name && !d.result.answer.isOk

namespace Reception

/-- The visit has a body that is cut short, on its way to the service. -/
def bringsCut (name : String) (x : Reception) : Bool :=
  x.visit.inbound.isCut x.server.maxBodySize && x.delivery?.any (Delivery.reached name)

/-- The visit has a body that is cut short, on its way to the service, and the exchange fails. -/
def losesCut (name : String) (x : Reception) : Bool :=
  x.visit.inbound.isCut x.server.maxBodySize && x.delivery?.any (Delivery.failedAt name)

/-- Nothing is lost that was not brought. -/
theorem bringsCut_of_losesCut {name : String} {x : Reception} (h : x.losesCut name = true) :
    x.bringsCut name = true := by
  rw [losesCut, Bool.and_eq_true, Option.any_eq_true] at h
  obtain ⟨hcut, d, hd, hfailed⟩ := h
  rw [Delivery.failedAt, Bool.and_eq_true] at hfailed
  rw [bringsCut, hcut, hd, Option.any_some, hfailed.1]
  rfl

/-- No visit is a probe cycle. -/
theorem isProbes_of_mem {x : Reception} {o : Operation} (h : o ∈ x.operations) :
    o.isProbes = false := by
  rw [operations] at h
  rcases hd : x.delivery? with _ | d
  · rw [hd, Option.elim_none] at h
    cases h
  · rw [hd, Option.elim_some, Delivery.operations, List.mem_cons, Option.mem_toList,
      Option.map_eq_some_iff] at h
    rcases h with rfl | ⟨o', -, rfl⟩
    · rfl
    · rw [Delivery.outcome]
      split <;> rfl

/-- The request of a visit is sent on with a body that can be read to its end, or that is cut
short. -/
theorem isWhole_of_exchanged {x : Reception} {d : Delivery} {o : Outbound} (hd : x.delivery? = some d)
    (ho : d.Exchanged o) : o.body.isWhole = !x.visit.inbound.isCut x.server.maxBodySize := by
  obtain ⟨-, -, -, -, hrequest⟩ := Server.of_admittedDelivery? hd
  rw [ho.request, Delivery.requestTo, hrequest]
  exact Inbound.isWhole_outbound ..

/-- **A failure is recorded for a body that is cut short**, where the exchange fails, and for nothing
else, if the instances answer whatever they get to its end. -/
theorem countP_isFailureOf {x : Reception} (h : x.visit.backend.AnswersWhole) (name : String) :
    x.operations.countP (Operation.isFailureOf name) = if x.losesCut name then 1 else 0 := by
  rw [operations, losesCut]
  rcases hd : x.delivery? with _ | d
  · simp
  · rw [Option.elim_some, Option.any_some, Delivery.operations, Delivery.failedAt, Delivery.reached]
    rcases d.unsent_or_exchanged with ⟨hsent, -, -⟩ | ⟨o, ho⟩
    · simp [hsent, Operation.isFailureOf]
    · rw [ho.sent, Option.map_some, Option.toList_some, Delivery.outcome]
      rcases hreply : (d.errand.backend o).outcome with failure | response
      · have hcut : x.visit.inbound.isCut x.server.maxBodySize = true := by
          by_contra hwhole
          obtain ⟨response, hresponse⟩ := h o (by rw [isWhole_of_exchanged hd ho]; simpa using hwhole)
          rw [← (Server.of_admittedDelivery? hd).2.2.1, hreply] at hresponse
          cases hresponse
        rw [(ho.failed failure hreply).1, hcut]
        simp [Operation.isFailureOf, Except.isOk, Except.toBool, List.countP_cons]
      · obtain ⟨headers, hanswer⟩ := (ho.answered response hreply).1
        rw [hanswer]
        simp [Operation.isFailureOf, Except.isOk, Except.toBool]

/-- Instances that wait for the whole body lose whatever is cut short. -/
theorem losesCut_eq_bringsCut {x : Reception} (h : x.visit.backend.FailsCut) (name : String) :
    x.losesCut name = x.bringsCut name := by
  rw [losesCut, bringsCut]
  rcases hcut : x.visit.inbound.isCut x.server.maxBodySize with _ | _
  · rfl
  · rcases hd : x.delivery? with _ | d
    · rfl
    · rw [Option.any_some, Option.any_some, Delivery.failedAt]
      rcases d.unsent_or_exchanged with ⟨hsent, -, -⟩ | ⟨o, ho⟩
      · simp [Delivery.reached, hsent]
      · obtain ⟨failure, hfailure⟩ := h o (by rw [isWhole_of_exchanged hd ho, hcut]; rfl)
        rw [← (Server.of_admittedDelivery? hd).2.2.1] at hfailure
        rw [(ho.failed failure hfailure).1]
        simp [Except.isOk, Except.toBool]

end Reception

namespace Server

/-- The limit on bodies is the same in every run. -/
theorem maxBodySize_of_mem_receptions {s : Server} {visits : List Visit} {x : Reception}
    (h : x ∈ s.receptions visits) : x.server.maxBodySize = s.maxBodySize :=
  congrArg Settings.maxBodySize (settings_of_mem_receptions h)

/-- The visit of every reception is one of the run. -/
theorem visit_mem_of_mem_receptions {s : Server} {visits : List Visit} {x : Reception}
    (h : x ∈ s.receptions visits) : x.visit ∈ visits :=
  map_visit_receptions s visits ▸ List.mem_map_of_mem h

/-- As many failures of a service are recorded as bodies that were cut short on their way to it were
lost. -/
theorem countP_isFailureOf_recorded {s : Server} {visits : List Visit}
    (h : ∀ v ∈ visits, v.backend.AnswersWhole) (name : String) :
    (s.recorded visits).countP (Operation.isFailureOf name)
      = (s.receptions visits).countP (Reception.losesCut name) := by
  have hanswers : ∀ x ∈ s.receptions visits, x.visit.backend.AnswersWhole :=
    fun x hx => h _ (visit_mem_of_mem_receptions hx)
  rw [recorded]
  generalize s.receptions visits = receptions at hanswers
  induction receptions with
  | nil => rfl
  | cons x rest ih =>
      rw [List.flatMap_cons, List.countP_append,
        Reception.countP_isFailureOf (hanswers x List.mem_cons_self),
        ih fun y hy => hanswers y (List.mem_cons_of_mem _ hy), List.countP_cons, Nat.add_comm]

/-- A service at which no body that was cut short was lost is no worse off. -/
theorem noWorse_of_losesCut {s : Server} {visits : List Visit}
    (h : ∀ v ∈ visits, v.backend.AnswersWhole) {name : String}
    (hnone : ∀ x ∈ s.receptions visits, x.losesCut name = false) :
    Registry.NoWorse name s.registry (s.receiveAll visits).registry := by
  rw [registry_receiveAll]
  refine .run _ ?_ ?_
  · have hzero : (s.recorded visits).countP (Operation.isFailureOf name) = 0 := by
      rw [countP_isFailureOf_recorded h, List.countP_eq_zero]
      exact fun x hx => by simp [hnone x hx]
    simpa using List.countP_eq_zero.mp hzero
  · intro o ho
    obtain ⟨x, -, hx⟩ := List.mem_flatMap.mp ho
    exact Reception.isProbes_of_mem hx

/-- A request that says that it is too large never gets on its way. -/
theorem bringsCut_of_declared {s : Server} {visits : List Visit}
    (hdeclared : ∀ v ∈ visits, v.inbound.isCut s.maxBodySize = true →
      v.inbound.isTooLarge s.maxBodySize = true) {x : Reception} (hx : x ∈ s.receptions visits)
    (name : String) : x.bringsCut name = false := by
  rw [Reception.bringsCut, maxBodySize_of_mem_receptions hx]
  rcases hcut : x.visit.inbound.isCut s.maxBodySize with _ | _
  · rfl
  · have hlarge := hdeclared x.visit (visit_mem_of_mem_receptions hx) hcut
    rcases hd : x.delivery? with _ | d
    · rfl
    · have hsmall : x.visit.inbound.isTooLarge x.server.maxBodySize = false :=
        (of_admittedDelivery? hd).1
      rw [maxBodySize_of_mem_receptions hx, hlarge] at hsmall
      cases hsmall

/-- **The failures of a run are bodies that were cut short**, if the instances answer whatever they
get to its end: as many failures of a service are recorded as exchanges with such bodies failed at
it, and where the instances wait for the whole body that is all of them. A service at which none
failed is no worse off, and if every request whose body is cut short says that it is too large, no
service is. -/
theorem failures_are_cut_bodies (s : Server) {visits : List Visit}
    (h : ∀ v ∈ visits, v.backend.AnswersWhole) :
    (s.receiveAll visits).registry = s.registry.run (s.recorded visits) ∧
      (∀ name, (s.recorded visits).countP (Operation.isFailureOf name)
        = (s.receptions visits).countP (Reception.losesCut name)) ∧
      ((∀ v ∈ visits, v.backend.FailsCut) → ∀ name,
        (s.recorded visits).countP (Operation.isFailureOf name)
          = (s.receptions visits).countP (Reception.bringsCut name)) ∧
      (∀ name, (∀ x ∈ s.receptions visits, x.losesCut name = false) →
        Registry.NoWorse name s.registry (s.receiveAll visits).registry) ∧
      ((∀ v ∈ visits, v.inbound.isCut s.maxBodySize = true →
          v.inbound.isTooLarge s.maxBodySize = true) →
        ∀ name, Registry.NoWorse name s.registry (s.receiveAll visits).registry) := by
  refine ⟨registry_receiveAll s visits, countP_isFailureOf_recorded h, fun hfails name => ?_,
    fun name => noWorse_of_losesCut h, fun hdeclared name => ?_⟩
  · rw [countP_isFailureOf_recorded h]
    refine List.countP_congr fun x hx => ?_
    rw [Reception.losesCut_eq_bringsCut (hfails _ (visit_mem_of_mem_receptions hx))]
  · refine noWorse_of_losesCut h fun x hx => Bool.eq_false_iff.mpr fun hloses => ?_
    have hbrings := Reception.bringsCut_of_losesCut hloses
    rw [bringsCut_of_declared hdeclared hx] at hbrings
    cases hbrings

/-- A limit of four bytes. Five that are sent without their length fail, and so do two behind which
nothing comes; the service has a failure for each. Five that are sent with their length are answered
at once, and two behind which nothing comes are answered by an instance that does not wait for more:
both cost nothing. -/
theorem failures_are_cut_bodies_four_bytes :
    let c : Config :=
      { services := [{ name := "a", instances := [{ url := "http://h" }] }]
        routes := [{ name := "r", pathPrefix := "/", service := "a" }]
        rateLimit := { enabled := false }
        security := { maxBodySize := 4 } }
    let waiting (failure : TransportFailure) : Backend := fun o =>
      if o.body.isWhole then {} else { outcome := .error failure }
    let hasty : Backend := fun _ => { outcome := .ok { status := 401 } }
    let post (backend : Backend) (headers : Headers) (body : Body) : Visit :=
      { times := .frozen (.ofParts 0 0)
        faults := {}
        backend
        inbound := { method := "POST", uri := ⟨none, none, "/", none⟩, headers, body } }
    let chunked : Headers := [(⟨"transfer-encoding"⟩, Bytes.ofText "chunked")]
    let visits := [
      post (waiting .other) chunked { content := Bytes.ofText "hello" },
      post (waiting .timeout) chunked { content := Bytes.ofText "he", flaw := some .stalled },
      post (waiting .other) [(.contentLength, Bytes.ofText "5")] { content := Bytes.ofText "hello" },
      post hasty chunked { content := Bytes.ofText "he", flaw := some .stalled }]
    ∃ s, Server.ofConfig c (.ofConfig c.rateLimit none) = .ok s ∧
      (∀ v ∈ visits, v.backend.AnswersWhole) ∧
      (s.receptions visits).map (fun x => x.served.response.status) = [502, 504, 413, 401] ∧
      (s.receptions visits).map (Reception.bringsCut "a") = [true, true, false, true] ∧
      (s.receptions visits).map (Reception.losesCut "a") = [true, true, false, false] ∧
      (s.recorded visits).countP (Operation.isFailureOf "a")
        = (s.receptions visits).countP (Reception.losesCut "a") := by
  intro c waiting hasty post chunked visits
  have hwaiting : ∀ failure, (waiting failure).AnswersWhole :=
    fun failure o ho => ⟨{ status := 200 }, by simp [waiting, ho]⟩
  have hanswers : ∀ v ∈ visits, v.backend.AnswersWhole := by
    intro v hv
    simp only [visits, post, List.mem_cons, List.not_mem_nil, or_false] at hv
    rcases hv with rfl | rfl | rfl | rfl
    · exact hwaiting .other
    · exact hwaiting .timeout
    · exact hwaiting .other
    · exact fun o _ => ⟨_, rfl⟩
  exact ⟨_, rfl, hanswers, by decide +kernel, by decide +kernel, by decide +kernel,
    (failures_are_cut_bodies _ hanswers).2.1 "a"⟩

/-- **A caller alone can open a circuit.** The configuration is valid and the instances answer
whatever they get to its end. Five requests with a body of five bytes, where four are allowed, and
without the length of it, open the circuit of the service, and a request without a body is refused
thereafter. -/
theorem overlong_body_opens_circuit :
    let c : Config :=
      { services := [{ name := "a", instances := [{ url := "http://h" }] }]
        routes := [{ name := "r", pathPrefix := "/", service := "a" }]
        rateLimit := { enabled := false }
        security := { maxBodySize := 4 } }
    let visit (method : String) (body : Bytes) : Visit :=
      { times := .frozen (.ofParts 0 0)
        faults := {}
        backend := fun o => if o.body.isWhole then {} else { outcome := .error .other }
        inbound := { method, uri := ⟨none, none, "/", none⟩, body := { content := body } } }
    let visits := List.replicate 5 (visit "POST" (Bytes.ofText "hello"))
    c.validate = .ok c ∧
      ∃ s, Server.ofConfig c (.ofConfig c.rateLimit none) = .ok s ∧
        (∀ v ∈ visits, v.backend.AnswersWhole) ∧
        (s.registry.find? "a").map (fun e => (e.errorCount, e.breaker)) = some (0, .closed) ∧
        ((s.receiveAll visits).registry.find? "a").map
            (fun e => (e.errorCount, e.breaker.failures, e.breaker.isOpen)) = some (5, 5, true) ∧
        (Reception.served ⟨s.receiveAll visits, visit "GET" []⟩).response.status = 503 := by
  intro c visit visits
  refine ⟨by decide +kernel, _, rfl, ?_, by decide, by decide +kernel, by decide +kernel⟩
  intro v hv o ho
  rw [List.eq_of_mem_replicate hv]
  exact ⟨{ status := 200 }, by simp [visit, ho]⟩

end Server

end Tollgate
