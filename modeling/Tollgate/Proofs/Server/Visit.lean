import Mathlib.Data.List.Induction
import Tollgate.Proofs.Registry.Life
import Tollgate.Server

/-!
# Visits

A request that comes to the server is a visit, with its own readings of the clock, faults of the
limiter's store, and instances. If it does not say that it is too large, is let in, and its path has
a route, it turns into a delivery (`Server.admittedDelivery?`): what it is answered, what is sent on,
and what it does to the registry are those of the delivery (`Server.follows_handle`). Otherwise
nothing is sent and the registry stays.

Between visits the monitor runs, and other things happen to the registry, which is shared. None of
this changes what was configured about a server, and what it makes of the registry is a life of the
registry (`Server.meetAll_keeps`).

## Main results

* `Server.follows_handle`: a request and its delivery.
* `Server.of_admittedDelivery?`: what a delivery takes along.
* `Server.registry_receiveAll`: visits do to the registry what their operations do.
* `Server.meetAll_keeps`: what a server keeps as long as it lives, and what becomes of its registry.
* `Server.handle_of_pass?`: a request that is let in is answered.
* `Server.meet_of_reception?_eq_none`: what visits alone can touch.

## Conventions

* A run of visits alone is `Server.receiveAll`, with its record; a life in which other things happen
  as well is `Server.meetAll`, and its record is `Server.record`. What is said of one more visit after
  any life is said of every visit of every life.
-/

namespace Tollgate

/-- What the caller is told of an answer: the response of a service, or the one for an error. -/
def Response.ofAnswer : Except GatewayError Response → Response
  | .ok response => response
  | .error e => e.response

/-- What the caller is told. -/
def Delivery.response (d : Delivery) : Response :=
  .ofAnswer d.result.answer

namespace Admission

variable {a : Admission} {l : Limiter} {faults : Faults} {path : String} {headers : Headers}
  {peer : Option IpAddress} {seconds : Scope → Int}

/-- A caller whose windows are checked is admitted as the caller that it is, or refused. -/
theorem verdict_check (l : Limiter) (faults : Faults) (caller : Caller)
    (seconds : Scope → Int) :
    (∃ quota, (check l faults caller seconds).verdict = .admitted caller quota) ∨
      ∃ scope decision,
        (check l faults caller seconds).verdict = .refused scope decision := by
  simp only [check]
  split
  · exact .inr ⟨_, _, rfl⟩
  · split
    · exact .inl ⟨_, rfl⟩
    · simp only
      split
      · exact .inl ⟨_, rfl⟩
      · exact .inr ⟨_, _, rfl⟩

/-- On an exempt path everybody is let in, unseen. -/
theorem judge_of_isExempt (h : a.isExempt path = true) :
    a.judge l faults path headers peer seconds = ⟨.exempt, [], 0, l⟩ :=
  if_pos h

/-- On any other path the windows of the caller are checked. -/
theorem judge_of_not_isExempt (h : a.isExempt path = false) :
    a.judge l faults path headers peer seconds
      = check l faults (a.callerOf headers peer) seconds :=
  if_neg (by simp [h])

/-- Only exempt paths are let in unseen. -/
theorem isExempt_of_exempt
    (h : (a.judge l faults path headers peer seconds).verdict = .exempt) :
    a.isExempt path = true := by
  rcases hexempt : a.isExempt path with _ | _
  · rw [judge_of_not_isExempt hexempt] at h
    rcases verdict_check l faults (a.callerOf headers peer) seconds with
      ⟨quota, hverdict⟩ | ⟨scope, decision, hverdict⟩
    · rw [hverdict] at h
      cases h
    · rw [hverdict] at h
      cases h
  · rfl

end Admission

/-- Who is let in, and the quota that the caller is told about: on an exempt path everybody, unseen. -/
def Verdict.pass? : Verdict → Option (Option Caller × Option QuotaState)
  | .exempt => some (none, none)
  | .admitted caller quota => some (some caller, quota)
  | .refused _ _ => none

/-! ### What a request comes to -/

namespace Server

/-- What was configured about a server. -/
structure Settings where
  routes : RouteTable
  admission : Admission
  criticalServices : List String
  maxBodySize : Nat
  requestTimeout : Duration
  healthCheck : HealthCheckConfig

/-- The settings of a server. -/
def settings (s : Server) : Settings :=
  ⟨s.routes, s.admission, s.criticalServices, s.maxBodySize, s.requestTimeout, s.healthCheck⟩

/-- The caller of a request as admission resolves it: nobody on an exempt path. -/
def callerOf? (s : Server) (i : Inbound) : Option Caller :=
  if s.admission.isExempt i.uri.path then none
  else some (s.admission.callerOf i.headers i.peer)

/-- The delivery that a request made by `caller` turns into, if its path has a route. -/
def delivery? (s : Server) (times : VisitTimes) (backend : Backend) (i : Inbound)
    (caller : Option Caller) : Option Delivery :=
  match Resource.ofPath i.uri.path with
  | .proxy =>
    (s.routes.lookup i.uri.path).map fun m =>
      { before := s.registry
        errand :=
          { times := times.toForwardTimes
            timeout := s.requestTimeout
            request := i.request s.maxBodySize caller
            service := m.service
            targetPath := m.targetPath
            backend } }
  | .health _ | .nothing => none

/-- What admission says about a request. -/
def judged (s : Server) (times : VisitTimes) (faults : Faults) (i : Inbound) : Admitted :=
  s.admission.judge s.limiter faults i.uri.path i.headers i.peer times.checkSeconds

/-- The delivery that a request turns into, if it gets so far: it does not say that it is too large,
it is let in, and its path has a route. -/
def admittedDelivery? (s : Server) (times : VisitTimes) (faults : Faults) (backend : Backend)
    (i : Inbound) : Option Delivery :=
  if i.isTooLarge s.maxBodySize then none
  else
    match (s.judged times faults i).verdict with
    | .exempt => s.delivery? times backend i none
    | .admitted caller _ => s.delivery? times backend i (some caller)
    | .refused _ _ => none

/-- What comes of a request is told by the delivery that it turns into, and by the quota that the
caller is told about. -/
structure Follows (s : Server) (served : Served) (quota : Option QuotaState)
    (d? : Option Delivery) : Prop where
  registry : served.server.registry = d?.elim s.registry fun d => d.result.registry
  sent : served.sent = d?.bind fun d => d.result.sent
  response : ∀ d, d? = some d → served.response = d.response.withQuota quota
  settings : served.server.settings = s.settings

/-- A request that is let in follows its delivery. -/
theorem follows_answer (s : Server) (times : VisitTimes) (backend : Backend) (i : Inbound)
    (caller : Option Caller) :
    Follows s (s.answer times backend i caller) none (s.delivery? times backend i caller) := by
  rw [answer, delivery?]
  rcases Resource.ofPath i.uri.path with path | _ | _
  · exact ⟨rfl, rfl, fun d hd => (Option.some_ne_none d hd.symm).elim, rfl⟩
  · simp only [proxy, Inbound.request]
    rcases s.routes.lookup i.uri.path with _ | m
    · exact ⟨rfl, rfl, fun d hd => (Option.some_ne_none d hd.symm).elim, rfl⟩
    · rw [Option.map_some]
      simp only
      split
      · next response hanswer =>
          refine ⟨rfl, rfl, fun d hd => ?_, rfl⟩
          rw [← Option.some.inj hd, Delivery.response, Delivery.result, hanswer]
          rfl
      · next e hanswer =>
          refine ⟨rfl, rfl, fun d hd => ?_, rfl⟩
          rw [← Option.some.inj hd, Delivery.response, Delivery.result, hanswer]
          rfl
  · exact ⟨rfl, rfl, fun d hd => (Option.some_ne_none d hd.symm).elim, rfl⟩

/-- **A request follows its delivery**, if it turns into one. -/
theorem follows_handle (s : Server) (times : VisitTimes) (faults : Faults) (backend : Backend)
    (i : Inbound) :
    ∃ quota, Follows s (s.handle times faults backend i) quota
      (s.admittedDelivery? times faults backend i) := by
  rw [handle, admittedDelivery?, judged]
  split
  · exact ⟨none, rfl, rfl, fun d hd => (Option.some_ne_none d hd.symm).elim, rfl⟩
  · simp only
    generalize s.admission.judge s.limiter faults i.uri.path i.headers i.peer times.checkSeconds = a
    -- what meets the request then is the server with another limiter
    have hfollows := follows_answer (s.afterAdmission a) times backend i
    rcases a.verdict with _ | ⟨caller, quota⟩ | ⟨scope, decision⟩
    · obtain ⟨hregistry, hsent, hresponse, hsettings⟩ := hfollows none
      exact ⟨none, hregistry, hsent, hresponse, hsettings⟩
    · obtain ⟨hregistry, hsent, hresponse, hsettings⟩ := hfollows (some caller)
      exact ⟨quota, hregistry, hsent,
        fun d hd => congrArg (Response.withQuota · quota) (hresponse d hd), hsettings⟩
    · exact ⟨none, rfl, rfl, fun d hd => (Option.some_ne_none d hd.symm).elim, rfl⟩

variable {s : Server} {times : VisitTimes} {faults : Faults} {backend : Backend} {i : Inbound}

/-- Who makes the request, and the quota that the caller is told about, if the request does not say
that it is too large and is let in. -/
def pass? (s : Server) (times : VisitTimes) (faults : Faults) (i : Inbound) :
    Option (Option Caller × Option QuotaState) :=
  if i.isTooLarge s.maxBodySize then none else (s.judged times faults i).verdict.pass?

/-- No call on the store of the limiter is made for an answer. -/
theorem calls_answer (s : Server) (times : VisitTimes) (backend : Backend) (i : Inbound)
    (caller : Option Caller) : (s.answer times backend i caller).calls = [] := by
  rw [answer]
  split
  · rfl
  · rw [proxy]
    split
    · rfl
    · simp only
      split <;> rfl
  · rfl

/-- **A request that is let in** is answered by the server after admission, and the caller is told
about the quota. -/
theorem handle_of_pass? {caller : Option Caller} {quota : Option QuotaState}
    (h : s.pass? times faults i = some (caller, quota)) :
    s.handle times faults backend i
      = { (s.afterAdmission (s.judged times faults i)).answer times backend i caller with
          response := (((s.afterAdmission (s.judged times faults i)).answer times backend i
            caller).response).withQuota quota
          calls := (s.judged times faults i).calls } := by
  rw [pass?] at h
  split at h
  · cases h
  · next hsize =>
      rw [handle, if_neg hsize, ← judged]
      simp only
      rcases hverdict : (s.judged times faults i).verdict with
        _ | ⟨caller', quota'⟩ | ⟨scope, decision⟩
      · rw [hverdict] at h
        cases h
        have hunseen : (s.judged times faults i).calls = [] := by
          rw [judged, Admission.judge_of_isExempt (Admission.isExempt_of_exempt hverdict)]
        have hcalls : (s.judged times faults i).calls
            = ((s.afterAdmission (s.judged times faults i)).answer times backend i none).calls :=
          hunseen.trans (calls_answer ..).symm
        rw [hcalls]
        rfl
      · rw [hverdict] at h
        cases h
        rfl
      · rw [hverdict] at h
        cases h

/-- The delivery of a request that is let in. -/
theorem admittedDelivery?_of_pass? {caller : Option Caller} {quota : Option QuotaState}
    (h : s.pass? times faults i = some (caller, quota)) :
    s.admittedDelivery? times faults backend i = s.delivery? times backend i caller := by
  rw [pass?] at h
  split at h
  · cases h
  · next hsize =>
      rw [admittedDelivery?, if_neg hsize]
      rcases hverdict : (s.judged times faults i).verdict with
        _ | ⟨caller', quota'⟩ | ⟨scope, decision⟩
      · rw [hverdict] at h
        cases h
        rfl
      · rw [hverdict] at h
        cases h
        rfl
      · rw [hverdict] at h
        cases h

/-- **A request that is refused** is told so, and how long to wait. -/
theorem handle_of_refused (hsize : i.isTooLarge s.maxBodySize = false) {scope : Scope}
    {decision : Decision} (h : (s.judged times faults i).verdict = .refused scope decision) :
    s.handle times faults backend i
      = { response := .refusal scope decision times.refusal.seconds
          calls := (s.judged times faults i).calls
          server := (s.afterAdmission (s.judged times faults i)).noteRefusal scope } := by
  rw [handle, if_neg (by simp [hsize]), ← judged]
  simp only [h]

/-- A request that says that it is too large is told so, and nothing else happens. -/
theorem handle_of_isTooLarge (h : i.isTooLarge s.maxBodySize = true) :
    s.handle times faults backend i = { response := .tooLarge, server := s } :=
  if_pos h

/-- **Three ways**: a request says that it is too large, is refused, or is let in. -/
theorem handle_cases (s : Server) (times : VisitTimes) (faults : Faults) (i : Inbound) :
    i.isTooLarge s.maxBodySize = true ∨
      (i.isTooLarge s.maxBodySize = false ∧
        ∃ scope decision, (s.judged times faults i).verdict = .refused scope decision) ∨
      ∃ caller quota, s.pass? times faults i = some (caller, quota) := by
  rw [pass?]
  rcases i.isTooLarge s.maxBodySize with _ | _
  · rcases (s.judged times faults i).verdict with _ | ⟨caller, quota⟩ | ⟨scope, decision⟩
    · exact .inr (.inr ⟨none, none, rfl⟩)
    · exact .inr (.inr ⟨some caller, quota, rfl⟩)
    · exact .inr (.inl ⟨rfl, scope, decision, rfl⟩)
  · exact .inl rfl

/-- The path of a delivery is the proxy's, and its route leads to the service. -/
theorem exists_lookup_of_delivery? {caller : Option Caller} {d : Delivery}
    (h : s.delivery? times backend i caller = some d) :
    Resource.ofPath i.uri.path = .proxy ∧ ∃ m, s.routes.lookup i.uri.path = some m ∧
      d = { before := s.registry
            errand :=
              { times := times.toForwardTimes
                timeout := s.requestTimeout
                request := i.request s.maxBodySize caller
                service := m.service
                targetPath := m.targetPath
                backend } } := by
  rw [delivery?] at h
  split at h
  · next hresource =>
      obtain ⟨m, hlookup, hd⟩ := Option.map_eq_some_iff.mp h
      exact ⟨hresource, m, hlookup, hd.symm⟩
  · cases h
  · cases h

/-- A delivery meets the registry of the server, and takes the request to the instances. -/
theorem of_delivery? {caller : Option Caller} {d : Delivery}
    (h : s.delivery? times backend i caller = some d) :
    d.before = s.registry ∧ d.errand.backend = backend ∧ d.errand.times = times.toForwardTimes ∧
      d.errand.request = i.request s.maxBodySize caller := by
  obtain ⟨-, m, -, rfl⟩ := exists_lookup_of_delivery? h
  exact ⟨rfl, rfl, rfl, rfl⟩

/-- A request that was let in does not say that it is too large, and is delivered for the caller as
admission resolves it. -/
theorem delivery?_of_admittedDelivery? {d : Delivery}
    (h : s.admittedDelivery? times faults backend i = some d) :
    i.isTooLarge s.maxBodySize = false ∧ s.delivery? times backend i (s.callerOf? i) = some d := by
  rw [admittedDelivery?, judged] at h
  split at h
  · cases h
  · next hsize =>
      refine ⟨by simpa using hsize, ?_⟩
      rcases hexempt : s.admission.isExempt i.uri.path with _ | _
      · rw [Admission.judge_of_not_isExempt hexempt] at h
        rw [callerOf?, hexempt, if_neg Bool.false_ne_true]
        rcases Admission.verdict_check s.limiter faults (s.admission.callerOf i.headers i.peer)
          times.checkSeconds with ⟨quota, hverdict⟩ | ⟨scope, decision, hverdict⟩
        · rw [hverdict] at h
          exact h
        · rw [hverdict] at h
          cases h
      · rw [Admission.judge_of_isExempt hexempt] at h
        rw [callerOf?, hexempt, if_pos rfl]
        exact h

/-- The delivery of a request that was let in meets the registry of the server, and takes the
request to the instances, with the caller as admission resolves it. -/
theorem of_admittedDelivery? {d : Delivery} (h : s.admittedDelivery? times faults backend i = some d) :
    i.isTooLarge s.maxBodySize = false ∧ d.before = s.registry ∧ d.errand.backend = backend ∧
      d.errand.times = times.toForwardTimes ∧
      d.errand.request = i.request s.maxBodySize (s.callerOf? i) := by
  obtain ⟨hsize, hd⟩ := delivery?_of_admittedDelivery? h
  exact ⟨hsize, of_delivery? hd⟩

end Server

/-! ### Runs of a server -/

/-- A request, with what the clock says, and what the store of the limiter and the instances do
meanwhile. -/
structure Visit where
  times : VisitTimes
  faults : Faults
  backend : Backend
  inbound : Inbound

/-- A visit and the server that it met. -/
structure Reception where
  server : Server
  visit : Visit

namespace Reception

/-- What comes of the visit. -/
def served (x : Reception) : Server.Served :=
  x.server.handle x.visit.times x.visit.faults x.visit.backend x.visit.inbound

/-- The delivery that the visit turns into, if it gets so far. -/
def delivery? (x : Reception) : Option Delivery :=
  x.server.admittedDelivery? x.visit.times x.visit.faults x.visit.backend x.visit.inbound

/-- The operations that the visit stands for. -/
def operations (x : Reception) : List Operation :=
  x.delivery?.elim [] Delivery.operations

/-- A visit follows its delivery, if it turns into one. -/
theorem follows_served (x : Reception) :
    ∃ quota, Server.Follows x.server x.served quota x.delivery? :=
  Server.follows_handle ..

/-- **A visit does to the registry what its operations do.** -/
theorem registry_served (x : Reception) :
    x.served.server.registry = x.server.registry.run x.operations := by
  obtain ⟨quota, hfollows⟩ := x.follows_served
  rw [hfollows.registry, operations]
  rcases hd : x.delivery? with _ | d
  · rfl
  · rw [Option.elim_some, Option.elim_some, Delivery.registry_result,
      (Server.of_admittedDelivery? hd).2.1]

/-- Whatever is sent for a visit is sent by its delivery. -/
theorem exists_of_sent {x : Reception} {o : Outbound} (h : x.served.sent = some o) :
    ∃ d, x.delivery? = some d ∧ d.result.sent = some o := by
  obtain ⟨quota, hfollows⟩ := x.follows_served
  rw [hfollows.sent] at h
  exact Option.bind_eq_some_iff.mp h

/-- A visit keeps the settings of the server. -/
theorem settings_served (x : Reception) : x.served.server.settings = x.server.settings := by
  obtain ⟨quota, hfollows⟩ := x.follows_served
  exact hfollows.settings

end Reception

namespace Server

/-- All visits in turn. -/
def receiveAll (s : Server) (visits : List Visit) : Server :=
  visits.foldl (fun s v => (Reception.served ⟨s, v⟩).server) s

/-- The record of a run: every visit with the server that it met. -/
def receptions (s : Server) : List Visit → List Reception
  | [] => []
  | v :: rest => ⟨s, v⟩ :: (Reception.served ⟨s, v⟩).server.receptions rest

/-- The operations that the visits stand for. -/
def recorded (s : Server) (visits : List Visit) : List Operation :=
  (s.receptions visits).flatMap Reception.operations

/-- Every visit is received, in turn. -/
theorem map_visit_receptions (s : Server) (visits : List Visit) :
    (s.receptions visits).map Reception.visit = visits := by
  induction visits generalizing s with
  | nil => rfl
  | cons v rest ih => rw [receptions, List.map_cons, ih]

/-- The settings are the same in every run. -/
theorem settings_of_mem_receptions {s : Server} {visits : List Visit} {x : Reception}
    (h : x ∈ s.receptions visits) : x.server.settings = s.settings := by
  induction visits generalizing s with
  | nil => cases h
  | cons v rest ih =>
      rcases List.mem_cons.mp h with rfl | h
      · rfl
      · rw [ih h, Reception.settings_served]

/-- **Visits do to the registry what their operations do.** -/
theorem registry_receiveAll (s : Server) (visits : List Visit) :
    (s.receiveAll visits).registry = s.registry.run (s.recorded visits) := by
  induction visits generalizing s with
  | nil => rfl
  | cons v rest ih =>
      rw [receiveAll, List.foldl_cons, ← receiveAll, ih, recorded, recorded, receptions,
        List.flatMap_cons, Registry.run_append, Reception.registry_served]

/-! ### Lives -/

/-- What happens to a server. -/
inductive Event where
  /-- A request comes in. -/
  | visit (v : Visit)
  /-- The monitor is started. -/
  | start (doneAt : Nat → String → Timestamp) (backend : Backend)
  /-- Time passes, and the monitor runs the cycles that are due then. -/
  | advance (by_ : Duration) (doneAt : Nat → String → Timestamp) (backend : Backend)
  /-- Something happens to the registry, as it does while other requests are on their way. -/
  | registry (event : Registry.Event)

/-- The server after an event. -/
def meet (s : Server) : Event → Server
  | .visit v => (Reception.served ⟨s, v⟩).server
  | .start doneAt backend => (s.start doneAt backend).2
  | .advance by_ doneAt backend => (s.advance by_ doneAt backend).2
  | .registry event => { s with registry := s.registry.meet event }

/-- The server after some events. -/
def meetAll (s : Server) (events : List Event) : Server :=
  events.foldl meet s

/-- Cycles of the monitor keep the settings, and are cycles of the registry. -/
theorem runCycles_keeps (doneAt : Nat → String → Timestamp) (backend : Backend) (n : Nat)
    (s : Server) :
    (runCycles doneAt backend n s).2.settings = s.settings ∧
      ∃ met, (runCycles doneAt backend n s).2.registry = s.registry.meetAll met := by
  induction n generalizing s with
  | zero => exact ⟨rfl, [], rfl⟩
  | succ n ih =>
      obtain ⟨hsettings, met, hmet⟩ := ih (s.cycle (doneAt s.cycles) backend).2
      let timeout := Duration.ofSeconds s.healthCheck.timeoutSeconds
      exact ⟨hsettings, .cycle (doneAt s.cycles) timeout backend :: met, hmet⟩

/-- **An event** keeps the settings, and what it makes of the registry is a part of the registry's
own life. -/
theorem meet_keeps (s : Server) (event : Event) :
    (s.meet event).settings = s.settings ∧
      ∃ met, (s.meet event).registry = s.registry.meetAll met := by
  cases event with
  | visit v =>
      refine ⟨Reception.settings_served ⟨s, v⟩, ?_⟩
      obtain ⟨quota, hfollows⟩ := Reception.follows_served ⟨s, v⟩
      rw [meet, hfollows.registry]
      rcases hd : Reception.delivery? ⟨s, v⟩ with _ | d
      · exact ⟨[], rfl⟩
      · have hbefore : d.before = s.registry := (of_admittedDelivery? hd).2.1
        refine ⟨[.errand d.errand], ?_⟩
        rw [Option.elim_some, ← hbefore]
        rfl
  | start doneAt backend => exact runCycles_keeps doneAt backend _ s
  | advance by_ doneAt backend => exact runCycles_keeps doneAt backend _ _
  | registry event => exact ⟨rfl, [event], rfl⟩

/-- **The life of a server** keeps its settings, and contains a life of its registry. -/
theorem meetAll_keeps (s : Server) (events : List Event) :
    (s.meetAll events).settings = s.settings ∧
      ∃ met, (s.meetAll events).registry = s.registry.meetAll met := by
  induction events generalizing s with
  | nil => exact ⟨rfl, [], rfl⟩
  | cons event rest ih =>
      obtain ⟨hsettings, met, hmet⟩ := meet_keeps s event
      obtain ⟨ihsettings, later, hlater⟩ := ih (s.meet event)
      refine ⟨ihsettings.trans hsettings, met ++ later, ?_⟩
      rw [meetAll, List.foldl_cons, ← meetAll, hlater, hmet, Registry.meetAll, Registry.meetAll,
        Registry.meetAll, List.foldl_append]

/-! ### The record of a life -/

/-- The visit that an event is, with the server that it meets. -/
def reception? (s : Server) : Event → Option Reception
  | .visit v => some ⟨s, v⟩
  | .start .. | .advance .. | .registry _ => none

/-- The record of a life: every visit with the server that it met. -/
def record (s : Server) : List Event → List Reception
  | [] => []
  | event :: rest => (s.reception? event).toList ++ (s.meet event).record rest

/-- One event more. -/
theorem meetAll_append_singleton (s : Server) (events : List Event) (event : Event) :
    s.meetAll (events ++ [event]) = (s.meetAll events).meet event := by
  rw [meetAll, List.foldl_append, List.foldl_cons, List.foldl_nil, ← meetAll]

/-- The record of one event more. -/
theorem record_append_singleton (s : Server) (events : List Event) (event : Event) :
    s.record (events ++ [event])
      = s.record events ++ ((s.meetAll events).reception? event).toList := by
  induction events generalizing s with
  | nil => simp [record, meetAll]
  | cons first rest ih =>
      rw [List.cons_append, record, record, ih, List.append_assoc]
      rfl

/-- The visit that an event is. -/
def Event.visit? : Event → Option Visit
  | .visit v => some v
  | .start .. | .advance .. | .registry _ => none

/-- All visits of a life are in its record, in order. -/
theorem map_visit_record (s : Server) (events : List Event) :
    (s.record events).map Reception.visit = events.filterMap Event.visit? := by
  induction events generalizing s with
  | nil => rfl
  | cons event rest ih =>
      rw [record, List.map_append, ih]
      cases event <;> rfl

/-- **A place of the record** is a visit after a part of the life, whose record is what comes before
it. -/
theorem exists_of_record_eq {s : Server} {events : List Event} {past later : List Reception}
    {x : Reception} (h : s.record events = past ++ x :: later) :
    ∃ before event after, events = before ++ event :: after ∧ s.record before = past ∧
      (s.meetAll before).reception? event = some x := by
  induction events generalizing s past with
  | nil => simp [record] at h
  | cons event rest ih =>
      rw [record] at h
      rcases hvisit : s.reception? event with _ | y
      · rw [hvisit] at h
        obtain ⟨before, found, after, rfl, hpast, hfound⟩ := ih h
        refine ⟨event :: before, found, after, rfl, ?_, hfound⟩
        rw [record, hvisit, hpast]
        rfl
      · rw [hvisit, Option.toList_some, List.singleton_append] at h
        cases past with
        | nil =>
            rw [List.nil_append, List.cons.injEq] at h
            exact ⟨[], event, rest, rfl, rfl, hvisit.trans (congrArg some h.1)⟩
        | cons z past =>
            rw [List.cons_append, List.cons.injEq] at h
            obtain ⟨before, found, after, rfl, hpast, hfound⟩ := ih h.2
            refine ⟨event :: before, found, after, rfl, ?_, hfound⟩
            rw [record, hvisit, hpast, h.1]
            rfl

/-- The server after a visit is the one that the visit leaves. -/
theorem meet_of_reception?_eq_some {s : Server} {event : Event} {x : Reception}
    (h : s.reception? event = some x) : s.meet event = x.served.server ∧ x.server = s := by
  cases event with
  | visit v =>
      obtain rfl := Option.some.inj h
      exact ⟨rfl, rfl⟩
  | start doneAt backend => cases h
  | advance by_ doneAt backend => cases h
  | registry event => cases h

/-- Cycles of the monitor touch neither the limiter nor the log of requests. -/
theorem runCycles_apart (doneAt : Nat → String → Timestamp) (backend : Backend) (n : Nat)
    (s : Server) :
    (runCycles doneAt backend n s).2.limiter = s.limiter ∧
      (runCycles doneAt backend n s).2.requestLog = s.requestLog := by
  induction n generalizing s with
  | zero => exact ⟨rfl, rfl⟩
  | succ n ih => exact ih (s.cycle (doneAt s.cycles) backend).2

/-- **Only visits** touch the limiter and the log of requests; what else happens, happens to the
registry. -/
theorem meet_of_reception?_eq_none {s : Server} {event : Event} (h : s.reception? event = none) :
    (s.meet event).limiter = s.limiter ∧ (s.meet event).requestLog = s.requestLog := by
  cases event with
  | visit v => cases h
  | start doneAt backend => exact runCycles_apart doneAt backend _ s
  | advance by_ doneAt backend => exact runCycles_apart doneAt backend _ _
  | registry event => exact ⟨rfl, rfl⟩

/-- The settings are the same throughout a life. -/
theorem settings_of_mem_record {s : Server} {events : List Event} {x : Reception}
    (h : x ∈ s.record events) : x.server.settings = s.settings := by
  induction events using List.reverseRecOn with
  | nil => cases h
  | append_singleton rest event ih =>
      rw [record_append_singleton, List.mem_append, Option.mem_toList] at h
      rcases h with h | h
      · exact ih h
      · rw [(meet_of_reception?_eq_some h).2]
        exact (meetAll_keeps s rest).1

end Server

end Tollgate
