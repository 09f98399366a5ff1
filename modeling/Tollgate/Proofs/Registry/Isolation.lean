import Tollgate.Proofs.Registry.Invariant

/-!
# Services do not see each other

All that a registry shows of a service is the policy, its endpoint, and what was measured about it
(`Registry.viewOf`). Whoever acts on a service sees and changes its view and no other one: that is
what it means for an action to be confined (`Confined`), and it is shown once for each action, here
for single operations and for requests that are forwarded. All that follows is about folds of
confined actions: what they make of one service is what those among them make that name it, and two
of them on different services can change places.

## Main results

* `Confined.foldl`, `Confined.comm`, `Confined.foldl_perm`: what confined actions make of one view.
* `Registry.confined_perform`, `Registry.confined_meetCall`: operations and calls are confined.
* `Registry.result_congr`: what a call returns is a matter of the view of its service.
* `Registry.filter_answers`: what the calls of a service return does not depend on the other calls.
-/

namespace Tollgate

/-! ### Confined actions -/

/-- **Confined actions**: each of them names a service, leaves the views of the others as they are,
and what it makes of the view of its own is a matter of that view. -/
structure Confined {σ α ν : Type} (view : σ → String → ν) (act : σ → α → σ)
    (service : α → String) : Prop where
  elsewhere : ∀ s a name, service a ≠ name → view (act s a) name = view s name
  own : ∀ s s' a, view s (service a) = view s' (service a) →
    view (act s a) (service a) = view (act s' a) (service a)

namespace Confined

variable {σ α ν : Type} {view : σ → String → ν} {act : σ → α → σ} {service : α → String}

/-- A confined action makes the same of the same view. -/
theorem congr (h : Confined view act service) {s s' : σ} {name : String}
    (hsame : view s name = view s' name) (a : α) : view (act s a) name = view (act s' a) name := by
  by_cases hname : service a = name
  · subst hname
    exact h.own s s' a hsame
  · rw [h.elsewhere s a name hname, h.elsewhere s' a name hname, hsame]

/-- **What confined actions make of a view** is what those make of it that name its service. -/
theorem foldl (h : Confined view act service) {s s' : σ} {name : String}
    (hsame : view s name = view s' name) (actions : List α) :
    view (actions.foldl act s) name
      = view ((actions.filter fun a => service a = name).foldl act s') name := by
  induction actions generalizing s s' with
  | nil => exact hsame
  | cons a rest ih =>
      by_cases hname : service a = name
      · rw [List.filter_cons_of_pos (by simpa using hname), List.foldl_cons, List.foldl_cons]
        exact ih (h.congr hsame a)
      · rw [List.filter_cons_of_neg (by simpa using hname), List.foldl_cons]
        exact ih ((h.elsewhere s a name hname).trans hsame)

/-- **Confined actions on different services commute.** -/
theorem comm (h : Confined view act service) {a b : α} (hne : service a ≠ service b) (s : σ)
    (name : String) : view (act (act s a) b) name = view (act (act s b) a) name := by
  by_cases hb : service b = name
  · have ha : service a ≠ name := hb ▸ hne
    rw [h.elsewhere _ a name ha]
    exact h.congr (h.elsewhere s a name ha) b
  · rw [h.elsewhere _ b name hb]
    exact h.congr (h.elsewhere s b name hb).symm a

/-- **Confined actions on distinct services** can be done in any order. -/
theorem foldl_perm (h : Confined view act service) {actions actions' : List α}
    (hperm : actions.Perm actions') (hdistinct : (actions.map service).Nodup) (s : σ)
    (name : String) : view (actions.foldl act s) name = view (actions'.foldl act s) name := by
  have hown : (actions.filter fun a => service a = name)
      = actions'.filter fun a => service a = name := by
    have hfiltered := hperm.filter fun a => service a = name
    -- at most one of them names the service, so nothing can change places
    have hone : (actions.filter fun a => service a = name).length ≤ 1 := by
      have hcount := List.nodup_iff_count_le_one.mp hdistinct name
      rwa [List.count, List.countP_map, List.countP_eq_length_filter] at hcount
    rcases hcases : actions.filter fun a => service a = name with _ | ⟨a, _ | ⟨b, rest⟩⟩
    · rw [hcases] at hfiltered
      exact hfiltered.nil_eq
    · rw [hcases] at hfiltered
      exact hfiltered.singleton_eq
    · rw [hcases] at hone
      simp at hone
  rw [h.foldl rfl, h.foldl rfl actions', hown]

end Confined

/-! ### Views -/

namespace Measurement

/-- The measurement is labelled with the service. -/
def isOf (name : String) (m : Measurement) : Bool :=
  m.series.labels.contains ("service", name)

end Measurement

namespace Metrics

/-- What was measured about a service, oldest first. -/
def ofService (m : Metrics) (name : String) : Metrics :=
  m.filter (Measurement.isOf name)

/-- What is measured later comes behind. -/
theorem ofService_append (m more : Metrics) (name : String) :
    Metrics.ofService (m ++ more) name = m.ofService name ++ more.ofService name :=
  List.filter_append ..

/-- Measurements of another service are none of this one. -/
theorem ofService_eq_nil {m : Metrics} {service name : String} (hne : service ≠ name)
    (h : ∀ x ∈ m, x.series.labels = [("service", service)]) : m.ofService name = [] := by
  rw [ofService, List.filter_eq_nil_iff]
  intro x hx
  simp [Measurement.isOf, h x hx, Ne.symm hne]

/-- One measurement more is kept if it is about the service. -/
theorem ofService_append_singleton (m : Metrics) (x : Measurement) (name : String) :
    Metrics.ofService (m ++ [x]) name
      = m.ofService name ++ if x.isOf name then [x] else [] := by
  rw [ofService_append, ofService, ofService, List.filter_singleton, cond_eq_ite]

/-- The last value of a level, after one measurement more. -/
theorem level?_append_singleton (m : Metrics) (x : Measurement) (s : Series) :
    Metrics.level? (m ++ [x]) s
      = match x with
        | .level t v => if t = s then some v else m.level? s
        | _ => m.level? s := by
  rw [level?, List.foldl_append]
  rfl

variable {s : Series} {name : String}

/-- **The levels of a service** are seen in what was measured about it. -/
theorem level?_ofService (h : ("service", name) ∈ s.labels) (m : Metrics) :
    (m.ofService name).level? s = m.level? s := by
  induction m using List.reverseRecOn with
  | nil => rfl
  | append_singleton rest x ih =>
      rw [ofService_append_singleton, level?_append_singleton]
      by_cases hof : x.isOf name = true
      · rw [if_pos hof, level?_append_singleton, ih]
      · rw [if_neg hof, List.append_nil, ih]
        -- a measurement of the series itself would be one of the service
        cases x with
        | increment t => rfl
        | sample t v => rfl
        | level t v =>
            have hne : t ≠ s := by
              rintro rfl
              exact hof (by simpa [Measurement.isOf, Measurement.series] using h)
            exact (if_neg hne).symm

end Metrics

namespace Registry

/-- All that a registry shows of a service. -/
structure View where
  policy : BreakerPolicy
  endpoint : Option Endpoint
  metrics : Metrics
deriving DecidableEq

/-- A view with more measured. -/
def View.extend (v : View) (more : Metrics) : View :=
  { v with metrics := v.metrics ++ more }

/-- The view of a service. -/
def viewOf (r : Registry) (name : String) : View :=
  ⟨r.policy, r.find? name, r.metrics.ofService name⟩

/-! ### One operation -/

/-- What an operation measures: an opened circuit, if it opens one. -/
def measured (r : Registry) (o : Operation) : Metrics :=
  if (r.find? o.service).bind (fun e => e.outcome? r.policy o) = some .opened then
    [.increment (Metrics.circuitOpened o.service)]
  else []

/-- **What an operation measures** is put behind what was measured before. -/
theorem metrics_perform (r : Registry) (o : Operation) :
    (r.perform o).metrics = r.metrics ++ r.measured o := by
  rw [measured]
  rcases he : r.find? o.service with _ | e
  · rw [perform_of_find?_eq_none he]
    simp
  · rw [perform_of_find?_eq_some he, noteOutcome, Option.bind_some]
    split <;> simp

/-- An operation measures something about its own service only. -/
theorem labels_of_mem_measured {r : Registry} {o : Operation} {x : Measurement}
    (h : x ∈ r.measured o) : x.series.labels = [("service", o.service)] := by
  rw [measured] at h
  split at h
  · rw [List.mem_singleton.mp h]
    rfl
  · cases h

/-- **Operations are confined** to the services they name. -/
theorem confined_perform : Confined viewOf perform Operation.service where
  elsewhere := by
    intro r o name hne
    have hnothing : (r.measured o).ofService name = [] :=
      Metrics.ofService_eq_nil hne fun x hx => labels_of_mem_measured hx
    rw [viewOf, viewOf, policy_perform, find?_perform, if_neg hne, metrics_perform,
      Metrics.ofService_append, hnothing, List.append_nil]
  own := by
    intro r r' o hsame
    simp only [viewOf, View.mk.injEq] at hsame
    obtain ⟨hpolicy, hfind, hmetrics⟩ := hsame
    have hmeasured : r.measured o = r'.measured o := by
      rw [measured, measured, hfind, hpolicy]
    rw [viewOf, viewOf, policy_perform, policy_perform, find?_perform, find?_perform, if_pos rfl,
      if_pos rfl, metrics_perform, metrics_perform, Metrics.ofService_append,
      Metrics.ofService_append, hpolicy, hfind, hmetrics, hmeasured]

/-! ### Calls -/

/-- A call of the registry by its name: an operation, or a request to be forwarded. -/
inductive Call where
  | operation (o : Operation)
  | errand (x : Errand)

/-- What a call returns. -/
inductive Result where
  | selected (choice : Except SelectError String)
  | recorded
  | failed (outcome : Option FailureOutcome)
  | probed (change : Option (Status × Status))
  | forwarded (answer : Except GatewayError Response) (sent : Option Outbound) (elapsed : Duration)

namespace Call

/-- The service that is named. -/
def service : Call → String
  | operation o => o.service
  | errand x => x.service

/-- What happens to the registry by the call. -/
def event : Call → Event
  | operation o => .operation o
  | errand x => .errand x

end Call

/-- What a call returns. -/
def result (r : Registry) : Call → Result
  | .operation (.select service now) => .selected (r.select service now).1
  | .operation (.success _ _) => .recorded
  | .operation (.failure service now) => .failed (r.recordFailure service now).1
  | .operation (.probes service healthy latency now) =>
    .probed (r.applyProbeCycle service healthy latency now).1
  | .errand x =>
    .forwarded (Delivery.result ⟨r, x⟩).answer (Delivery.result ⟨r, x⟩).sent
      (Delivery.result ⟨r, x⟩).elapsed

/-- The registry after a call. -/
def meetCall (r : Registry) (c : Call) : Registry :=
  r.meet c.event

/-- The calls and what each of them returns, one after the other. -/
def answers (r : Registry) : List Call → List (Call × Result)
  | [] => []
  | c :: rest => (c, r.result c) :: (r.meetCall c).answers rest

/-- What selection answers is a matter of the endpoint. -/
theorem select_fst_congr {r r' : Registry} {name : String} (h : r.find? name = r'.find? name)
    (now : Timestamp) : (r.select name now).1 = (r'.select name now).1 := by
  rw [select, select, h]
  rcases r'.find? name with _ | e
  · rfl
  · simp only
    split <;> rfl

/-- What comes of an errand, but for the registry, is a matter of the endpoint. -/
theorem result_errand_congr {r r' : Registry} {x : Errand}
    (h : r.find? x.service = r'.find? x.service) :
    (Delivery.result ⟨r, x⟩).answer = (Delivery.result ⟨r', x⟩).answer ∧
      (Delivery.result ⟨r, x⟩).sent = (Delivery.result ⟨r', x⟩).sent ∧
      (Delivery.result ⟨r, x⟩).elapsed = (Delivery.result ⟨r', x⟩).elapsed := by
  have hchoice := select_fst_congr h x.times.selection
  simp only [Delivery.result, forward]
  rcases hselect : r.select x.service x.times.selection with ⟨choice, after⟩
  rcases hselect' : r'.select x.service x.times.selection with ⟨choice', after'⟩
  obtain rfl : choice = choice' := by
    rw [hselect, hselect'] at hchoice
    exact hchoice
  rcases choice with e | base
  · exact ⟨rfl, rfl, rfl⟩
  · simp only
    split
    · exact ⟨rfl, rfl, rfl⟩
    · split <;> exact ⟨rfl, rfl, rfl⟩

/-- **What a call returns** is a matter of the view of its service. -/
theorem result_congr {r r' : Registry} {c : Call} (h : r.viewOf c.service = r'.viewOf c.service) :
    r.result c = r'.result c := by
  simp only [viewOf, View.mk.injEq] at h
  obtain ⟨hpolicy, hfind, -⟩ := h
  cases c with
  | operation o =>
      cases o with
      | select service now => exact congrArg Result.selected (select_fst_congr hfind now)
      | success service elapsed => rfl
      | failure service now =>
          simp only [Call.service, Operation.service] at hfind
          rw [result, result, recordFailure, recordFailure, hfind, hpolicy]
          rcases r'.find? service with _ | e <;> rfl
      | probes service healthy latency now =>
          simp only [Call.service, Operation.service] at hfind
          rw [result, result, applyProbeCycle, applyProbeCycle, hfind, hpolicy]
          rcases r'.find? service with _ | e <;> rfl
  | errand x =>
      obtain ⟨hanswer, hsent, helapsed⟩ := result_errand_congr (x := x) hfind
      rw [result, result, hanswer, hsent, helapsed]

/-- The operations that a call stands for. -/
def operationsOfCall (r : Registry) (c : Call) : List Operation :=
  r.operationsOf c.event

/-- A call is its operations, one after the other. -/
theorem meetCall_eq_run (r : Registry) (c : Call) : r.meetCall c = r.run (r.operationsOfCall c) := by
  cases c with
  | operation o => rfl
  | errand x => exact Delivery.registry_result ⟨r, x⟩

/-- The operations of a call are on its service. -/
theorem service_of_mem_operationsOfCall {r : Registry} {c : Call} {o : Operation}
    (h : o ∈ r.operationsOfCall c) : o.service = c.service := by
  cases c with
  | operation o' =>
      rw [List.mem_singleton.mp h]
      rfl
  | errand x =>
      rw [operationsOfCall, Call.event, operationsOf, Delivery.operations, List.mem_cons,
        Option.mem_toList, Option.map_eq_some_iff] at h
      rcases h with rfl | ⟨o', -, rfl⟩
      · rfl
      · rw [Delivery.outcome]
        split <;> rfl

/-- Which operations a call stands for is a matter of the view of its service. -/
theorem operationsOfCall_congr {r r' : Registry} {c : Call}
    (h : r.viewOf c.service = r'.viewOf c.service) :
    r.operationsOfCall c = r'.operationsOfCall c := by
  cases c with
  | operation o => rfl
  | errand x =>
      have hfind : r.find? x.service = r'.find? x.service := congrArg View.endpoint h
      obtain ⟨-, hsent, -⟩ := result_errand_congr hfind
      rw [operationsOfCall, operationsOfCall, Call.event, operationsOf, operationsOf,
        Delivery.operations, Delivery.operations, hsent]
      rfl

/-- **Calls are confined** to the services they name. -/
theorem confined_meetCall : Confined viewOf meetCall Call.service where
  elsewhere := by
    intro r c name hne
    have hnone : (r.operationsOfCall c).filter (fun o => o.service = name) = [] := by
      rw [List.filter_eq_nil_iff]
      intro o ho
      simpa [service_of_mem_operationsOfCall ho] using hne
    rw [meetCall_eq_run, run, confined_perform.foldl rfl, hnone, List.foldl_nil]
  own := by
    intro r r' c hsame
    rw [meetCall_eq_run, meetCall_eq_run, operationsOfCall_congr hsame, run, run,
      confined_perform.foldl hsame, ← confined_perform.foldl rfl]

/-- A call that names a service outside the catalogue changes nothing. -/
theorem meetCall_of_not_contains {r : Registry} {c : Call} (h : r.contains c.service = false) :
    r.meetCall c = r := by
  have hfind : r.find? c.service = none := by
    rwa [contains, Option.isSome_eq_false_iff, Option.isNone_iff_eq_none] at h
  have hidle : ∀ o ∈ r.operationsOfCall c, r.perform o = r := fun o ho =>
    perform_of_find?_eq_none (service_of_mem_operationsOfCall ho ▸ hfind)
  rw [meetCall_eq_run, run]
  generalize r.operationsOfCall c = operations at hidle
  induction operations with
  | nil => rfl
  | cons o rest ih =>
      rw [List.forall_mem_cons] at hidle
      rw [List.foldl_cons, hidle.1]
      exact ih hidle.2

/-- Which services there are stays the same. -/
theorem contains_meetCall (r : Registry) (c : Call) (name : String) :
    (r.meetCall c).contains name = r.contains name := by
  rw [Bool.eq_iff_iff, contains_iff_mem, contains_iff_mem, meetCall, map_name_meet]

/-! ### Many calls -/

/-- **Calls that name services outside the catalogue change nothing.** -/
theorem foldl_meetCall_filter_contains (r : Registry) (calls : List Call) :
    calls.foldl meetCall r = (calls.filter fun c => r.contains c.service).foldl meetCall r := by
  have hany : ∀ s : Registry, (∀ name, s.contains name = r.contains name) →
      calls.foldl meetCall s
        = (calls.filter fun c => r.contains c.service).foldl meetCall s := by
    induction calls with
    | nil => exact fun _ _ => rfl
    | cons c rest ih =>
        intro s hsame
        by_cases hknown : r.contains c.service = true
        · rw [List.filter_cons_of_pos (by simpa using hknown), List.foldl_cons, List.foldl_cons]
          exact ih _ fun name => (s.contains_meetCall c name).trans (hsame name)
        · have hunknown : s.contains c.service = false := by
            rw [hsame]
            simpa using hknown
          rw [List.filter_cons_of_neg (by simpa using hknown), List.foldl_cons,
            meetCall_of_not_contains hunknown]
          exact ih s hsame
  exact hany r fun _ => rfl

/-- **What the calls of a service return** does not depend on the other calls. -/
theorem filter_answers {r r' : Registry} {name : String} (h : r.viewOf name = r'.viewOf name)
    (calls : List Call) :
    (r.answers calls).filter (fun a => a.1.service = name)
      = r'.answers (calls.filter fun c => c.service = name) := by
  induction calls generalizing r r' with
  | nil => rfl
  | cons c rest ih =>
      by_cases hname : c.service = name
      · subst hname
        rw [List.filter_cons_of_pos (by simp), answers, answers,
          List.filter_cons_of_pos (by simp), result_congr h,
          ih (confined_meetCall.own r r' c h)]
      · rw [List.filter_cons_of_neg (by simpa using hname), answers,
          List.filter_cons_of_neg (by simpa using hname)]
        exact ih ((confined_meetCall.elsewhere r c name hname).trans h)

end Registry

end Tollgate
