import Mathlib.Data.List.Nodup
import Tollgate.Forward
import Tollgate.Proofs.Registry.Run

/-!
# One attempt, one outcome

Forwarding a request selects an instance, sends at most one request, and records at most one outcome
on the service. Each errand takes exactly one of three courses (`Delivery.Course`): no instance is
selected and the registry stays as it is, or the selected instance has no address and the registry
is what selection made of it, or one request is sent and what became of it is recorded once, a
failure at the time at which the exchange has failed.

What a run of errands makes of a registry is therefore what the operations make of it that the
errands stand for (`Delivery.operations`): one selection each, and one outcome for each request that
was sent.

## Main results

* `Registry.DistinctNames.run`: no two services of a registry have one name, however long it runs.
* `Registry.select_of_error`: a refused selection changes nothing.
* `Registry.one_attempt_one_outcome`: the course of every errand, and the account of a whole run.
-/

namespace Tollgate

/-- A request to be forwarded to a service, and the instances that it may reach. -/
structure Errand where
  times : ForwardTimes
  timeout : Duration
  request : Request
  service : String
  targetPath : String
  backend : Backend

/-- A circuit that lets nothing pass stays as it is. -/
theorem Breaker.tryPass_of_false {b : Breaker} {now : Timestamp} (h : (b.tryPass now).1 = false) :
    (b.tryPass now).2 = b := by
  rw [tryPass] at h ⊢
  split at h
  · cases h
  · split at h
    · cases h
    · next hearly => simp only [if_neg hearly]

/-- A service that takes no traffic stays as it is. -/
theorem Endpoint.available_of_false {e : Endpoint} {now : Timestamp}
    (h : (e.available now).1 = false) : (e.available now).2 = e := by
  by_cases hopen : e.breaker.isOpen = true
  · simp only [available, hopen, if_true] at h ⊢
    rw [Breaker.tryPass_of_false h]
  · simp only [available, hopen, if_false, Bool.false_eq_true]

namespace Operation

/-- The operation records the outcome of a call of the service. -/
def isOutcomeOf (name : String) : Operation → Bool
  | .success service _ => service = name
  | .failure service _ => service = name
  | _ => false

/-- The operation records a successful call of the service. -/
def isSuccessOf (name : String) : Operation → Bool
  | .success service _ => service = name
  | _ => false

end Operation

namespace Registry

/-! ### Distinct names -/

/-- No two services have the same name. -/
def DistinctNames (r : Registry) : Prop :=
  (r.services.map Endpoint.name).Nodup

/-- Replacing an endpoint by one of the same name keeps the names. -/
theorem map_name_replace (r : Registry) (e : Endpoint) :
    (r.replace e).services.map Endpoint.name = r.services.map Endpoint.name := by
  rw [replace, List.map_map]
  refine List.map_congr_left fun f _ => ?_
  rw [Function.comp_apply]
  split
  · next hname => exact hname.symm
  · rfl

/-- Noting an outcome touches no service. -/
@[simp] theorem services_noteOutcome (r : Registry) (name : String)
    (outcome : Option FailureOutcome) : (r.noteOutcome name outcome).services = r.services := by
  rw [noteOutcome]
  split <;> rfl

/-- An operation keeps the names of the services. -/
theorem map_name_perform (r : Registry) (o : Operation) :
    (r.perform o).services.map Endpoint.name = r.services.map Endpoint.name := by
  rcases he : r.find? o.service with _ | e
  · rw [perform_of_find?_eq_none he]
  · rw [perform_of_find?_eq_some he, services_noteOutcome, map_name_replace]

/-- **Names stay distinct** in every run. -/
theorem DistinctNames.run {r : Registry} (h : r.DistinctNames) (operations : List Operation) :
    (r.run operations).DistinctNames := by
  induction operations using List.reverseRecOn with
  | nil => exact h
  | append_singleton rest o ih =>
      rw [run_append_singleton, DistinctNames, map_name_perform]
      exact ih

/-- An inserted endpoint takes the place of the one of its name, or the last place. -/
theorem map_name_insertEndpoint (e : Endpoint) (known : List Endpoint) :
    (insertEndpoint e known).map Endpoint.name
      = if e.name ∈ known.map Endpoint.name then known.map Endpoint.name
        else known.map Endpoint.name ++ [e.name] := by
  induction known with
  | nil => rfl
  | cons f rest ih =>
      by_cases hname : f.name = e.name
      · simp [insertEndpoint, hname]
      · have hother : e.name ≠ f.name := fun h => hname h.symm
        rw [insertEndpoint, if_neg hname, List.map_cons, ih, List.map_cons]
        simp only [List.mem_cons, hother, false_or]
        split <;> rfl

/-- Inserting endpoints keeps names distinct. -/
theorem nodup_foldl_insertEndpoint {known : List Endpoint}
    (h : (known.map Endpoint.name).Nodup) (endpoints : List Endpoint) :
    ((endpoints.foldl (fun known e => insertEndpoint e known) known).map Endpoint.name).Nodup := by
  induction endpoints generalizing known with
  | nil => exact h
  | cons e rest ih =>
      refine ih ?_
      rw [map_name_insertEndpoint]
      split
      · exact h
      · next hnew => simpa [List.nodup_append] using ⟨h, by simpa using hnew⟩

/-- **Names are distinct** in a registry as it was configured. -/
theorem distinctNames_ofConfig {services : List ServiceConfig} {policy : BreakerPolicy}
    {r : Registry} (h : ofConfig services policy = .ok r) : r.DistinctNames := by
  obtain ⟨endpoints, -, rfl⟩ := exists_of_ofConfig h
  exact @nodup_foldl_insertEndpoint [] List.nodup_nil endpoints

/-- Where names are distinct, the endpoint that is found under a name is the only one of it. -/
theorem DistinctNames.eq_of_mem {r : Registry} (h : r.DistinctNames) {name : String}
    {e f : Endpoint} (he : r.find? name = some e) (hf : f ∈ r.services) (hname : f.name = e.name) :
    f = e :=
  List.inj_on_of_nodup_map h hf (List.mem_of_find?_eq_some he) hname

/-- Putting an endpoint in its own place changes nothing. -/
theorem DistinctNames.replace_eq_self {r : Registry} (h : r.DistinctNames) {name : String}
    {e : Endpoint} (he : r.find? name = some e) : r.replace e = r := by
  have hservices : r.services.map (fun f => if f.name = e.name then e else f) = r.services := by
    conv_rhs => rw [← List.map_id r.services]
    refine List.map_congr_left fun f hf => ?_
    rw [id_eq]
    split
    · next hname => exact (h.eq_of_mem he hf hname).symm
    · rfl
  rw [replace, hservices]

/-! ### Selection -/

/-- The error for a service of which no instance is selected. -/
def refusal (r : Registry) (service : String) : GatewayError :=
  match r.find? service with
  | none => .serviceNotFound service
  | some e => if e.breaker.isOpen then .circuitOpen service else .unavailable service

/-- **A refused selection** changes nothing, and the error tells why it was refused. -/
theorem select_of_error {r : Registry} (h : r.DistinctNames) {service : String} {now : Timestamp}
    {e : SelectError} (he : (r.select service now).1 = .error e) :
    (r.select service now).2 = r ∧ GatewayError.ofSelect e = r.refusal service := by
  rw [refusal]
  rcases hfound : r.find? service with _ | found
  · rw [select, hfound] at he ⊢
    cases he
    exact ⟨rfl, rfl⟩
  · rw [select, hfound] at he ⊢
    rcases hfree : (found.available now).1 with _ | _
    · simp only [hfree, Bool.false_eq_true, if_false, Endpoint.available_of_false hfree] at he ⊢
      cases he
      refine ⟨h.replace_eq_self hfound, ?_⟩
      rcases found.breaker.isOpen with _ | _ <;> rfl
    · simp only [hfree, if_true] at he
      cases he

end Registry

/-! ### Deliveries -/

/-- An errand and the registry that it met. -/
structure Delivery where
  before : Registry
  errand : Errand

namespace Delivery

/-- The courses that a delivery can take. -/
inductive Course where
  /-- No instance is selected. -/
  | refused
  /-- The selected instance has no address that a request can be made to. -/
  | misaddressed
  /-- A request is sent to the selected instance. -/
  | exchanged
deriving DecidableEq, Repr

/-- What comes of the errand. -/
def result (d : Delivery) : Forwarded :=
  d.before.forward d.errand.times d.errand.timeout d.errand.request d.errand.service
    d.errand.targetPath d.errand.backend

/-- What selection chooses, or why it does not. -/
def choice (d : Delivery) : Except SelectError String :=
  (d.before.select d.errand.service d.errand.times.selection).1

/-- The registry after selection. -/
def selected (d : Delivery) : Registry :=
  (d.before.select d.errand.service d.errand.times.selection).2

/-- Selection has its choice and its registry. -/
theorem select_eq {d : Delivery} {choice : Except SelectError String} (h : d.choice = choice) :
    d.before.select d.errand.service d.errand.times.selection = (choice, d.selected) :=
  Prod.ext h rfl

/-- The resource that is asked for at an instance, if it can be. -/
def address? (d : Delivery) (base : String) : Option Uri :=
  backendUri? base d.errand.targetPath d.errand.request.uri.query

/-- The request as it is sent to `uri`. -/
def requestTo (d : Delivery) (uri : Uri) : Outbound :=
  d.errand.request.outbound uri
    (correlationValue d.errand.request.headers d.errand.times.identifier) d.errand.timeout

/-- **Refused**: nothing is sent, and the registry stays as it is. -/
structure Refused (d : Delivery) : Prop where
  choice : ∃ e, d.choice = .error e
  sent : d.result.sent = none
  answer : d.result.answer = .error (d.before.refusal d.errand.service)
  registry : d.result.registry = d.before

/-- **Misaddressed**: nothing is sent, and the registry is what selection made of it. -/
structure Misaddressed (d : Delivery) : Prop where
  choice : ∃ base, d.choice = .ok base ∧ d.address? base = none
  sent : d.result.sent = none
  answer : d.result.answer = .error (.invalidBackendUri d.errand.service)
  registry : d.result.registry = d.selected

/-- **Exchanged**: one request is sent, and one outcome is recorded, the one it came to. -/
structure Exchanged (d : Delivery) (o : Outbound) : Prop where
  choice : ∃ base, d.choice = .ok base ∧ d.address? base = some o.uri
  /-- It is the request of the errand, on its way to the selected instance. -/
  request : o = d.requestTo o.uri
  sent : d.result.sent = some o
  timeout : o.timeout = d.errand.timeout
  /-- Any answer is a success, whatever its status, and comes back with its body. -/
  answered : ∀ response, (d.errand.backend o).outcome = .ok response →
    (∃ headers, d.result.answer = .ok { response with headers }) ∧
      d.result.registry
        = d.selected.recordSuccess d.errand.service (d.errand.backend o).latency
  failed : ∀ failure, (d.errand.backend o).outcome = .error failure →
    d.result.answer = .error (.ofTransport d.errand.service failure) ∧
      d.result.registry = (d.selected.recordFailure d.errand.service d.errand.times.failure).2

/-- What it means to take a course. -/
def Takes (d : Delivery) : Course → Prop
  | .refused => d.Refused
  | .misaddressed => d.Misaddressed
  | .exchanged => ∃ o, d.Exchanged o

/-! ### The three courses -/

/-- Where selection refuses, the delivery is refused. -/
theorem refused_of_choice {d : Delivery} (h : d.before.DistinctNames) {e : SelectError}
    (he : d.choice = .error e) : d.Refused := by
  obtain ⟨hsame, hwhy⟩ := Registry.select_of_error h he
  have hselect : d.before.select d.errand.service d.errand.times.selection = (.error e, d.before) :=
    Prod.ext he hsame
  refine ⟨⟨e, he⟩, ?_, ?_, ?_⟩ <;> rw [result, Registry.forward, hselect]
  rw [← hwhy]

variable {d : Delivery} {base : String}

/-- Where the selected instance has no address, the delivery is misaddressed. -/
theorem misaddressed_of_choice (hbase : d.choice = .ok base) (huri : d.address? base = none) :
    d.Misaddressed := by
  have hselect := select_eq hbase
  rw [address?] at huri
  refine ⟨⟨base, hbase, huri⟩, ?_, ?_, ?_⟩ <;>
    simp only [result, Registry.forward, hselect, huri]

/-- An answer of the instance goes back stamped. -/
theorem answer_of_choice {uri : Uri} {response : Response} (hbase : d.choice = .ok base)
    (huri : d.address? base = some uri)
    (hreply : (d.errand.backend (d.requestTo uri)).outcome = .ok response) :
    d.result.answer = .ok (response.stamp d.errand.service
      (d.errand.backend (d.requestTo uri)).latency
      (correlationValue d.errand.request.headers d.errand.times.identifier)) := by
  have hselect := select_eq hbase
  rw [address?] at huri
  rw [requestTo] at hreply
  simp only [result, Registry.forward, hselect, huri, hreply, requestTo]

/-- Where it has one, a request is sent there. -/
theorem exchanged_of_choice {uri : Uri} (hbase : d.choice = .ok base)
    (huri : d.address? base = some uri) : d.Exchanged (d.requestTo uri) := by
  have hselect := select_eq hbase
  have haddress := huri
  rw [address?] at haddress
  refine ⟨⟨base, hbase, huri⟩, rfl, ?_, rfl, fun response hreply => ?_, fun failure hreply => ?_⟩
  · simp only [result, Registry.forward, hselect, haddress]
    split <;> rfl
  · refine ⟨⟨_, answer_of_choice hbase huri hreply⟩, ?_⟩
    rw [requestTo] at hreply ⊢
    simp only [result, Registry.forward, hselect, haddress, hreply]
  · rw [requestTo] at hreply
    refine ⟨?_, ?_⟩ <;> simp only [result, Registry.forward, hselect, haddress, hreply]

/-- What selection says of a delivery on a course: nothing, or an instance without or with an
address. -/
theorem Takes.choice_cases {course : Course} (h : d.Takes course) :
    match course with
    | .refused => ∃ e, d.choice = .error e
    | .misaddressed => ∃ base, d.choice = .ok base ∧ d.address? base = none
    | .exchanged => ∃ base uri, d.choice = .ok base ∧ d.address? base = some uri := by
  cases course with
  | refused => exact h.choice
  | misaddressed => exact h.choice
  | exchanged =>
      obtain ⟨o, ho⟩ := h
      obtain ⟨base, hbase, huri⟩ := ho.choice
      exact ⟨base, o.uri, hbase, huri⟩

/-- **Each delivery takes one course**, and only one. -/
theorem existsUnique_course (h : d.before.DistinctNames) : ∃! course, d.Takes course := by
  have hcourse : ∃ course, d.Takes course := by
    rcases hchoice : d.choice with e | base
    · exact ⟨.refused, refused_of_choice h hchoice⟩
    · rcases huri : d.address? base with _ | uri
      · exact ⟨.misaddressed, misaddressed_of_choice hchoice huri⟩
      · exact ⟨.exchanged, _, exchanged_of_choice hchoice huri⟩
  obtain ⟨course, hcourse⟩ := hcourse
  refine ⟨course, hcourse, fun other hother => ?_⟩
  -- selection has one result, and each course tells another one
  have hone := hcourse.choice_cases
  have htwo := hother.choice_cases
  cases course <;> cases other <;> grind

/-! ### What is recorded -/

/-- **Nothing or an exchange**: where no request is sent the errand fails, and the registry is what
selection made of it. -/
theorem unsent_or_exchanged (d : Delivery) :
    (d.result.sent = none ∧ (∃ e, d.result.answer = .error e) ∧ d.result.registry = d.selected) ∨
      ∃ o, d.Exchanged o := by
  rcases hchoice : d.choice with e | base
  · have hselect := select_eq hchoice
    refine .inl ⟨?_, ⟨.ofSelect e, ?_⟩, ?_⟩ <;> rw [result, Registry.forward, hselect]
  · rcases huri : d.address? base with _ | uri
    · have hcourse := misaddressed_of_choice hchoice huri
      exact .inl ⟨hcourse.sent, ⟨_, hcourse.answer⟩, hcourse.registry⟩
    · exact .inr ⟨_, exchanged_of_choice hchoice huri⟩

/-- What is sent is sent in an exchange. -/
theorem exchanged_of_sent {o : Outbound} (h : d.result.sent = some o) : d.Exchanged o := by
  rcases d.unsent_or_exchanged with ⟨hnone, -, -⟩ | ⟨o', ho⟩
  · rw [hnone] at h
    cases h
  · obtain rfl := Option.some.inj (ho.sent.symm.trans h)
    exact ho

/-- What is answered was answered by the instance. -/
theorem exists_of_answer {response : Response} (h : d.result.answer = .ok response) :
    ∃ o u, d.Exchanged o ∧ (d.errand.backend o).outcome = .ok u := by
  rcases d.unsent_or_exchanged with ⟨-, ⟨e, hanswer⟩, -⟩ | ⟨o, ho⟩
  · rw [hanswer] at h
    cases h
  · rcases hreply : (d.errand.backend o).outcome with failure | u
    · rw [(ho.failed failure hreply).1] at h
      cases h
    · exact ⟨o, u, ho, hreply⟩

/-- The answer to what was sent goes back stamped. -/
theorem Exchanged.answer {o : Outbound} {u : Response} (ho : d.Exchanged o)
    (hreply : (d.errand.backend o).outcome = .ok u) :
    d.result.answer = .ok (u.stamp d.errand.service (d.errand.backend o).latency
      (correlationValue d.errand.request.headers d.errand.times.identifier)) := by
  obtain ⟨base, hbase, huri⟩ := ho.choice
  have hrequest := ho.request
  rw [hrequest] at hreply ⊢
  exact answer_of_choice hbase huri hreply

/-- The outcome of the request, as it is recorded. -/
def outcome (d : Delivery) (o : Outbound) : Operation :=
  match (d.errand.backend o).outcome with
  | .ok _ => .success d.errand.service (d.errand.backend o).latency
  | .error _ => .failure d.errand.service d.errand.times.failure

/-- The operations that the delivery stands for: a selection, and the outcome of the request if one
was sent. -/
def operations (d : Delivery) : List Operation :=
  .select d.errand.service d.errand.times.selection :: (d.result.sent.map d.outcome).toList

/-- **A delivery does to the registry what its operations do.** -/
theorem registry_result (d : Delivery) : d.result.registry = d.before.run d.operations := by
  rcases d.unsent_or_exchanged with ⟨hsent, -, hregistry⟩ | ⟨o, ho⟩
  · rw [hregistry, operations, hsent]
    rfl
  · have hperform : d.result.registry = d.selected.perform (d.outcome o) := by
      rcases hreply : (d.errand.backend o).outcome with failure | response
      · rw [(ho.failed failure hreply).2, outcome, hreply]
        rfl
      · rw [(ho.answered response hreply).2, outcome, hreply]
        rfl
    rw [hperform, operations, ho.sent]
    rfl

/-- A request was sent to the service. -/
def reached (name : String) (d : Delivery) : Bool :=
  d.errand.service = name && d.result.sent.isSome

/-- A request was sent to the service and answered. -/
def answeredBy (name : String) (d : Delivery) : Bool :=
  d.reached name && d.result.answer.isOk

/-- A success is recorded for an answer, and for nothing else. -/
theorem countP_isSuccessOf (name : String) (d : Delivery) :
    d.operations.countP (Operation.isSuccessOf name) = if d.answeredBy name then 1 else 0 := by
  rcases d.unsent_or_exchanged with ⟨hsent, -, -⟩ | ⟨o, ho⟩
  · simp [operations, answeredBy, reached, hsent, Operation.isSuccessOf]
  · rcases hreply : (d.errand.backend o).outcome with failure | response
    · have hanswer := (ho.failed failure hreply).1
      simp [operations, answeredBy, reached, ho.sent, outcome, hreply, hanswer,
        Operation.isSuccessOf, Except.isOk, Except.toBool]
    · obtain ⟨headers, hanswer⟩ := (ho.answered response hreply).1
      simp [operations, answeredBy, reached, ho.sent, outcome, hreply, hanswer,
        Operation.isSuccessOf, Except.isOk, Except.toBool, List.countP_cons]

/-- One outcome is recorded for a request that was sent, and none without one. -/
theorem countP_isOutcomeOf (name : String) (d : Delivery) :
    d.operations.countP (Operation.isOutcomeOf name) = if d.reached name then 1 else 0 := by
  rcases d.unsent_or_exchanged with ⟨hsent, -, -⟩ | ⟨o, ho⟩
  · simp [operations, reached, hsent, Operation.isOutcomeOf]
  · rcases hreply : (d.errand.backend o).outcome with failure | response <;>
      simp [operations, reached, ho.sent, outcome, hreply, Operation.isOutcomeOf,
        List.countP_cons]

end Delivery

namespace Registry

/-! ### Whole runs -/

/-- One errand after the other, each with the registry that it meets. -/
def deliveries (r : Registry) : List Errand → List Delivery
  | [] => []
  | x :: rest => ⟨r, x⟩ :: (Delivery.result ⟨r, x⟩).registry.deliveries rest

/-- The registry after all errands. -/
def afterErrands (r : Registry) (errands : List Errand) : Registry :=
  errands.foldl (fun r x => (Delivery.result ⟨r, x⟩).registry) r

/-- Every errand is done, in turn. -/
theorem map_errand_deliveries (r : Registry) (errands : List Errand) :
    (r.deliveries errands).map Delivery.errand = errands := by
  induction errands generalizing r with
  | nil => rfl
  | cons x rest ih => rw [deliveries, List.map_cons, ih]

/-- The operations that the errands stand for. -/
def recorded (r : Registry) (errands : List Errand) : List Operation :=
  (r.deliveries errands).flatMap Delivery.operations

/-- Some operations after others. -/
theorem run_append (r : Registry) (operations more : List Operation) :
    r.run (operations ++ more) = (r.run operations).run more :=
  List.foldl_append

/-- **Errands do to the registry what the recorded operations do.** -/
theorem afterErrands_eq_run (r : Registry) (errands : List Errand) :
    r.afterErrands errands = r.run (r.recorded errands) := by
  induction errands generalizing r with
  | nil => rfl
  | cons x rest ih =>
      rw [afterErrands, List.foldl_cons, ← afterErrands, ih, recorded, recorded, deliveries,
        List.flatMap_cons, run_append, Delivery.registry_result]

/-- No two services have one name when an errand meets the registry. -/
theorem DistinctNames.deliveries {r : Registry} (h : r.DistinctNames) {errands : List Errand}
    {d : Delivery} (hd : d ∈ r.deliveries errands) : d.before.DistinctNames := by
  induction errands generalizing r with
  | nil => cases hd
  | cons x rest ih =>
      rcases List.mem_cons.mp hd with rfl | hd
      · exact h
      · refine ih ?_ hd
        rw [Delivery.registry_result]
        exact h.run _

/-- What each delivery has of some operations, all of them have together. -/
theorem countP_recorded {p : Operation → Bool} {q : Delivery → Bool}
    (h : ∀ d : Delivery, d.operations.countP p = if q d then 1 else 0) (r : Registry)
    (errands : List Errand) :
    (r.recorded errands).countP p = (r.deliveries errands).countP q := by
  rw [recorded]
  induction r.deliveries errands with
  | nil => rfl
  | cons d rest ih =>
      rw [List.flatMap_cons, List.countP_append, ih, h, List.countP_cons, Nat.add_comm]

end Registry

end Tollgate
