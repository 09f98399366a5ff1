import Tollgate.Proofs.Registry.BreakerContract
import Tollgate.Proofs.Registry.Life

/-!
# The invariant of a registry

Whatever a registry meets, each of its services keeps the instances it was configured with, the
circuit is open exactly while the count of failures in a row has reached the threshold, that count
is at most the decaying one, and the status is unknown exactly until the first probe cycle
(`Registry.sound_meetAll`).

The two counts move together: a failure adds one to both, up to the bounds of their words, and
whatever takes one from the decaying count clears the other. The circuit closes only where the
count of failures in a row is cleared as well. So the invariant of one endpoint
(`Endpoint.Consistent`) is kept by each operation alone, and a life is a fold of operations.

## Main results

* `Endpoint.Consistent.perform`: one operation keeps the invariant.
* `Registry.checkedAt?_history`: which services a life has probed.
* `Registry.sound_meetAll`: the invariant of every service in every reachable registry.
-/

namespace Tollgate

namespace Breaker

/-- The circuit is open exactly while the count has reached `threshold`. -/
def Tracks (threshold : Nat) (b : Breaker) : Prop :=
  b.isOpen = true ↔ threshold ≤ b.failures

/-- A closed circuit has no failures, and no threshold is reached by none. -/
theorem tracks_closed {threshold : Nat} (hpos : 1 ≤ threshold) : closed.Tracks threshold :=
  iff_of_false Bool.false_ne_true (Nat.not_le_of_lt hpos)

/-- A circuit that is asked whether traffic may pass stays as it is, or closes with its count
cleared. -/
theorem tryPass_cases (b : Breaker) (now : Timestamp) :
    (b.tryPass now).2 = b ∨ (b.tryPass now).2 = closed := by
  rw [tryPass]
  split
  · exact .inl rfl
  · split
    · exact .inr rfl
    · exact .inl rfl

/-- One more failure adds one to the count, up to the bound of its word. -/
theorem failures_onFailure (b : Breaker) (now : Timestamp) (threshold : Nat) (openFor : Duration) :
    (b.onFailure now threshold openFor).2.failures = min maxUnsigned32 (b.failures + 1) := by
  rw [onFailure]
  split
  · rfl
  · split <;> rfl

/-- One more failure keeps the circuit open exactly while the count has reached the threshold. -/
theorem Tracks.onFailure {threshold : Nat} (hbound : threshold ≤ maxUnsigned32) {b : Breaker}
    (h : b.Tracks threshold) (now : Timestamp) (openFor : Duration) :
    (b.onFailure now threshold openFor).2.Tracks threshold := by
  rw [Tracks, failures_onFailure, Breaker.onFailure]
  by_cases hopen : b.isOpen = true
  · have hreached : threshold ≤ b.failures := h.mp hopen
    have hafter : threshold ≤ min maxUnsigned32 (b.failures + 1) := by omega
    rw [if_pos hopen]
    exact iff_of_true hopen hafter
  · rw [if_neg hopen, Saturating.addUpTo]
    split
    · next hbelow => exact iff_of_false hopen (Nat.not_le_of_lt hbelow)
    · next hreached => exact iff_of_true rfl (Nat.le_of_not_lt hreached)

end Breaker

namespace Operation

/-- The end of the probe cycle that the operation reports, if it reports one. -/
def checkedAt? : Operation → Option Timestamp
  | probes _ _ _ now => some now
  | select _ _ | success _ _ | failure _ _ => none

end Operation

namespace Endpoint

/-- A probe cycle tells the status of a service. -/
theorem ofTally_ne_unknown (healthy total : Nat) : Status.ofTally healthy total ≠ .unknown := by
  rw [Status.ofTally]
  split
  · exact Status.noConfusion
  · split <;> exact Status.noConfusion

/-- The last check is the last probe cycle that was reported. -/
theorem lastCheck_perform (policy : BreakerPolicy) (e : Endpoint) (o : Operation) :
    (e.perform policy o).lastCheck = o.checkedAt?.or e.lastCheck := by
  cases o with
  | select service now =>
      obtain ⟨cursor, h, hselect⟩ := e.exists_perform_select policy service now
      rw [hselect]
      rfl
  | success service elapsed => rfl
  | failure service now => rfl
  | probes service healthy latency now =>
      rw [perform, applyProbeCycle]
      split <;> rfl

/-! ### One operation -/

/-- **The invariant of a service.** -/
structure Consistent (threshold : Nat) (e : Endpoint) : Prop where
  /-- The circuit is open exactly while the count of failures in a row has reached the threshold. -/
  tracks : e.breaker.Tracks threshold
  failures_le : e.breaker.failures ≤ e.errorCount
  unknown_iff : e.status = .unknown ↔ e.lastCheck = none

namespace Consistent

variable {threshold : Nat} {e : Endpoint}

/-- Asking for the availability keeps the invariant. -/
theorem available (hpos : 1 ≤ threshold) (h : e.Consistent threshold) (now : Timestamp) :
    (e.available now).2.Consistent threshold := by
  have hfields : (e.available now).2.errorCount = e.errorCount ∧
      ((e.available now).2.status = .unknown ↔ (e.available now).2.lastCheck = none) := by
    rw [snd_available]
    exact ⟨rfl, h.unknown_iff⟩
  obtain ⟨herrors, hunknown⟩ := hfields
  rcases e.breaker.tryPass_cases now with hsame | hclosed
  · refine ⟨?_, ?_, hunknown⟩
    · rw [breaker_available, hsame]
      exact h.tracks
    · rw [breaker_available, hsame, herrors]
      exact h.failures_le
  · refine ⟨?_, ?_, hunknown⟩
    · rw [breaker_available, hclosed]
      exact Breaker.tracks_closed hpos
    · rw [breaker_available, hclosed]
      exact Nat.zero_le _

/-- A success keeps the invariant. -/
theorem recordSuccess (hpos : 1 ≤ threshold) (h : e.Consistent threshold) (elapsed : Duration) :
    (e.recordSuccess elapsed).Consistent threshold :=
  ⟨Breaker.tracks_closed hpos, Nat.zero_le _, h.unknown_iff⟩

/-- A failure keeps the invariant. -/
theorem recordFailure (hbound : threshold ≤ maxUnsigned32) (h : e.Consistent threshold)
    (now : Timestamp) (openFor : Duration) :
    (e.recordFailure now threshold openFor).2.Consistent threshold := by
  refine ⟨h.tracks.onFailure hbound now openFor, ?_, h.unknown_iff⟩
  have hcount : (e.recordFailure now threshold openFor).2.breaker.failures
      = min maxUnsigned32 (e.breaker.failures + 1) :=
    e.breaker.failures_onFailure now threshold openFor
  have herrors : (e.recordFailure now threshold openFor).2.errorCount
      = min maxUnsigned64 (e.errorCount + 1) := rfl
  have hwords : maxUnsigned32 ≤ maxUnsigned64 := by decide
  have hbefore := h.failures_le
  rw [hcount, herrors]
  omega

/-- A new status keeps the invariant, together with the time it was found at. -/
theorem checked (h : e.Consistent threshold) (healthy : Nat) (now : Timestamp) :
    Consistent threshold
      { e with status := .ofTally healthy e.instances.length, lastCheck := some now } :=
  ⟨h.tracks, h.failures_le, iff_of_false (ofTally_ne_unknown _ _) (Option.some_ne_none now)⟩

/-- **One operation** keeps the invariant. -/
theorem perform {policy : BreakerPolicy} (hpos : 1 ≤ policy.failureThreshold)
    (hbound : policy.failureThreshold ≤ maxUnsigned32) (h : e.Consistent policy.failureThreshold)
    (o : Operation) : (e.perform policy o).Consistent policy.failureThreshold := by
  cases o with
  | select service now =>
      have hasked := h.available hpos now
      rw [Endpoint.perform]
      split
      · exact ⟨hasked.tracks, hasked.failures_le, hasked.unknown_iff⟩
      · exact hasked
  | success service elapsed => exact h.recordSuccess hpos elapsed
  | failure service now => exact h.recordFailure hbound now policy.openFor
  | probes service healthy latency now =>
      have hchecked := h.checked healthy now
      rw [Endpoint.perform, applyProbeCycle]
      split
      · exact hchecked.recordSuccess hpos _
      · exact hchecked.recordFailure hbound now policy.openFor

end Consistent

/-! ### Many operations -/

variable {policy : BreakerPolicy} {e : Endpoint}

/-- **Operations keep the invariant.** -/
theorem Consistent.performAll (hpos : 1 ≤ policy.failureThreshold)
    (hbound : policy.failureThreshold ≤ maxUnsigned32) (h : e.Consistent policy.failureThreshold)
    (operations : List Operation) :
    (e.performAll policy operations).Consistent policy.failureThreshold := by
  induction operations generalizing e with
  | nil => exact h
  | cons o rest ih => exact ih (h.perform hpos hbound o)

/-- A service was never checked if no operation reports a probe cycle. -/
theorem lastCheck_performAll (policy : BreakerPolicy) (e : Endpoint)
    (operations : List Operation) :
    (e.performAll policy operations).lastCheck = none
      ↔ e.lastCheck = none ∧ ∀ o ∈ operations, o.checkedAt? = none := by
  induction operations generalizing e with
  | nil => simp [performAll]
  | cons o rest ih =>
      rw [performAll, List.foldl_cons, ← performAll, ih, lastCheck_perform, Option.or_eq_none_iff,
        List.forall_mem_cons]
      tauto

end Endpoint

namespace Registry

/-! ### Whole lives -/

/-- The event is a probe cycle of a service of the catalogue. -/
def Event.checks (name : String) : Event → Bool
  | .operation o => o.service = name && o.checkedAt?.isSome
  | .errand _ => false
  | .cycle .. => true

/-- The operations of an event report a probe cycle of a service if the event is one. -/
theorem checkedAt?_operationsOf {r : Registry} {name : String}
    (hname : name ∈ r.services.map Endpoint.name) (event : Event) :
    (∀ o ∈ (r.operationsOf event).filter fun o => o.service = name, o.checkedAt? = none)
      ↔ event.checks name = false := by
  cases event with
  | operation o =>
      by_cases hservice : o.service = name <;>
        simp [operationsOf, Event.checks, hservice]
  | errand x =>
      refine iff_of_true (fun o ho => ?_) rfl
      rw [operationsOf, List.mem_filter, Delivery.operations, List.mem_cons, Option.mem_toList,
        Option.map_eq_some_iff] at ho
      obtain ⟨rfl | ⟨o', -, rfl⟩, -⟩ := ho
      · rfl
      · rw [Delivery.outcome]
        split <;> rfl
  | cycle doneAt timeout backend =>
      refine iff_of_false (fun hnone => ?_) Bool.noConfusion
      -- the service of that name is among the probed ones
      obtain ⟨e, he, rfl⟩ := List.mem_map.mp hname
      have hprobed : (e.name, e.instances.map Instance.healthUrl) ∈ r.probeTargets :=
        List.mem_map_of_mem he
      have htally := List.mem_map_of_mem (f := tallyOf doneAt)
        (List.mem_map_of_mem (f := fun p : String × List String =>
          (p.1, p.2.map (Probe.run backend timeout))) hprobed)
      have hchecked := hnone _ (List.mem_filter.mpr ⟨htally, by simp [tallyOf, Operation.service]⟩)
      cases hchecked

/-- **A life has probed a service** if one of its events is a probe cycle of it. -/
theorem checkedAt?_history {r : Registry} {name : String}
    (hname : name ∈ r.services.map Endpoint.name) (events : List Event) :
    (∀ o ∈ (r.history events).filter fun o => o.service = name, o.checkedAt? = none)
      ↔ ∀ event ∈ events, event.checks name = false := by
  induction events generalizing r with
  | nil => simp [history]
  | cons event rest ih =>
      have hnext : name ∈ (r.meet event).services.map Endpoint.name := by
        rw [map_name_meet]
        exact hname
      rw [history, List.filter_append, List.forall_mem_append, checkedAt?_operationsOf hname,
        ih hnext, List.forall_mem_cons]

/-! ### Configured registries -/

variable {services : List ServiceConfig} {policy : BreakerPolicy} {r : Registry}

/-- A registry holds the services it was configured with. -/
theorem contains_ofConfig (h : ofConfig services policy = .ok r) (name : String) :
    r.contains name = true ↔ ∃ s ∈ services, s.name = name := by
  obtain ⟨endpoints, hall, -⟩ := exists_of_ofConfig h
  rw [contains, find?_ofConfig h, Option.isSome_iff_exists]
  constructor
  · rintro ⟨e, he⟩
    obtain ⟨s, hs, -⟩ := Option.bind_eq_some_iff.mp he
    exact ⟨s, List.mem_reverse.mp (List.mem_of_find?_eq_some hs), by simpa using List.find?_some hs⟩
  · rintro ⟨s, hs, rfl⟩
    obtain ⟨t, ht, hlast, -⟩ := exists_find?_reverse hs
    obtain ⟨e, he⟩ := endpoint?_of_mem hall ht
    exact ⟨e, by rw [hlast, Option.bind_some, he]⟩

/-- A registry contains a service if one of its endpoints has the name. -/
theorem contains_iff_mem (r : Registry) (name : String) :
    r.contains name = true ↔ name ∈ r.services.map Endpoint.name := by
  rw [contains, find?, List.find?_isSome, List.mem_map]
  simp

/-- Where names are distinct, every endpoint is found under its name. -/
theorem DistinctNames.find?_of_mem (h : r.DistinctNames) {e : Endpoint} (he : e ∈ r.services) :
    r.find? e.name = some e := by
  obtain ⟨f, hf⟩ := Option.isSome_iff_exists.mp
    ((r.contains_iff_mem e.name).mpr (List.mem_map_of_mem he))
  rw [hf, h.eq_of_mem hf he (name_of_find? hf).symm]

/-- The instances of a configured service, by their URLs. -/
theorem instancesOf_eq (s : ServiceConfig) :
    instancesOf s = s.instances.map fun i =>
      ⟨trimSlashes i.url, i.healthUrl.getD (trimSlashes i.url ++ "/health")⟩ := by
  refine List.map_congr_left fun i _ => ?_
  rw [InstanceConfig.resolvedHealthUrl]
  rcases i.healthUrl with _ | url <;> rfl

/-- A fresh service is consistent. -/
theorem consistent_ofConfig (h : ofConfig services policy = .ok r)
    (hpos : 1 ≤ policy.failureThreshold) {name : String} {e : Endpoint}
    (he : r.find? name = some e) : e.Consistent policy.failureThreshold ∧ e.lastCheck = none := by
  rw [find?_ofConfig h, Option.bind_eq_some_iff] at he
  obtain ⟨s, -, hs⟩ := he
  obtain ⟨-, -, -, hstatus, hcheck, -, hbreaker⟩ := endpoint?_fields hs
  refine ⟨⟨?_, ?_, iff_of_true hstatus hcheck⟩, hcheck⟩
  · rw [hbreaker]
    exact Breaker.tracks_closed hpos
  · rw [hbreaker]
    exact Nat.zero_le _

/-- **What is promised of a service** in a registry that was configured with `services` and
`policy`, and has met `events`. -/
structure Sound (services : List ServiceConfig) (policy : BreakerPolicy) (events : List Event)
    (e : Endpoint) : Prop where
  /-- The instances are those of the last service of the name, in its order. Each is asked at its URL
  without the slashes at its end, and probed at its health URL, or at `/health` below it. -/
  configured : ∃ s, (services.reverse.find? fun s => s.name = e.name) = some s ∧
    e.instances = s.instances.map fun i =>
      ⟨trimSlashes i.url, i.healthUrl.getD (trimSlashes i.url ++ "/health")⟩
  nonempty : e.instances ≠ []
  cursor_lt : e.cursor < e.instances.length
  open_iff : e.breaker.isOpen = true ↔ e.breaker.openUntil.isSome = true
  tripped_iff : e.breaker.isOpen = true ↔ policy.failureThreshold ≤ e.breaker.failures
  failures_le : e.breaker.failures ≤ e.errorCount
  unknown_iff : e.status = .unknown ↔ ∀ event ∈ events, event.checks e.name = false
  unchecked_iff : e.lastCheck = none ↔ ∀ event ∈ events, event.checks e.name = false

/-- Whatever a registry meets, the service that is found under a name is sound. -/
theorem sound_of_find? (h : ofConfig services policy = .ok r) (hpos : 1 ≤ policy.failureThreshold)
    (hbound : policy.failureThreshold ≤ maxUnsigned32) {events : List Event} {name : String}
    {e : Endpoint} (he : (r.meetAll events).find? name = some e) :
    Sound services policy events e := by
  have hname : e.name = name := name_of_find? he
  have hmem : name ∈ r.services.map Endpoint.name := by
    rw [← map_name_meetAll r events, ← hname]
    exact List.mem_map_of_mem (List.mem_of_find?_eq_some he)
  rw [find?_meetAll, (policy_ofConfig h).1] at he
  obtain ⟨fresh, hfresh, hlived⟩ := Option.map_eq_some_iff.mp he
  obtain ⟨hfirst, hunchecked⟩ := consistent_ofConfig h hpos hfresh
  have hconsistent : e.Consistent policy.failureThreshold :=
    hlived ▸ hfirst.performAll hpos hbound _
  have hcheck : e.lastCheck = none ↔ ∀ event ∈ events, event.checks e.name = false := by
    rw [hname, ← checkedAt?_history hmem, ← hlived, Endpoint.lastCheck_performAll]
    exact and_iff_right hunchecked
  have hinstances : e.instances = fresh.instances :=
    hlived ▸ Endpoint.instances_performAll policy fresh _
  rw [find?_ofConfig h, Option.bind_eq_some_iff] at hfresh
  obtain ⟨s, hs, hs'⟩ := hfresh
  exact
    { configured := ⟨s, hname ▸ hs,
        hinstances.trans ((endpoint?_fields hs').2.1.trans (instancesOf_eq s))⟩
      nonempty := List.ne_nil_of_length_pos (Nat.zero_lt_of_lt e.cursor_lt)
      cursor_lt := e.cursor_lt
      open_iff := Iff.rfl
      tripped_iff := hconsistent.tracks
      failures_le := hconsistent.failures_le
      unknown_iff := hconsistent.unknown_iff.trans hcheck
      unchecked_iff := hcheck }

/-- **The invariant of a registry**: whatever it meets, it holds the configured services, each once,
and every one of them is sound. -/
theorem sound_meetAll (h : ofConfig services policy = .ok r) (hpos : 1 ≤ policy.failureThreshold)
    (hbound : policy.failureThreshold ≤ maxUnsigned32) (events : List Event) :
    (∀ name, (r.meetAll events).contains name = true ↔ ∃ s ∈ services, s.name = name) ∧
      (r.meetAll events).DistinctNames ∧
      ∀ e ∈ (r.meetAll events).services, Sound services policy events e := by
  have hnames := map_name_meetAll r events
  have hdistinct : (r.meetAll events).DistinctNames := by
    rw [DistinctNames, hnames]
    exact distinctNames_ofConfig h
  refine ⟨fun name => ?_, hdistinct, fun e he => ?_⟩
  · rw [contains_iff_mem, hnames, ← contains_iff_mem, contains_ofConfig h]
  · exact sound_of_find? h hpos hbound (hdistinct.find?_of_mem he)

/-- A name given twice, and a threshold of two: the instances are those of the second service. The
first of them is selected for a request that fails, and a cycle that finds none of them healthy opens
the circuit. A selection after the deadline closes it, which leaves the decaying count alone. -/
theorem sound_meetAll_name_given_twice :
    let services : List ServiceConfig := [{ name := "a", instances := [{ url := "http://old" }] },
      { name := "a", instances :=
        [{ url := "http://x", healthUrl := some "http://x/up/" }, { url := "http://y/v1//" }] }]
    let policy : BreakerPolicy := { failureThreshold := 2, openSeconds := 60 }
    let refused : Backend := fun _ => { outcome := .error .connect }
    let request : Request :=
      { method := "GET", uri := ⟨none, none, "/", none⟩, headers := [], body := .empty }
    let events : List Event :=
      [.errand ⟨.frozen (.ofParts 0 0), .ofSeconds 5, request, "a", "/", refused⟩,
        .cycle (fun _ => .ofParts 1 0) (.ofSeconds 5) refused]
    let later := events ++ [.operation (.select "a" (.ofParts 62 0))]
    let instances : List Instance :=
      [⟨"http://x", "http://x/up/"⟩, ⟨"http://y/v1", "http://y/v1/health"⟩]
    let view (e : Endpoint) :=
      (e.instances, e.cursor, e.breaker.isOpen, e.breaker.failures, e.errorCount, e.status)
    ∃ r, ofConfig services policy = .ok r ∧ 1 ≤ policy.failureThreshold ∧
      policy.failureThreshold ≤ maxUnsigned32 ∧
      (r.meetAll events).services.map view = [(instances, 1, true, 2, 2, .unhealthy)] ∧
      (r.meetAll later).services.map view = [(instances, 0, false, 0, 2, .unhealthy)] ∧
      (∀ e ∈ (r.meetAll events).services, Sound services policy events e) ∧
      ∀ e ∈ (r.meetAll later).services, Sound services policy later e := by
  intro services policy refused request events later instances view
  have hsound := fun events => (@sound_meetAll services policy _ rfl (by decide) (by decide) events)
  exact ⟨_, rfl, by decide, by decide, by decide +kernel, by decide +kernel, (hsound events).2.2,
    (hsound later).2.2⟩

end Registry

end Tollgate
