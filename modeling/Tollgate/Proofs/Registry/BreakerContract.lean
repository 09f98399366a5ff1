import Tollgate.Proofs.Registry.Run

/-!
# The breaker over whole runs

The breaker of a service is reset by every success and by the selection that finds its circuit past
the deadline. All there is to know about it is the streak of the failures since the last reset
(`Registry.streak`): the count is the length of the streak, and the circuit is open from the failure
that brought the streak to the threshold on, until the policy's time after that failure
(`Breaker.ofStreak`). Every operation of a run keeps it so, whatever the times
(`Registry.breaker_run`).

What a failure does to the circuit is then a matter of its place in the streak, and what happens
between an opening and the next reset is nothing at all. The circuit stays open until the same
deadline, the cursor stays where it is, and no selection passes.

## Main results

* `Registry.breaker_run`: the breaker is determined by the streak.
* `Registry.breaker_contract`: outcomes, openings counted, and refusal until the next reset.

## Conventions

* Times are arbitrary: the clock may step back between two operations.
* A reset is seen by the operation that causes it (`Registry.Entry.resets`), and belongs neither to
  the streak before it nor to the one after it.
-/

namespace Tollgate

/-- What the `n`-th failure of a streak does to the circuit. -/
def FailureOutcome.ofOrdinal (threshold n : Nat) : FailureOutcome :=
  if n < threshold then .belowThreshold else if n = threshold then .opened else .alreadyOpen

/-- The failure that brings the streak to the threshold opens the circuit, and no other. -/
theorem FailureOutcome.ofOrdinal_eq_opened {threshold n : Nat} :
    ofOrdinal threshold n = .opened ↔ n = threshold := by
  rw [ofOrdinal]
  split
  · simp only [reduceCtorEq, false_iff]
    omega
  · split <;> simp_all

namespace Breaker

/-- The breaker after a streak of failures at these times. -/
def ofStreak (policy : BreakerPolicy) (streak : List Timestamp) : Breaker where
  failures := min maxUnsigned32 streak.length
  openUntil := streak[policy.failureThreshold - 1]?.map fun t => t.after policy.openFor

/-- Without failures the circuit is closed. -/
theorem ofStreak_nil (policy : BreakerPolicy) : ofStreak policy [] = closed :=
  rfl

variable {policy : BreakerPolicy} (hpos : 1 ≤ policy.failureThreshold)
include hpos

/-- The circuit is open if the streak has reached the threshold. -/
theorem isOpen_ofStreak (streak : List Timestamp) :
    (ofStreak policy streak).isOpen = decide (policy.failureThreshold ≤ streak.length) := by
  rw [isOpen, ofStreak, Option.isSome_map, Bool.eq_iff_iff, decide_eq_true_iff]
  rw [Option.isSome_iff_ne_none, Ne, List.getElem?_eq_none_iff]
  omega

/-- **One more failure**: its outcome is a matter of its place in the streak. -/
theorem onFailure_ofStreak (hbound : policy.failureThreshold ≤ maxUnsigned32)
    (streak : List Timestamp) (now : Timestamp) :
    (ofStreak policy streak).onFailure now policy.failureThreshold policy.openFor
      = (.ofOrdinal policy.failureThreshold (streak.length + 1),
          ofStreak policy (streak ++ [now])) := by
  have hcount : Saturating.addUpTo maxUnsigned32 (min maxUnsigned32 streak.length) 1
      = min maxUnsigned32 (streak.length + 1) := by
    rw [Saturating.addUpTo]
    omega
  rw [onFailure, isOpen_ofStreak hpos]
  simp only [ofStreak, hcount, decide_eq_true_iff, List.length_append, List.length_singleton]
  rcases Nat.lt_trichotomy (streak.length + 1) policy.failureThreshold with hless | heq | hover
  · have hbefore : streak[policy.failureThreshold - 1]? = none :=
      List.getElem?_eq_none (by omega)
    have hafter : (streak ++ [now])[policy.failureThreshold - 1]? = none := by
      refine List.getElem?_eq_none ?_
      rw [List.length_append, List.length_singleton]
      omega
    rw [if_neg (by omega), if_pos (by omega), hbefore, hafter, FailureOutcome.ofOrdinal,
      if_pos hless]
  · have hlast : (streak ++ [now])[policy.failureThreshold - 1]? = some now := by
      rw [← heq, Nat.add_sub_cancel, List.getElem?_concat_length]
    rw [if_neg (by omega), if_neg (by omega), hlast, FailureOutcome.ofOrdinal,
      if_neg (by omega), if_pos heq, Option.map_some]
  · have hsame : (streak ++ [now])[policy.failureThreshold - 1]?
        = streak[policy.failureThreshold - 1]? := List.getElem?_append_left (by omega)
    rw [if_pos (by omega), hsame, FailureOutcome.ofOrdinal, if_neg (by omega),
      if_neg (by omega)]

end Breaker

namespace Endpoint

/-- Asking for the availability asks the breaker. -/
theorem breaker_available (e : Endpoint) (now : Timestamp) :
    (e.available now).2.breaker = (e.breaker.tryPass now).2 := by
  rw [snd_available]

/-- Asking for the availability moves no cursor. -/
theorem cursor_available (e : Endpoint) (now : Timestamp) :
    (e.available now).2.cursor = e.cursor := by
  rw [snd_available]

/-- Only a selection that passes moves the cursor. -/
theorem cursor_perform {policy : BreakerPolicy} {e : Endpoint} {o : Operation}
    (h : ∀ service now, o = .select service now → (e.available now).1 = false) :
    (e.perform policy o).cursor = e.cursor := by
  cases o with
  | select service now =>
      rw [perform, h service now rfl, if_neg Bool.false_ne_true, cursor_available]
  | success service elapsed => rfl
  | failure service now => rfl
  | probes service healthy latency now =>
      rw [perform, applyProbeCycle]
      split <;> rfl

/-- An open circuit whose deadline is not over lets nothing pass, and nothing changes. -/
theorem available_of_not_lt {e : Endpoint} {deadline now : Timestamp}
    (hopen : e.breaker.openUntil = some deadline) (hnow : ¬ deadline < now) :
    e.available now = (false, e) := by
  simp [available, Breaker.isOpen, Breaker.tryPass, hopen, hnow]

end Endpoint

namespace Registry

/-- The deadline of a service's circuit, while it is open. -/
def deadline? (r : Registry) (name : String) : Option Timestamp :=
  (r.find? name).bind fun e => e.breaker.openUntil

namespace Entry

/-- The time of the failure that the operation records on a service, if it records one. -/
def failure? (name : String) (x : Entry) : Option Timestamp :=
  match x.operation with
  | .failure service now => if service = name then some now else none
  | .probes service healthy _ now => if service = name ∧ healthy = 0 then some now else none
  | .select _ _ | .success _ _ => none

/-- What that failure did to the circuit. -/
def outcome? (name : String) (x : Entry) : Option FailureOutcome :=
  match x.operation with
  | .failure service now =>
    if service = name then (x.before.recordFailure service now).1 else none
  | .probes service healthy latency now =>
    if service = name then
      (x.before.find? service).bind fun e =>
        (e.applyProbeCycle healthy latency now x.before.policy.failureThreshold
          x.before.policy.openFor).1
    else none
  | .select _ _ | .success _ _ => none

/-- The operation resets the breaker of a service: it records a success, or it is a selection that
finds the circuit open and its deadline over. -/
def resets (name : String) (x : Entry) : Bool :=
  match x.operation with
  | .select service now => service = name ∧ (x.before.deadline? name).any fun d => d < now
  | .success service _ => service = name
  | .failure _ _ => false
  | .probes service healthy _ _ => service = name ∧ 0 < healthy

/-- The streak of a service's failures after the operation. -/
def streak (name : String) (before : List Timestamp) (x : Entry) : List Timestamp :=
  if x.resets name then [] else before ++ (x.failure? name).toList

end Entry

/-- The times of the failures recorded on a service since its last reset. -/
def streak (name : String) (trace : List Entry) : List Timestamp :=
  trace.foldl (Entry.streak name) []

namespace Entry

variable {x : Entry} {name : String} {e : Endpoint}

/-- An operation on another service neither resets this one nor fails on it. -/
theorem streak_of_ne (h : x.operation.service ≠ name) (before : List Timestamp) :
    x.streak name before = before := by
  obtain ⟨r, o⟩ := x
  cases o <;> simp_all [streak, resets, failure?, Operation.service]

/-- Nothing fails on this service by an operation on another one. -/
theorem outcome?_of_ne (h : x.operation.service ≠ name) : x.outcome? name = none := by
  obtain ⟨r, o⟩ := x
  cases o <;> simp_all [outcome?, Operation.service]

/-- Nothing fails on a service outside the catalogue. -/
theorem outcome?_of_find?_eq_none (h : x.before.find? x.operation.service = none) :
    x.outcome? name = none := by
  obtain ⟨r, o⟩ := x
  cases o with
  | select service now => rfl
  | success service elapsed => rfl
  | failure service now =>
      simp only [Operation.service] at h
      simp only [outcome?, recordFailure, h, ite_self]
  | probes service healthy latency now =>
      simp only [Operation.service] at h
      simp only [outcome?, h, Option.bind_none, ite_self]

/-- What a failure did is told by the endpoint that it met. -/
theorem outcome?_eq (he : x.before.find? name = some e) (h : x.operation.service = name) :
    x.outcome? name = e.outcome? x.before.policy x.operation := by
  obtain ⟨r, o⟩ := x
  subst h
  cases o <;> simp_all [outcome?, recordFailure, Endpoint.outcome?, Operation.service]

/-- **One operation**: the breaker follows the streak. -/
theorem breaker_perform (hpos : 1 ≤ x.before.policy.failureThreshold)
    (hbound : x.before.policy.failureThreshold ≤ maxUnsigned32)
    (he : x.before.find? name = some e) (h : x.operation.service = name) {before : List Timestamp}
    (hbreaker : e.breaker = .ofStreak x.before.policy before) :
    (e.perform x.before.policy x.operation).breaker
      = .ofStreak x.before.policy (x.streak name before) := by
  obtain ⟨r, o⟩ := x
  subst h
  have hfailed : ∀ now, (e.breaker.onFailure now r.policy.failureThreshold r.policy.openFor).2
      = .ofStreak r.policy (before ++ [now]) := fun now => by
    rw [hbreaker, Breaker.onFailure_ofStreak hpos hbound]
  cases o with
  | select service now =>
      have hasked : (e.perform r.policy (.select service now)).breaker
          = (e.breaker.tryPass now).2 := by
        rw [← e.breaker_available now, Endpoint.perform]
        split <;> rfl
      rw [hasked, Breaker.tryPass, streak, resets, deadline?, he, Option.bind_some]
      rcases hopen : e.breaker.openUntil with _ | deadline
      · simp [hbreaker, failure?]
      · by_cases hover : deadline < now
        · simp [Operation.service, hover, Breaker.ofStreak_nil]
        · simp [hbreaker, failure?, hover]
  | success service elapsed =>
      simp [streak, resets, Operation.service, Endpoint.perform, Endpoint.recordSuccess,
        Breaker.onSuccess, Breaker.ofStreak_nil]
  | failure service now =>
      simp [streak, resets, failure?, Operation.service, Endpoint.perform, Endpoint.recordFailure,
        hfailed]
  | probes service healthy latency now =>
      rcases Nat.eq_zero_or_pos healthy with rfl | hhealthy
      · simp [streak, resets, failure?, Operation.service, Endpoint.perform,
          Endpoint.applyProbeCycle, Endpoint.recordFailure, hfailed]
      · simp [streak, resets, Operation.service, Endpoint.perform, Endpoint.applyProbeCycle,
          Endpoint.recordSuccess, Breaker.onSuccess, Breaker.ofStreak_nil, hhealthy]

/-- A recorded failure is the next of its streak, and did what its place in the streak says. -/
theorem outcome?_of_failure? (hpos : 1 ≤ x.before.policy.failureThreshold)
    (hbound : x.before.policy.failureThreshold ≤ maxUnsigned32)
    (he : x.before.find? name = some e) {before : List Timestamp}
    (hbreaker : e.breaker = .ofStreak x.before.policy before) {t : Timestamp}
    (ht : x.failure? name = some t) :
    x.streak name before = before ++ [t] ∧
      x.outcome? name
        = some (.ofOrdinal x.before.policy.failureThreshold (before.length + 1)) := by
  obtain ⟨r, o⟩ := x
  have hfailed : ∀ now, (e.breaker.onFailure now r.policy.failureThreshold r.policy.openFor).1
      = .ofOrdinal r.policy.failureThreshold (before.length + 1) := fun now => by
    rw [hbreaker, Breaker.onFailure_ofStreak hpos hbound]
  cases o with
  | select service now => cases ht
  | success service elapsed => cases ht
  | failure service now =>
      by_cases hname : service = name
      · subst hname
        obtain rfl : now = t := by simpa [failure?] using ht
        simp only at he
        simp [streak, resets, failure?, outcome?, recordFailure, he, Endpoint.recordFailure,
          hfailed]
      · exact absurd ht (by simp [failure?, hname])
  | probes service healthy latency now =>
      by_cases hname : service = name ∧ healthy = 0
      · obtain ⟨rfl, rfl⟩ := hname
        obtain rfl : now = t := by simpa [failure?] using ht
        simp only at he
        simp [streak, resets, failure?, outcome?, he, Endpoint.applyProbeCycle,
          Endpoint.recordFailure, hfailed]
      · exact absurd ht (by simp [failure?, hname])

/-- A selection that does not reset an open circuit finds it closed to traffic. -/
theorem available_eq_false (he : x.before.find? name = some e) {deadline : Timestamp}
    (hopen : e.breaker.openUntil = some deadline) (hresets : x.resets name = false)
    {now : Timestamp} (hselect : x.operation = .select name now) :
    e.available now = (false, e) := by
  refine Endpoint.available_of_not_lt hopen ?_
  simpa [resets, hselect, deadline?, he, hopen] using hresets

/-- A failure on a service is an operation on it, and no selection. -/
theorem of_failure? {t : Timestamp} (ht : x.failure? name = some t) :
    x.operation.service = name ∧ ∀ service now, x.operation ≠ .select service now := by
  obtain ⟨r, o⟩ := x
  cases o <;> simp_all [failure?, Operation.service]

end Entry

/-! ### Whole runs -/

/-- The streak after one operation more. -/
theorem streak_append_singleton (name : String) (trace : List Entry) (x : Entry) :
    streak name (trace ++ [x]) = x.streak name (streak name trace) := by
  rw [streak, List.foldl_append, List.foldl_cons, List.foldl_nil, ← streak]

/-- Without a reset the streak goes on. -/
theorem streak_append_of_not_resets {name : String} {trace later : List Entry}
    (h : ∀ y ∈ later, y.resets name = false) :
    streak name (trace ++ later) = streak name trace ++ later.filterMap (Entry.failure? name) := by
  induction later using List.reverseRecOn with
  | nil => simp
  | append_singleton later y ih =>
      have hlater := ih fun z hz => h z (List.mem_append_left _ hz)
      have hy := h y (List.mem_append_right _ (List.mem_singleton.mpr rfl))
      rw [← List.append_assoc, streak_append_singleton, hlater, Entry.streak, hy,
        List.filterMap_append]
      rcases hfailure : y.failure? name with _ | t <;> simp [hfailure]

variable {services : List ServiceConfig} {policy : BreakerPolicy} {r : Registry} {name : String}

/-- **The breaker of a service is determined by its streak**, at every moment of a run. -/
theorem breaker_run (h : ofConfig services policy = .ok r) (hpos : 1 ≤ policy.failureThreshold)
    (hbound : policy.failureThreshold ≤ maxUnsigned32) (hname : r.contains name = true)
    (operations : List Operation) :
    ∃ e, (r.run operations).find? name = some e ∧
      e.breaker = .ofStreak policy (streak name (r.entries operations)) := by
  induction operations using List.reverseRecOn with
  | nil =>
      obtain ⟨e, he⟩ := Option.isSome_iff_exists.mp hname
      exact ⟨e, he, breaker_ofConfig h he⟩
  | append_singleton operations o ih =>
      obtain ⟨e, he, hbreaker⟩ := ih
      have hpolicy : (r.run operations).policy = policy :=
        (policy_run r operations).trans (policy_ofConfig h).1
      rw [run_append_singleton, find?_perform, he, entries_append_singleton, hpolicy,
        streak_append_singleton]
      by_cases hservice : o.service = name
      · refine ⟨e.perform policy o, by simp [hservice], ?_⟩
        subst hpolicy
        exact Entry.breaker_perform (x := ⟨r.run operations, o⟩) hpos hbound he hservice hbreaker
      · refine ⟨e, by simp [hservice], ?_⟩
        rw [Entry.streak_of_ne (x := ⟨r.run operations, o⟩) hservice, hbreaker]

/-- Counters of different services are different series. -/
theorem total_noteOutcome (r : Registry) (service : String) (outcome : Option FailureOutcome)
    (name : String) :
    (r.noteOutcome service outcome).metrics.total (Metrics.circuitOpened name)
      = r.metrics.total (Metrics.circuitOpened name)
        + if service = name ∧ outcome = some .opened then 1 else 0 := by
  rw [noteOutcome]
  by_cases hopened : outcome = some .opened
  · rw [if_pos hopened, Metrics.total, List.count_append, List.count_singleton, ← Metrics.total]
    by_cases hname : service = name <;> simp [hopened, hname, Metrics.circuitOpened]
  · simp [hopened]

/-- **One operation** counts its opening. -/
theorem total_perform (x : Entry) (name : String) :
    x.after.metrics.total (Metrics.circuitOpened name)
      = x.before.metrics.total (Metrics.circuitOpened name)
        + if x.outcome? name = some .opened then 1 else 0 := by
  rw [Entry.after]
  rcases he : x.before.find? x.operation.service with _ | e
  · rw [perform_of_find?_eq_none he, Entry.outcome?_of_find?_eq_none he]
    simp
  · rw [perform_of_find?_eq_some he, total_noteOutcome, metrics_replace]
    by_cases hservice : x.operation.service = name
    · rw [hservice] at he
      simp [hservice, Entry.outcome?_eq he hservice]
    · simp [hservice, Entry.outcome?_of_ne hservice]

/-- **The counter counts the openings.** -/
theorem total_run (h : ofConfig services policy = .ok r) (operations : List Operation) :
    (r.run operations).metrics.total (Metrics.circuitOpened name)
      = (r.entries operations).countP fun x => x.outcome? name = some .opened := by
  induction operations using List.reverseRecOn with
  | nil =>
      rw [run, List.foldl_nil, (policy_ofConfig h).2]
      rfl
  | append_singleton operations o ih =>
      rw [run_append_singleton, entries_append_singleton, List.countP_append, List.countP_singleton,
        ← ih]
      simp only [decide_eq_true_eq]
      exact total_perform ⟨r.run operations, o⟩ name

/-! ### From an opening to the next reset -/

section

variable (h : ofConfig services policy = .ok r) (hpos : 1 ≤ policy.failureThreshold)
  (hbound : policy.failureThreshold ≤ maxUnsigned32) (hname : r.contains name = true)
  {operations : List Operation} {past between : List Entry} {x : Entry} {t : Timestamp}
  (hsplit : r.entries operations = past ++ x :: between) (ht : x.failure? name = some t)
  (hopened : x.outcome? name = some .opened) (hbetween : ∀ y ∈ between, y.resets name = false)
include h hpos hbound hname hsplit ht hopened hbetween

/-- **The circuit stays open** from the failure that opened it to the next reset. -/
theorem deadline_run :
    ∃ e, (r.run operations).find? name = some e ∧
      e.breaker.openUntil = some (t.after policy.openFor) := by
  obtain ⟨done, rest, -, rfl, hbefore, -⟩ := exists_of_entries_eq hsplit
  have hpolicy : x.before.policy = policy := by
    rw [hbefore, policy_run, (policy_ofConfig h).1]
  obtain ⟨e₀, he₀, hbreaker₀⟩ := breaker_run h hpos hbound hname done
  rw [← hbefore] at he₀
  rw [← hpolicy] at hbreaker₀ hpos hbound
  obtain ⟨hstreak, houtcome⟩ := Entry.outcome?_of_failure? hpos hbound he₀ hbreaker₀ ht
  rw [hopened, Option.some.injEq, eq_comm, FailureOutcome.ofOrdinal_eq_opened, hpolicy] at houtcome
  rw [hpolicy] at hpos hbound
  obtain ⟨e, he, hbreaker⟩ := breaker_run h hpos hbound hname operations
  refine ⟨e, he, ?_⟩
  have hlonger : streak name (r.entries operations)
      = streak name (r.entries done) ++ t :: between.filterMap (Entry.failure? name) := by
    rw [hsplit, List.append_cons, streak_append_of_not_resets hbetween, streak_append_singleton,
      hstreak, List.append_assoc, List.singleton_append]
  rw [hbreaker, Breaker.ofStreak, hlonger]
  have hindex : policy.failureThreshold - 1 = (streak name (r.entries done)).length := by omega
  simp [hindex]

/-- **The cursor stays** where it was when the circuit opened. -/
theorem cursor_run {e₀ e : Endpoint} (he₀ : x.before.find? name = some e₀)
    (he : (r.run operations).find? name = some e) : e.cursor = e₀.cursor := by
  induction between using List.reverseRecOn generalizing operations e with
  | nil =>
      obtain ⟨hservice, hselect⟩ := Entry.of_failure? ht
      obtain ⟨done, rfl, -, hbefore⟩ := exists_of_entries_eq_append_singleton hsplit
      rw [hbefore] at he₀
      rw [run_append_singleton, find?_perform, if_pos hservice, he₀, Option.map_some,
        Option.some.injEq] at he
      rw [← he]
      exact Endpoint.cursor_perform fun service now hnow => absurd hnow (hselect service now)
  | append_singleton between y ih =>
      rw [← List.cons_append, ← List.append_assoc] at hsplit
      obtain ⟨done, rfl, hdone, hbefore⟩ := exists_of_entries_eq_append_singleton hsplit
      have hearlier := fun z hz => hbetween z (List.mem_append_left _ hz)
      obtain ⟨e₁, he₁, hopen⟩ :=
        deadline_run h hpos hbound hname hdone ht hopened hearlier
      have hcursor := ih hdone hearlier he₁
      rw [← hcursor]
      rw [run_append_singleton, find?_perform, he₁] at he
      by_cases hservice : y.operation.service = name
      · rw [if_pos hservice, Option.map_some, Option.some.injEq] at he
        rw [← he]
        refine Endpoint.cursor_perform fun service now hnow => ?_
        rw [hnow, Operation.service] at hservice
        subst hservice
        rw [← hbefore] at he₁
        rw [Entry.available_eq_false he₁ hopen
          (hbetween y (List.mem_append_right _ (List.mem_singleton.mpr rfl))) hnow]
      · rw [if_neg hservice, Option.some.injEq] at he
        rw [he]

/-- **No selection passes** from the failure that opened the circuit to the next reset. -/
theorem select_eq_error {y : Entry} (hy : y ∈ between) {now : Timestamp}
    (hselect : y.operation = .select name now) :
    (y.before.select name now).1 = .error (.unavailable name true) := by
  obtain ⟨front, back, rfl⟩ := List.append_of_mem hy
  rw [← List.cons_append, ← List.append_assoc] at hsplit
  obtain ⟨done, rest, -, hdone, hbefore, -⟩ := exists_of_entries_eq hsplit
  obtain ⟨e, he, hopen⟩ := deadline_run h hpos hbound hname hdone ht hopened
    fun z hz => hbetween z (List.mem_append_left _ hz)
  rw [← hbefore] at he
  have hclosed := Entry.available_eq_false he hopen (hbetween y hy) hselect
  rw [select, he]
  simp [hclosed, Breaker.isOpen, hopen]

end

/-! ### The contract -/

/-- **What a breaker promises** about a run: failures do what their places in the streak say, the
openings are counted, and from an opening to the next reset the circuit stays open until the same
deadline, the cursor does not move, and every selection is refused. A run that goes on only so far
is a run as well, so the second half is about every moment before the reset. -/
structure BreakerContract (r : Registry) (policy : BreakerPolicy) (name : String)
    (operations : List Operation) : Prop where
  /-- What a failure does is a matter of how many there were since the last reset. -/
  outcome : ∀ past x later t, r.entries operations = past ++ x :: later →
    x.failure? name = some t →
      x.outcome? name
        = some (.ofOrdinal policy.failureThreshold ((streak name past).length + 1))
  /-- The counter of openings counts the failures that opened the circuit. -/
  counted : (r.run operations).metrics.total (Metrics.circuitOpened name)
    = (r.entries operations).countP fun x => x.outcome? name = some .opened
  /-- The deadline and the cursor stay until the next reset. -/
  held : ∀ past x between t, r.entries operations = past ++ x :: between →
    x.failure? name = some t → x.outcome? name = some .opened →
    (∀ y ∈ between, y.resets name = false) →
      ∃ e₀ e, x.before.find? name = some e₀ ∧ (r.run operations).find? name = some e ∧
        e.breaker.openUntil = some (t.after policy.openFor) ∧ e.cursor = e₀.cursor
  /-- Every selection is refused until the next reset. -/
  refused : ∀ past x between t, r.entries operations = past ++ x :: between →
    x.failure? name = some t → x.outcome? name = some .opened →
    (∀ y ∈ between, y.resets name = false) →
      ∀ y ∈ between, ∀ now, y.operation = .select name now →
        (y.before.select name now).1 = .error (.unavailable name true)

/-- **The breaker keeps its contract** in every run of every service, at any times. -/
theorem breaker_contract (h : ofConfig services policy = .ok r)
    (hpos : 1 ≤ policy.failureThreshold) (hbound : policy.failureThreshold ≤ maxUnsigned32)
    (hname : r.contains name = true) (operations : List Operation) :
    BreakerContract r policy name operations where
  outcome := by
    intro past x later t hsplit ht
    obtain ⟨done, rest, -, rfl, hbefore, -⟩ := exists_of_entries_eq hsplit
    have hpolicy : x.before.policy = policy := by
      rw [hbefore, policy_run, (policy_ofConfig h).1]
    obtain ⟨e, he, hbreaker⟩ := breaker_run h hpos hbound hname done
    rw [← hbefore] at he
    rw [← hpolicy] at hpos hbound hbreaker ⊢
    exact (Entry.outcome?_of_failure? hpos hbound he hbreaker ht).2
  counted := total_run h operations
  held := by
    intro past x between t hsplit ht hopened hbetween
    obtain ⟨done, rest, -, -, hbefore, -⟩ := exists_of_entries_eq hsplit
    obtain ⟨e₀, he₀, -⟩ := breaker_run h hpos hbound hname done
    rw [← hbefore] at he₀
    obtain ⟨e, he, hopen⟩ := deadline_run h hpos hbound hname hsplit ht hopened hbetween
    exact ⟨e₀, e, he₀, he, hopen,
      cursor_run h hpos hbound hname hsplit ht hopened hbetween he₀ he⟩
  refused := by
    intro past x between t hsplit ht hopened hbetween y hy now hselect
    exact select_eq_error h hpos hbound hname hsplit ht hopened hbetween hy hselect

/-- A threshold of two and a minute: the second failure, here of a probe cycle, opens the circuit, a
selection at the deadline is refused, and the one after it passes and resets the breaker. -/
theorem breaker_contract_two_failures :
    let services : List ServiceConfig := [{ name := "a", instances := [{ url := "http://h" }] }]
    let policy : BreakerPolicy := { failureThreshold := 2, openSeconds := 60 }
    let operations : List Operation :=
      [.failure "a" (.ofParts 0 0), .probes "a" 0 none (.ofParts 1 0), .failure "a" (.ofParts 40 0),
        .select "a" (.ofParts 61 0), .select "a" (.ofParts 62 0), .failure "a" (.ofParts 50 0)]
    ∃ r, ofConfig services policy = .ok r ∧ 1 ≤ policy.failureThreshold ∧
      policy.failureThreshold ≤ maxUnsigned32 ∧ r.contains "a" = true ∧
      (r.entries operations).map (Entry.outcome? "a")
        = [some .belowThreshold, some .opened, some .alreadyOpen, none, none,
            some .belowThreshold] ∧
      (r.entries operations).map (Entry.resets "a") = [false, false, false, false, true, false] ∧
      BreakerContract r policy "a" operations := by
  refine ⟨_, rfl, by decide, by decide, by decide, by decide, by decide, ?_⟩
  exact @breaker_contract [{ name := "a", instances := [{ url := "http://h" }] }] _ _ _ rfl
    (by decide) (by decide) (by decide) _

end Registry

end Tollgate
