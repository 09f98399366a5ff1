import Mathlib.Order.Bounds.Basic
import Tollgate.Proofs.Registry.Life

/-!
# The decaying count of errors

A service counts its errors apart from the failures in a row that its breaker counts: a failure adds
one, a success takes one away, and the count never falls below zero. Over a whole run this is the
largest excess of failures over successes since any moment of it, the last one included
(`Registry.errorCount_isGreatest`).

One operation moves the count by what it records (`Endpoint.errorCount_perform`), and at zero
nothing is taken away. The excess since every moment moves by the same step, and the present moment
joins them with an excess of zero. So the largest excess makes the same floored step
(`Registry.isGreatest_excesses_append`), and the two agree over every run.

## Conventions

* An operation fails or succeeds on the service that it names. A probe cycle succeeds if it found an
  instance healthy, and fails otherwise. Selections do neither.
* The count has 64 bits, so a run must have fewer than `2 ^ 64` failures of the service; of all else
  it may have any number.

## Main results

* `Endpoint.errorCount_perform`: what one operation makes of the count.
* `Registry.isGreatest_excesses_append`: what one operation makes of the largest excess.
* `Registry.errorCount_isGreatest`: the count after every life.
-/

namespace Tollgate

namespace Operation

/-- The operation records a failure of the service. -/
def fails (name : String) : Operation → Bool
  | failure service _ => service = name
  | probes service healthy _ _ => service = name ∧ healthy = 0
  | select _ _ | success _ _ => false

/-- The operation records a success of the service. -/
def succeeds (name : String) : Operation → Bool
  | success service _ => service = name
  | probes service healthy _ _ => service = name ∧ 0 < healthy
  | select _ _ | failure _ _ => false

variable {name : String} {o : Operation}

/-- An operation on another service neither fails nor succeeds on this one. -/
theorem neither_of_ne (h : o.service ≠ name) : o.fails name = false ∧ o.succeeds name = false := by
  cases o <;> simp_all [fails, succeeds, service]

/-- No operation both fails and succeeds. -/
theorem not_succeeds_of_fails (h : o.fails name = true) : o.succeeds name = false := by
  cases o <;> simp_all [fails, succeeds]

end Operation

namespace Endpoint

/-- **One operation and the count of errors**: a failure adds one, up to the bound of the word, and
a success takes one away, if there is one. -/
theorem errorCount_perform (policy : BreakerPolicy) (e : Endpoint) (o : Operation) :
    (e.perform policy o).errorCount
      = if o.fails o.service then min maxUnsigned64 (e.errorCount + 1)
        else if o.succeeds o.service then e.errorCount - 1
        else e.errorCount := by
  cases o with
  | select service now =>
      obtain ⟨cursor, h, hselect⟩ := e.exists_perform_select policy service now
      rw [hselect]
      rfl
  | success service elapsed => simp [perform, recordSuccess, Operation.fails, Operation.succeeds,
      Operation.service]
  | failure service now => simp [perform, recordFailure, Operation.fails, Operation.service,
      Saturating.addUpTo]
  | probes service healthy latency now =>
      rw [perform, applyProbeCycle]
      by_cases hhealthy : 0 < healthy
      · have hsome : healthy ≠ 0 := Nat.ne_of_gt hhealthy
        simp [hhealthy, hsome, recordSuccess, Operation.fails, Operation.succeeds,
          Operation.service]
      · have hnone : healthy = 0 := by omega
        simp [hnone, recordFailure, Operation.fails, Operation.service, Saturating.addUpTo]

end Endpoint

namespace Registry

/-! ### Excesses -/

/-- By how much the failures of a service exceed its successes. -/
def excess (name : String) (operations : List Operation) : Int :=
  operations.countP (Operation.fails name) - operations.countP (Operation.succeeds name)

/-- **The excesses since every moment** of a run, the last one included. -/
def excesses (name : String) (operations : List Operation) : Set Int :=
  {d | ∃ since, since <:+ operations ∧ d = excess name since}

variable {name : String} {operations : List Operation} {o : Operation}

/-- One more operation moves an excess by its own. -/
theorem excess_append_singleton (name : String) (operations : List Operation) (o : Operation) :
    excess name (operations ++ [o]) = excess name operations + excess name [o] := by
  simp only [excess, List.countP_append]
  omega

/-- The excess of one operation. -/
theorem excess_singleton (name : String) (o : Operation) :
    excess name [o] = if o.fails name then 1 else if o.succeeds name then -1 else 0 := by
  rw [excess, List.countP_singleton, List.countP_singleton]
  by_cases hfails : o.fails name = true
  · rw [if_pos hfails, if_pos hfails, Operation.not_succeeds_of_fails hfails]
    rfl
  · rw [if_neg hfails, if_neg hfails]
    split <;> rfl

/-- **One more operation** moves the largest excess by its own, and not below zero. -/
theorem isGreatest_excesses_append {peak : Int} (h : IsGreatest (excesses name operations) peak)
    (o : Operation) :
    IsGreatest (excesses name (operations ++ [o])) (max 0 (peak + excess name [o])) := by
  obtain ⟨⟨longest, hlongest, rfl⟩, hmost⟩ := h
  constructor
  -- the greatest excess goes on as long as it stays above that of the present moment
  · rcases Int.le_total 0 (excess name longest + excess name [o]) with hmore | hless
    · refine ⟨longest ++ [o], List.suffix_concat_iff.mpr (.inr ⟨longest, rfl, hlongest⟩), ?_⟩
      rw [max_eq_right hmore, excess_append_singleton]
    · exact ⟨[], List.nil_suffix, max_eq_left hless⟩
  · rintro _ ⟨since, hsince, rfl⟩
    rcases List.suffix_concat_iff.mp hsince with rfl | ⟨earlier, rfl, hearlier⟩
    · exact le_max_left _ _
    · have hle := hmost ⟨earlier, hearlier, rfl⟩
      rw [excess_append_singleton]
      omega

/-- The excesses of a run without operations. -/
theorem isGreatest_excesses_nil (name : String) : IsGreatest (excesses name []) 0 := by
  refine ⟨⟨[], List.nil_suffix, rfl⟩, ?_⟩
  rintro _ ⟨since, hsince, rfl⟩
  rw [List.suffix_nil.mp hsince]
  exact Int.le_refl 0

/-- No excess is larger than the number of all failures. -/
theorem le_countP_of_mem_excesses {d : Int} (h : d ∈ excesses name operations) :
    d ≤ operations.countP (Operation.fails name) := by
  obtain ⟨since, hsince, rfl⟩ := h
  have hfewer : since.countP (Operation.fails name) ≤ operations.countP (Operation.fails name) :=
    hsince.sublist.countP_le
  rw [excess]
  omega

/-! ### Runs -/

/-- **One operation of a run** makes of the count of errors what it makes of the largest excess, as
long as the count fits into its word. -/
theorem errorCount_step {e : Endpoint} (policy : BreakerPolicy) (hservice : o.service = name)
    (hroom : o.fails name = true → e.errorCount < maxUnsigned64) :
    ((e.perform policy o).errorCount : Int) = max 0 (e.errorCount + excess name [o]) := by
  rw [Endpoint.errorCount_perform, hservice, excess_singleton]
  split
  · next hfails =>
      have hbelow := hroom hfails
      omega
  · split <;> omega

/-- **The count of errors after a run**: the largest excess since any moment of it. -/
theorem exists_run_isGreatest {r : Registry} {e : Endpoint} (he : r.find? name = some e)
    (hzero : e.errorCount = 0)
    (hfew : operations.countP (Operation.fails name) ≤ maxUnsigned64) :
    ∃ e', (r.run operations).find? name = some e' ∧
      IsGreatest (excesses name operations) e'.errorCount := by
  induction operations using List.reverseRecOn with
  | nil => exact ⟨e, he, by rw [hzero]; exact isGreatest_excesses_nil name⟩
  | append_singleton operations o ih =>
      rw [List.countP_append, List.countP_singleton] at hfew
      obtain ⟨before, hbefore, hpeak⟩ := ih (by omega)
      -- the count is one of the excesses, so the failures bound it and it has room in its word
      have hbound := le_countP_of_mem_excesses hpeak.1
      have hnext := isGreatest_excesses_append hpeak o
      rw [run_append_singleton, find?_perform, hbefore, policy_run]
      by_cases hservice : o.service = name
      · refine ⟨_, by rw [if_pos hservice, Option.map_some], ?_⟩
        rw [errorCount_step r.policy hservice fun hfails => ?_]
        · exact hnext
        · rw [if_pos hfails] at hfew
          omega
      · refine ⟨before, by rw [if_neg hservice], ?_⟩
        obtain ⟨hfails, hsucceeds⟩ := Operation.neither_of_ne hservice
        rw [excess_singleton, if_neg (by simp [hfails]), if_neg (by simp [hsucceeds]), Int.add_zero,
          max_eq_right (Int.natCast_nonneg _)] at hnext
        exact hnext

/-! ### Whole lives -/

/-- A life leaves of a service what the operations that it stands for leave of it. -/
theorem find?_meetAll_eq_run (r : Registry) (events : List Event) (name : String) :
    (r.meetAll events).find? name = (r.run (r.history events)).find? name := by
  rw [find?_meetAll, find?_run]

/-- **The decaying count of errors** of every configured service, whatever the registry meets: it is
the largest excess of the failures over the successes since any moment, and the next operation moves
it by what it records, whatever the time and whatever it does to the circuit. -/
theorem errorCount_isGreatest {services : List ServiceConfig} {policy : BreakerPolicy}
    {r : Registry} (h : ofConfig services policy = .ok r) {s : ServiceConfig} (hs : s ∈ services)
    (events : List Event)
    (hfew : (r.history events).countP (Operation.fails s.name) ≤ maxUnsigned64) :
    ∃ e, (r.meetAll events).find? s.name = some e ∧
      IsGreatest (excesses s.name (r.history events)) e.errorCount ∧
      ∀ o, (((r.meetAll events).perform o).find? s.name).map Endpoint.errorCount
        = some (if o.fails s.name then min maxUnsigned64 (e.errorCount + 1)
            else if o.succeeds s.name then e.errorCount - 1
            else e.errorCount) := by
  obtain ⟨fresh, hfresh, hzero⟩ : ∃ e, r.find? s.name = some e ∧ e.errorCount = 0 := by
    obtain ⟨endpoints, hall, -⟩ := exists_of_ofConfig h
    obtain ⟨t, ht, hlast, -⟩ := exists_find?_reverse hs
    obtain ⟨e, he⟩ := endpoint?_of_mem hall ht
    obtain ⟨-, -, -, -, -, hcount, -⟩ := endpoint?_fields he
    exact ⟨e, by rw [find?_ofConfig h, hlast, Option.bind_some, he], hcount⟩
  obtain ⟨e, he, hpeak⟩ := exists_run_isGreatest hfresh hzero hfew
  rw [← find?_meetAll_eq_run] at he
  refine ⟨e, he, hpeak, fun o => ?_⟩
  rw [find?_perform, he]
  by_cases hservice : o.service = s.name
  · rw [if_pos hservice, Option.map_some, Option.map_some, Endpoint.errorCount_perform, hservice]
  · obtain ⟨hfails, hsucceeds⟩ := Operation.neither_of_ne hservice
    simp [hservice, hfails, hsucceeds]

/-- Two successes that find nothing to take away, a request that fails, a cycle that finds no
instance healthy and opens the circuit, a selection after the deadline that closes it, a success and
a failure: the count is 2, as since the third event, although there were as many successes. -/
theorem errorCount_isGreatest_opened_and_closed :
    let services : List ServiceConfig := [{ name := "a", instances := [{ url := "http://x" }] }]
    let policy : BreakerPolicy := { failureThreshold := 2, openSeconds := 60 }
    let refused : Backend := fun _ => { outcome := .error .connect }
    let request : Request :=
      { method := "GET", uri := ⟨none, none, "/", none⟩, headers := [], body := .empty }
    let success : Event := .operation (.success "a" .zero)
    let events : List Event :=
      [success, success,
        .errand ⟨.frozen (.ofParts 0 0), .ofSeconds 5, request, "a", "/", refused⟩,
        .cycle (fun _ => .ofParts 1 0) (.ofSeconds 5) refused,
        .operation (.select "a" (.ofParts 62 0)),
        success, .operation (.failure "a" (.ofParts 63 0))]
    let view (e : Endpoint) := (e.breaker.isOpen, e.errorCount)
    ∃ r, ofConfig services policy = .ok r ∧
      (r.history events).countP (Operation.fails "a") = 3 ∧ excess "a" (r.history events) = 0 ∧
      (r.meetAll (events.take 4)).services.map view = [(true, 2)] ∧
      (r.meetAll (events.take 5)).services.map view = [(false, 2)] ∧
      (r.meetAll events).services.map view = [(false, 2)] ∧
      IsGreatest (excesses "a" (r.history events)) 2 := by
  intro services policy refused request success events view
  refine ⟨_, rfl, by decide +kernel, by decide +kernel, by decide +kernel, by decide +kernel,
    by decide +kernel, ?_⟩
  obtain ⟨e, he, hpeak, -⟩ := @errorCount_isGreatest services policy _ rfl _ List.mem_cons_self
    events (by decide +kernel)
  have hcount : (some e).map Endpoint.errorCount = some 2 := he ▸ by decide +kernel
  rwa [Option.some.inj hcount] at hpeak

end Registry

end Tollgate
