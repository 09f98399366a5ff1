import Mathlib.Data.Int.CardIntervalMod
import Tollgate.Proofs.Registry.BreakerContract
import Tollgate.Proofs.Registry.Life

/-!
# Round robin

Whatever a registry meets, the selections of a service that are not refused take its instances in
turn, in the order they were configured in and from the first one on (`Registry.round_robin`). A
selection is one wherever it is made, also on the way of a request that is forwarded.

Only a selection that is granted moves the cursor, by one place (`Registry.cursor_meet`), so the
cursor counts the grants. The rest is counting: among the first `m` numbers every residue modulo `n`
occurs as often as any other, give or take one, and among `n` numbers in a row exactly once.

## Main results

* `Registry.cursor_meet`: what one event makes of the cursor.
* `Registry.turns_eq`, `Registry.map_some_grants`: the turns of a life, and what they granted.
* `Registry.round_robin`: order, balance, and `n` grants in a row.

## Conventions

* A turn is the place of the selected instance, counted from 0. Instances may have the same URL, so
  the places tell more than the URLs that were granted.
-/

namespace Tollgate

/-! ### Counting residues -/

/-- Among the first `m` numbers a residue modulo `n` occurs `m / n` times, and once more if it is
among those of the last, incomplete round. -/
theorem count_map_mod_range {n i : Nat} (hi : i < n) (m : Nat) :
    ((List.range m).map (· % n)).count i = m / n + if i < m % n then 1 else 0 := by
  have hcount : ((List.range m).map (· % n)).count i = Nat.count (· ≡ i [MOD n]) m := by
    rw [List.count, List.countP_map, Nat.count]
    refine List.countP_congr fun k _ => ?_
    simp [Nat.ModEq, Nat.mod_eq_of_lt hi]
  rw [hcount, Nat.count_modEq_card m (Nat.zero_lt_of_lt hi), Nat.mod_eq_of_lt hi]

/-- Rounding a quotient up adds one if there is a remainder. -/
theorem add_pred_div_eq {m n : Nat} (h : 0 < m % n) (hn : 0 < n) :
    (m + n - 1) / n = m / n + 1 := by
  have hparts : m + n - 1 = n * (m / n + 1) + (m % n - 1) := by
    have hdivision := Nat.div_add_mod m n
    rw [Nat.mul_add, Nat.mul_one]
    omega
  have hless : m % n - 1 < n := by
    have hremainder := Nat.mod_lt m hn
    omega
  rw [hparts, Nat.mul_add_div hn, Nat.div_eq_of_lt hless, Nat.add_zero]

/-- **Balance**: among the first `m` numbers every residue modulo `n` occurs as often as `m / n`
says, rounded down or rounded up. -/
theorem count_map_mod_range_balanced {n i : Nat} (hi : i < n) (m : Nat) :
    ((List.range m).map (· % n)).count i = m / n ∨
      ((List.range m).map (· % n)).count i = (m + n - 1) / n := by
  rw [count_map_mod_range hi]
  split
  · next hless =>
      right
      rw [add_pred_div_eq (Nat.zero_lt_of_lt hless) (Nat.zero_lt_of_lt hi)]
  · exact .inl rfl

/-- **A full round**: `n` numbers in a row have all the residues modulo `n`. -/
theorem perm_map_mod_range' (a n : Nat) : ((List.range' a n).map (· % n)).Perm (List.range n) := by
  have hround := Nat.multiset_Ico_map_mod a n
  have hrow : Multiset.Ico a (a + n) = (List.range' a n : Multiset Nat) := by
    rw [Multiset.Ico, Nat.Ico_eq_range', Nat.add_sub_cancel_left]
  rw [hrow, Multiset.map_coe, ← Multiset.coe_range] at hround
  exact Multiset.coe_eq_coe.mp hround

/-! ### The cursor -/

namespace Operation

/-- The selection that the operation is, if it is one: of which service, and when. -/
def selection? : Operation → Option (String × Timestamp)
  | select service now => some (service, now)
  | success _ _ | failure _ _ | probes _ _ _ _ => none

end Operation

namespace Endpoint

/-- Asking for the availability changes nothing about the instance under the cursor. -/
theorem current_available (e : Endpoint) (now : Timestamp) :
    (e.available now).2.current = e.current := by
  rw [snd_available]
  rfl

/-- Rotating moves the cursor on by one place, from the last one to the first. -/
theorem cursor_rotate (e : Endpoint) : e.rotate.cursor = (e.cursor + 1) % e.instances.length :=
  rfl

/-- A selection that passes moves the cursor on by one place. -/
theorem cursor_perform_select (policy : BreakerPolicy) {e : Endpoint} {now : Timestamp}
    (h : (e.available now).1 = true) (service : String) :
    (e.perform policy (.select service now)).cursor = (e.cursor + 1) % e.instances.length := by
  have hlength : (e.available now).2.instances.length = e.instances.length := by
    rw [snd_available]
  rw [perform, if_pos h, cursor_rotate, cursor_available, hlength]

/-- Operations that select nothing leave the cursor where it is. -/
theorem cursor_performAll {policy : BreakerPolicy} {e : Endpoint} {operations : List Operation}
    (h : ∀ o ∈ operations, o.selection? = none) :
    (e.performAll policy operations).cursor = e.cursor := by
  induction operations generalizing e with
  | nil => rfl
  | cons o rest ih =>
      rw [List.forall_mem_cons] at h
      rw [performAll, List.foldl_cons, ← performAll, ih h.2]
      refine cursor_perform fun service now hselect => ?_
      rw [hselect] at h
      cases h.1

end Endpoint

namespace Registry

/-- The selection that an event makes, if it makes one. -/
def Event.selection? : Event → Option (String × Timestamp)
  | .operation o => o.selection?
  | .errand x => some (x.service, x.times.selection)
  | .cycle .. => none

/-- The URL that a selection of a service is granted by an event, if it makes one and it is not
refused. -/
def grant? (r : Registry) (name : String) (event : Event) : Option String :=
  event.selection?.bind fun s =>
    if s.1 = name then (r.select s.1 s.2).1.toOption else none

/-- The place of the instance that is granted. -/
def turn? (r : Registry) (name : String) (event : Event) : Option Nat :=
  (r.grant? name event).bind fun _ => (r.find? name).map Endpoint.cursor

/-- The URLs that selections of a service are granted by some events. -/
def grants (r : Registry) (name : String) : List Event → List String
  | [] => []
  | event :: rest => (r.grant? name event).toList ++ (r.meet event).grants name rest

/-- The places of the instances that are granted. -/
def turns (r : Registry) (name : String) : List Event → List Nat
  | [] => []
  | event :: rest => (r.turn? name event).toList ++ (r.meet event).turns name rest

/-- The operations of an event are its selection, if it makes one, and no other one. -/
theorem operationsOf_eq (r : Registry) (event : Event) :
    ∃ rest, r.operationsOf event
        = (event.selection?.map fun s => Operation.select s.1 s.2).toList ++ rest ∧
      ∀ o ∈ rest, o.selection? = none := by
  cases event with
  | operation o =>
      cases o with
      | select service now => exact ⟨[], rfl, by simp⟩
      | success service elapsed => exact ⟨[_], rfl, by simp [Operation.selection?]⟩
      | failure service now => exact ⟨[_], rfl, by simp [Operation.selection?]⟩
      | probes service healthy latency now => exact ⟨[_], rfl, by simp [Operation.selection?]⟩
  | errand x =>
      refine ⟨((Delivery.result ⟨r, x⟩).sent.map (Delivery.outcome ⟨r, x⟩)).toList, rfl,
        fun o ho => ?_⟩
      rw [Option.mem_toList, Option.map_eq_some_iff] at ho
      obtain ⟨sent, -, rfl⟩ := ho
      rw [Delivery.outcome]
      split <;> rfl
  | cycle doneAt timeout backend =>
      refine ⟨_, rfl, fun o ho => ?_⟩
      obtain ⟨p, -, rfl⟩ := List.mem_map.mp ho
      rfl

/-- What a selection of a service is granted: the instance under the cursor, if it passes. -/
theorem toOption_select {r : Registry} {name : String} {e : Endpoint} (he : r.find? name = some e)
    (now : Timestamp) :
    (r.select name now).1.toOption
      = if (e.available now).1 then some e.current.requestUrl else none := by
  rw [select, he]
  by_cases hfree : (e.available now).1 = true
  · simp [hfree, Endpoint.next, Endpoint.current_available, Except.toOption]
  · simp [hfree, Except.toOption]

/-- **One event** and the cursor of a service: a grant is the instance under the cursor, which moves
on by one place. Without a grant it stays, also where a selection is refused. -/
theorem cursor_meet {r : Registry} {name : String} {e : Endpoint} (he : r.find? name = some e)
    (event : Event) :
    ∃ e', (r.meet event).find? name = some e' ∧ e'.instances = e.instances ∧
      match r.grant? name event with
      | none => e'.cursor = e.cursor
      | some url => url = e.current.requestUrl ∧
          e'.cursor = (e.cursor + 1) % e.instances.length := by
  refine ⟨_, by rw [find?_meet, he, Option.map_some], Endpoint.instances_performAll .., ?_⟩
  obtain ⟨rest, hoperations, hrest⟩ := operationsOf_eq r event
  have hothers : ∀ o ∈ rest.filter fun o => o.service = name, o.selection? = none :=
    fun o ho => hrest o (List.mem_of_mem_filter ho)
  rw [hoperations, List.filter_append, Endpoint.performAll, List.foldl_append,
    ← Endpoint.performAll, ← Endpoint.performAll, Endpoint.cursor_performAll hothers, grant?]
  rcases hselection : event.selection? with _ | ⟨service, now⟩
  · rfl
  · by_cases hname : service = name
    · subst hname
      have hfirst : ∀ rest : List Operation,
          (Operation.select service now :: rest).filter (fun o => o.service = service)
            = .select service now :: rest.filter fun o => o.service = service :=
        fun rest => List.filter_cons_of_pos (by simp [Operation.service])
      simp only [Option.bind_some, if_true, toOption_select he, Option.map_some, Option.toList_some,
        hfirst, List.filter_nil, Endpoint.performAll, List.foldl_cons, List.foldl_nil]
      by_cases hfree : (e.available now).1 = true
      · simp only [hfree, if_true, true_and]
        exact Endpoint.cursor_perform_select r.policy hfree service
      · simp only [hfree, Bool.false_eq_true, if_false]
        exact Endpoint.cursor_perform fun service' now' hselect => by
          cases hselect
          simpa using hfree
    · simp [hname, Operation.service, Endpoint.performAll]

/-! ### Whole lives -/

/-- **The turns of a service** are its places in a row, from the one under the cursor on. -/
theorem turns_eq {r : Registry} {name : String} {e : Endpoint} (he : r.find? name = some e)
    (events : List Event) :
    r.turns name events = (List.range (r.grants name events).length).map
      fun k => (e.cursor + k) % e.instances.length := by
  induction events generalizing r e with
  | nil => rfl
  | cons event rest ih =>
      obtain ⟨e', he', hinstances, hcursor⟩ := cursor_meet he event
      rw [turns, grants, ih he', turn?, he, hinstances]
      rcases hgrant : r.grant? name event with _ | url
      · rw [hgrant] at hcursor
        simp [hcursor]
      · rw [hgrant] at hcursor
        have hshift : ∀ k, (e'.cursor + k) % e.instances.length
            = (e.cursor + (k + 1)) % e.instances.length := fun k => by
          rw [hcursor.2, Nat.mod_add_mod, Nat.add_assoc, Nat.add_comm 1 k]
        simp [hshift, List.range_succ_eq_map, Function.comp_def, Nat.mod_eq_of_lt e.cursor_lt]

/-- **What is granted** is the instance whose turn it is. -/
theorem map_some_grants {r : Registry} {name : String} {e : Endpoint} (he : r.find? name = some e)
    (events : List Event) :
    (r.grants name events).map some
      = (r.turns name events).map fun i => e.instances[i]?.map Instance.requestUrl := by
  induction events generalizing r e with
  | nil => rfl
  | cons event rest ih =>
      obtain ⟨e', he', hinstances, hcursor⟩ := cursor_meet he event
      rw [turns, grants, List.map_append, List.map_append, ih he', hinstances, turn?, he]
      rcases hgrant : r.grant? name event with _ | url
      · rfl
      · rw [hgrant] at hcursor
        have hcurrent : e.instances[e.cursor]? = some e.current :=
          List.getElem?_eq_getElem e.cursor_lt
        simp [hcursor.1, hcurrent]

/-- **Round robin** over `instances`: what the selections of a service are granted, and the places
of what they are granted. -/
structure RoundRobin (instances : List Instance) (granted : List String) (turns : List Nat) :
    Prop where
  /-- The `k`-th grant is the instance in place `k`, counted round and round from 0. -/
  order : ∀ k url, granted[k]? = some url →
    instances[k % instances.length]?.map Instance.requestUrl = some url
  turns_eq : turns = (List.range granted.length).map (· % instances.length)
  /-- Each instance has been granted its share of all grants, rounded down or rounded up. -/
  balanced : ∀ i < instances.length,
    turns.count i = granted.length / instances.length ∨
      turns.count i = (granted.length + instances.length - 1) / instances.length
  /-- As many grants in a row as there are instances are one of each. -/
  full_round : ∀ a, a + instances.length ≤ granted.length →
    ((turns.drop a).take instances.length).Perm (List.range instances.length)

/-- **Instances are selected in turn**, whatever a registry meets. -/
theorem round_robin {services : List ServiceConfig} {policy : BreakerPolicy} {r : Registry}
    (h : ofConfig services policy = .ok r) {s : ServiceConfig} {name : String}
    (hs : (services.reverse.find? fun s => s.name = name) = some s) (events : List Event) :
    RoundRobin (instancesOf s) (r.grants name events) (r.turns name events) := by
  obtain ⟨e, he, hinstances, hstart⟩ : ∃ e, r.find? name = some e ∧ e.instances = instancesOf s ∧
      e.cursor = 0 := by
    obtain ⟨endpoints, hall, -⟩ := exists_of_ofConfig h
    obtain ⟨e, he⟩ := endpoint?_of_mem hall (List.mem_reverse.mp (List.mem_of_find?_eq_some hs))
    obtain ⟨-, hinstances, hcursor, -⟩ := endpoint?_fields he
    exact ⟨e, by rw [find?_ofConfig h, hs, Option.bind_some, he], hinstances, hcursor⟩
  have hturns := turns_eq he events
  have hgrants := map_some_grants he events
  simp only [hinstances, hstart, Nat.zero_add] at hturns hgrants
  refine ⟨fun k url hurl => ?_, hturns, fun i hi => ?_, fun a ha => ?_⟩
  · have hk : k < (r.grants name events).length := (List.getElem?_eq_some_iff.mp hurl).1
    have hkth := congrArg (fun l => l[k]?) hgrants
    rw [hturns, List.map_map, List.getElem?_map, List.getElem?_map, hurl, List.getElem?_range hk,
      Option.map_some, Option.map_some, Option.some.injEq] at hkth
    exact hkth.symm
  · rw [hturns]
    exact count_map_mod_range_balanced hi _
  · have hwindow : ((List.range (r.grants name events).length).drop a).take (instancesOf s).length
        = List.range' a (instancesOf s).length := by
      rw [List.range_eq_range', List.drop_range', List.take_range'_of_length_ge (by omega),
        Nat.zero_add, Nat.mul_one]
    rw [hturns, ← List.map_drop, ← List.map_take, hwindow]
    exact perm_map_mod_range' a _

/-- Two instances: a request that is forwarded takes the first one and its failure leaves the cursor
alone, a selection of another service and one that is refused take none, and the next two take the
second instance and the first one again. -/
theorem round_robin_two_instances :
    let services : List ServiceConfig :=
      [{ name := "a", instances := [{ url := "http://x" }, { url := "http://y/" }] },
        { name := "b", instances := [{ url := "http://z" }] }]
    let request : Request :=
      { method := "GET", uri := ⟨none, none, "/", none⟩, headers := [], body := .empty }
    let refused : Backend := fun _ => { outcome := .error .connect }
    let now : Timestamp := .ofParts 0 0
    let events : List Event :=
      [.errand ⟨.frozen now, .ofSeconds 5, request, "a", "/", refused⟩,
        .cycle (fun _ => now) (.ofSeconds 5) refused, .operation (.select "b" now),
        .operation (.select "a" now), .cycle (fun _ => now) (.ofSeconds 5) fun _ => {},
        .operation (.select "a" now), .operation (.select "a" now)]
    ∃ r s, ofConfig services {} = .ok r ∧
      (services.reverse.find? fun s => s.name = "a") = some s ∧
      r.grants "a" events = ["http://x", "http://y", "http://x"] ∧
      r.turns "a" events = [0, 1, 0] ∧
      RoundRobin (instancesOf s) (r.grants "a" events) (r.turns "a" events) := by
  intro services request refused now events
  exact ⟨_, _, rfl, rfl, by decide +kernel, by decide +kernel,
    @round_robin services _ _ rfl _ "a" rfl events⟩

end Registry

end Tollgate
