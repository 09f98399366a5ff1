import Tollgate.Proofs.Registry.BreakerContract

/-!
# An unhealthy service gets trial requests only

From a probe cycle that no instance answered to the next one that some instance does, a service is
unhealthy, and takes no traffic on the strength of its status. An open circuit decides without the
status, though, and lets a request pass once its deadline is over. That request is a trial: it closes
the circuit, and so it is the last one until the circuit opens again (`Registry.tried_only`).

The account is one of credit. An opening earns one trial and only an open circuit holds one, so the
trials of a stretch and what is left at its end are at most the openings and what was there at its
start (`Registry.countP_grants_add_le`).

## Main results

* `Endpoint.available_of_unhealthy`: what an unhealthy service takes.
* `Registry.countP_grants_add_le`: the account of a run.
* `Registry.tried_only`: every selection of a stretch, and how many are granted.

## Conventions

* Times are arbitrary, and so are the threshold and the registry that the stretch begins in.
* An opening is a failure that opened the circuit (`Registry.Entry.outcome?`), of a call or of a probe
  cycle.
-/

namespace Tollgate

/-- The operation reports a probe cycle in which an instance of the service answered. -/
def Operation.recovers (name : String) : Operation → Bool
  | probes service healthy _ _ => service = name ∧ 0 < healthy
  | select _ _ | success _ _ | failure _ _ => false

namespace Breaker

/-- The circuit is open, and its deadline is over at `now`. -/
def isOverdue (b : Breaker) (now : Timestamp) : Bool :=
  b.openUntil.any fun deadline => deadline < now

/-- **A failure opens the circuit** if that is what it did, and else leaves it open or closed. -/
theorem toNat_isOpen_onFailure (b : Breaker) (now : Timestamp) (threshold : Nat)
    (openFor : Duration) :
    (b.onFailure now threshold openFor).2.isOpen.toNat
      = b.isOpen.toNat + if (b.onFailure now threshold openFor).1 = .opened then 1 else 0 := by
  rw [onFailure]
  rcases hopen : b.isOpen with _ | _
  · rw [if_neg Bool.false_ne_true]
    split
    · exact congrArg Bool.toNat hopen
    · rfl
  · exact congrArg Bool.toNat hopen

end Breaker

namespace Endpoint

variable {e : Endpoint}

/-- **An unhealthy service** takes traffic only if its circuit is open and the deadline over, and then
closes it. -/
theorem available_of_unhealthy (h : e.status = .unhealthy) (now : Timestamp) :
    e.available now
      = if e.breaker.isOverdue now then (true, { e with breaker := .closed }) else (false, e) := by
  rcases hopen : e.breaker.openUntil with _ | deadline
  · simp [available, Breaker.isOpen, Breaker.isOverdue, hopen, h, Status.isRoutable]
  · by_cases hover : deadline < now
    · simp [available, Breaker.isOpen, Breaker.isOverdue, Breaker.tryPass, hopen, hover]
    · simp [available, Breaker.isOpen, Breaker.isOverdue, Breaker.tryPass, hopen, hover]

/-- The operation is a selection, and the service takes the traffic. -/
def takes (e : Endpoint) : Operation → Bool
  | .select _ now => (e.available now).1
  | .success _ _ | .failure _ _ | .probes _ _ _ _ => false

/-- A service stays unhealthy until it recovers. -/
theorem status_perform_of_unhealthy (policy : BreakerPolicy) (h : e.status = .unhealthy)
    {o : Operation} (ho : o.recovers o.service = false) :
    (e.perform policy o).status = .unhealthy := by
  rw [status_perform]
  cases o with
  | select service now => exact h
  | success service elapsed => exact h
  | failure service now => exact h
  | probes service healthy latency now =>
      obtain rfl : healthy = 0 := by simpa [Operation.recovers, Operation.service] using ho
      rfl

/-- **One operation**: traffic that an unhealthy service takes needs an open circuit, which it closes,
and an opening a closed one. -/
theorem takes_add_le (policy : BreakerPolicy) {o : Operation} (ho : o.recovers o.service = false)
    (h : ∀ service now, o = .select service now → e.status = .unhealthy) :
    (if e.takes o then 1 else 0) + (e.perform policy o).breaker.isOpen.toNat
      ≤ (if e.outcome? policy o = some .opened then 1 else 0) + e.breaker.isOpen.toNat := by
  have hfailed := fun now =>
    e.breaker.toNat_isOpen_onFailure now policy.failureThreshold policy.openFor
  cases o with
  | select service now =>
      rw [takes, perform, available_of_unhealthy (h service now rfl)]
      by_cases hover : e.breaker.isOverdue now = true
      · have hopen : e.breaker.isOpen = true := by
          obtain ⟨deadline, hdeadline, -⟩ := Option.any_eq_true .. |>.mp hover
          rw [Breaker.isOpen, hdeadline, Option.isSome_some]
        have hclosed : Breaker.closed.isOpen = false := rfl
        simp [hover, hopen, rotate, hclosed]
      · simp [hover]
  | success service elapsed =>
      simp [takes, perform, recordSuccess, Breaker.onSuccess, Breaker.isOpen, Breaker.closed]
  | failure service now =>
      simp only [takes, perform, recordFailure, outcome?, hfailed now, Option.some.injEq,
        Bool.false_eq_true, if_false]
      omega
  | probes service healthy latency now =>
      obtain rfl : healthy = 0 := by simpa [Operation.recovers, Operation.service] using ho
      simp only [takes, perform, applyProbeCycle, recordFailure, outcome?, Nat.lt_irrefl, if_false,
        hfailed now, Option.some.injEq, Bool.false_eq_true]
      omega

end Endpoint

namespace Registry

/-- The circuit of a service is open. -/
def circuitOpen (r : Registry) (name : String) : Bool :=
  (r.deadline? name).isSome

/-- A registry tells of a circuit what its endpoint does. -/
theorem circuitOpen_eq {r : Registry} {name : String} {e : Endpoint} (he : r.find? name = some e) :
    r.circuitOpen name = e.breaker.isOpen := by
  rw [circuitOpen, deadline?, he, Option.bind_some, Breaker.isOpen]

namespace Entry

/-- The operation is a selection of the service, and it is granted. -/
def grants (name : String) (x : Entry) : Bool :=
  match x.operation with
  | .select service now => service = name && (x.before.select service now).1.isOk
  | .success _ _ | .failure _ _ | .probes _ _ _ _ => false

/-- The operation opens the circuit of the service. -/
def opens (name : String) (x : Entry) : Bool :=
  x.outcome? name = some .opened

variable {x : Entry} {name : String} {e : Endpoint}

/-- An operation on another service grants nothing of this one. -/
theorem grants_of_ne (h : x.operation.service ≠ name) : x.grants name = false := by
  obtain ⟨r, o⟩ := x
  cases o <;> simp_all [grants, Operation.service]

/-- A selection of the service is granted if it gets an instance. -/
theorem grants_of_select {now : Timestamp} (h : x.operation = .select name now) :
    x.grants name = (x.before.select name now).1.isOk := by
  simp [grants, h]

/-- A selection is granted if the service takes the traffic. -/
theorem grants_eq (he : x.before.find? name = some e) (h : x.operation.service = name) :
    x.grants name = e.takes x.operation := by
  obtain ⟨r, o⟩ := x
  subst h
  cases o with
  | select service now =>
      simp only [Operation.service] at he
      rcases hfree : (e.available now).1 with _ | _ <;>
        simp [grants, Endpoint.takes, Operation.service, select, he, hfree, Except.isOk,
          Except.toBool]
  | success service elapsed => rfl
  | failure service now => rfl
  | probes service healthy latency now => rfl

/-- **One operation** of a stretch leaves the service unhealthy. -/
theorem exists_unhealthy_after (he : x.before.find? name = some e) (h : e.status = .unhealthy)
    (ho : x.operation.recovers name = false) :
    ∃ e', x.after.find? name = some e' ∧ e'.status = .unhealthy := by
  rw [after, find?_perform, he]
  split
  · next hservice =>
      subst hservice
      exact ⟨_, rfl, e.status_perform_of_unhealthy _ h ho⟩
  · exact ⟨e, rfl, h⟩

/-- **The account of one operation**: a trial needs an open circuit, which it closes, and an opening a
closed one. -/
theorem grants_add_le (he : x.before.find? name = some e) (ho : x.operation.recovers name = false)
    (h : ∀ service now, x.operation = .select service now → e.status = .unhealthy) :
    (if x.grants name then 1 else 0) + (x.after.circuitOpen name).toNat
      ≤ (if x.opens name then 1 else 0) + (x.before.circuitOpen name).toNat := by
  have hfind := find?_perform x.before x.operation name
  rw [he] at hfind
  by_cases hservice : x.operation.service = name
  · subst hservice
    rw [if_pos rfl, Option.map_some] at hfind
    rw [grants_eq he rfl, after, circuitOpen_eq hfind, circuitOpen_eq he, opens,
      outcome?_eq he rfl]
    simp only [decide_eq_true_eq]
    exact e.takes_add_le x.before.policy ho h
  · rw [if_neg hservice] at hfind
    rw [grants_of_ne hservice, after, circuitOpen_eq hfind, circuitOpen_eq he,
      if_neg Bool.false_ne_true, Nat.zero_add]
    exact Nat.le_add_left _ _

/-- Only a selection of the service is granted. -/
theorem exists_of_grants (h : x.grants name = true) : ∃ now, x.operation = .select name now := by
  obtain ⟨r, o⟩ := x
  cases o with
  | select service now =>
      obtain rfl : service = name := by
        simp only [grants, Bool.and_eq_true, decide_eq_true_eq] at h
        exact h.1
      exact ⟨now, rfl⟩
  | success service elapsed => cases h
  | failure service now => cases h
  | probes service healthy latency now => cases h

end Entry

/-! ### A stretch of operations -/

section

variable {r : Registry} {name : String} {e : Endpoint} (he : r.find? name = some e)
  (h : e.status = .unhealthy) {operations : List Operation}
  (hstretch : ∀ o ∈ operations, o.recovers name = false)
include he h hstretch

/-- A service stays unhealthy in a stretch. -/
theorem exists_unhealthy_run :
    ∃ e', (r.run operations).find? name = some e' ∧ e'.status = .unhealthy := by
  induction operations generalizing r e with
  | nil => exact ⟨e, he, h⟩
  | cons o rest ih =>
      rw [List.forall_mem_cons] at hstretch
      obtain ⟨e', he', h'⟩ := Entry.exists_unhealthy_after (x := ⟨r, o⟩) he h hstretch.1
      exact ih he' h' hstretch.2

/-- **The account of a stretch**: the trials, and the one that is left if the circuit is open, are at
most the openings, and the one that there was. -/
theorem countP_grants_add_le :
    (r.entries operations).countP (Entry.grants name) + ((r.run operations).circuitOpen name).toNat
      ≤ (r.entries operations).countP (Entry.opens name) + (r.circuitOpen name).toNat := by
  induction operations generalizing r e with
  | nil => exact Nat.le_refl _
  | cons o rest ih =>
      rw [List.forall_mem_cons] at hstretch
      obtain ⟨e', he', h'⟩ := Entry.exists_unhealthy_after (x := ⟨r, o⟩) he h hstretch.1
      have hfirst := Entry.grants_add_le (x := ⟨r, o⟩) he hstretch.1 fun _ _ _ => h
      have hrest : _ + ((r.run (o :: rest)).circuitOpen name).toNat ≤ _ := ih he' h' hstretch.2
      rw [entries, List.countP_cons, List.countP_cons]
      simp only [Entry.after] at hfirst hrest
      omega

/-- The service is unhealthy whenever an operation of a stretch meets it. -/
theorem exists_unhealthy_before {x : Entry} (hx : x ∈ r.entries operations) :
    ∃ e', x.before.find? name = some e' ∧ e'.status = .unhealthy := by
  obtain ⟨past, later, hsplit⟩ := List.append_of_mem hx
  obtain ⟨done, rest, rfl, -, hbefore, -⟩ := exists_of_entries_eq hsplit
  rw [hbefore]
  exact exists_unhealthy_run he h fun o ho => hstretch o (List.mem_append_left _ ho)

/-- Where the circuit does not open, one selection is granted at most. -/
theorem countP_grants_le_one {front middle back : List Entry}
    (hsplit : r.entries operations = front ++ middle ++ back)
    (hclosed : ∀ x ∈ middle, x.opens name = false) : middle.countP (Entry.grants name) ≤ 1 := by
  obtain ⟨done, rest, rfl, hdone, -⟩ := exists_of_entries_eq_append hsplit
  obtain ⟨first, part, rfl, -, rfl⟩ := exists_of_entries_eq_append hdone
  have hfirst : ∀ o ∈ first, o.recovers name = false := fun o ho =>
    hstretch o (List.mem_append_left _ (List.mem_append_left _ ho))
  have hpart : ∀ o ∈ part, o.recovers name = false := fun o ho =>
    hstretch o (List.mem_append_left _ (List.mem_append_right _ ho))
  obtain ⟨e', he', h'⟩ := exists_unhealthy_run he h hfirst
  have haccount := countP_grants_add_le he' h' hpart
  have hnone : ((r.run first).entries part).countP (Entry.opens name) = 0 := by
    rw [List.countP_eq_zero]
    exact fun x hx hopens => Bool.false_ne_true ((hclosed x hx).symm.trans hopens)
  have hflag := ((r.run first).circuitOpen name).toNat_le
  omega

end

/-! ### What an unhealthy service gets -/

/-- **An unhealthy service is only tried.** -/
structure TriedOnly (r : Registry) (name : String) (stretch : List Operation) : Prop where
  /-- The service is unhealthy whenever it is asked or told something. -/
  unhealthy : ∀ x ∈ r.entries stretch, (x.before.find? name).map Endpoint.status = some .unhealthy
  /-- A selection is granted exactly if it finds the circuit open and the deadline over. -/
  grants_iff : ∀ x ∈ r.entries stretch, ∀ now, x.operation = .select name now →
    (x.grants name = true ↔ ∃ deadline, x.before.deadline? name = some deadline ∧ deadline < now)
  /-- It closes the circuit then. -/
  closed : ∀ x ∈ r.entries stretch, x.grants name = true → x.after.circuitOpen name = false
  /-- Every other selection is refused, which tells whether the circuit is open, and leaves the
  service as it is. -/
  refused : ∀ x ∈ r.entries stretch, ∀ now, x.operation = .select name now →
    x.grants name = false →
      (x.before.select name now).1 = .error (.unavailable name (x.before.circuitOpen name)) ∧
        x.after.find? name = x.before.find? name
  /-- Where the circuit does not open, one selection is granted at most. -/
  between : ∀ front middle back, r.entries stretch = front ++ middle ++ back →
    (∀ x ∈ middle, x.opens name = false) → middle.countP (Entry.grants name) ≤ 1
  /-- All selections that are granted are at most as many as the openings, and one more if the
  circuit is open at first. -/
  counted : (r.entries stretch).countP (Entry.grants name)
    ≤ (r.entries stretch).countP (Entry.opens name) + (r.circuitOpen name).toNat

/-- **A selection of an unhealthy service** is granted exactly if the circuit is open and its deadline
over, and else refused, which tells whether the circuit is open and changes nothing. -/
theorem select_of_unhealthy {r : Registry} {name : String} {e : Endpoint}
    (he : r.find? name = some e) (h : e.status = .unhealthy) (now : Timestamp) :
    ((r.select name now).1.isOk = true
        ↔ ∃ deadline, r.deadline? name = some deadline ∧ deadline < now) ∧
      ((r.select name now).1.isOk = false →
        (r.select name now).1 = .error (.unavailable name (r.circuitOpen name)) ∧
          (r.select name now).2.find? name = r.find? name) := by
  have hdeadline : r.deadline? name = e.breaker.openUntil := by
    rw [deadline?, he, Option.bind_some]
  have hoverdue : e.breaker.isOverdue now = true
      ↔ ∃ deadline, r.deadline? name = some deadline ∧ deadline < now := by
    simp [Breaker.isOverdue, hdeadline, Option.any_eq_true]
  rw [← hoverdue, circuitOpen_eq he, select, he]
  simp only [Endpoint.available_of_unhealthy h]
  rcases e.breaker.isOverdue now with _ | _
  · refine ⟨iff_of_false Bool.false_ne_true Bool.false_ne_true, fun _ => ⟨rfl, ?_⟩⟩
    rw [if_neg Bool.false_ne_true]
    simp only [Bool.false_eq_true, if_false]
    rw [find?_replace, name_of_find? he, if_pos rfl, he, Option.map_some]
  · exact ⟨iff_of_true rfl rfl, fun hrefused => absurd hrefused.symm Bool.false_ne_true⟩

/-- A service that is unhealthy is only tried until it recovers. -/
theorem triedOnly_of_unhealthy {r : Registry} {name : String} {e : Endpoint}
    (he : r.find? name = some e) (h : e.status = .unhealthy) {stretch : List Operation}
    (hstretch : ∀ o ∈ stretch, o.recovers name = false) : r.TriedOnly name stretch where
  unhealthy := by
    intro x hx
    obtain ⟨e', he', h'⟩ := exists_unhealthy_before he h hstretch hx
    rw [he', Option.map_some, h']
  grants_iff := by
    intro x hx now hselect
    obtain ⟨e', he', h'⟩ := exists_unhealthy_before he h hstretch hx
    rw [Entry.grants_of_select hselect]
    exact (select_of_unhealthy he' h' now).1
  closed := by
    intro x hx hgrants
    obtain ⟨e', he', h'⟩ := exists_unhealthy_before he h hstretch hx
    obtain ⟨now, hselect⟩ := Entry.exists_of_grants hgrants
    have haccount := Entry.grants_add_le he' (by rw [hselect]; rfl) fun _ _ _ => h'
    have hopens : x.opens name = false := by simp [Entry.opens, Entry.outcome?, hselect]
    have hflag := (x.before.circuitOpen name).toNat_le
    rw [if_pos hgrants, hopens, if_neg Bool.false_ne_true] at haccount
    exact Bool.toNat_eq_zero.mp (by omega)
  refused := by
    intro x hx now hselect hgrants
    obtain ⟨e', he', h'⟩ := exists_unhealthy_before he h hstretch hx
    rw [Entry.grants_of_select hselect] at hgrants
    rw [Entry.after, hselect]
    exact (select_of_unhealthy he' h' now).2 hgrants
  between := fun _ _ _ hsplit hclosed => countP_grants_le_one he h hstretch hsplit hclosed
  counted := Nat.le_of_add_right_le (countP_grants_add_le he h hstretch)

/-- **An unhealthy service gets trial requests only**, from a probe cycle that no instance answered
until it recovers, whatever else happens in between: every selection that is granted finds the circuit
open and its deadline over, and closes it, so that there is one at most between two openings. Whether
the failing cycle counts with the stretch or is what comes before it, the selections that are granted
are at most the openings, and one more if the circuit was open. -/
theorem tried_only {r : Registry} {name : String} (hname : r.contains name = true)
    (latency : Option Duration) (now : Timestamp) {stretch : List Operation}
    (hstretch : ∀ o ∈ stretch, o.recovers name = false) :
    (r.perform (.probes name 0 latency now)).TriedOnly name stretch ∧
      (r.entries (.probes name 0 latency now :: stretch)).countP (Entry.grants name)
        ≤ (r.entries (.probes name 0 latency now :: stretch)).countP (Entry.opens name)
          + (r.circuitOpen name).toNat := by
  obtain ⟨e, he⟩ := Option.isSome_iff_exists.mp hname
  have hcycle : Operation.recovers name (.probes name 0 latency now) = false := by
    simp [Operation.recovers]
  have hafter : (r.perform (.probes name 0 latency now)).find? name
      = some (e.perform r.policy (.probes name 0 latency now)) := by
    rw [find?_perform, he]
    exact if_pos rfl
  have hunhealthy := (e.status_perform r.policy (.probes name 0 latency now)).trans
    (show Status.ofTally 0 e.instances.length = .unhealthy from rfl)
  have hstretched := triedOnly_of_unhealthy hafter hunhealthy hstretch
  refine ⟨hstretched, ?_⟩
  have hfirst := Entry.grants_add_le (x := ⟨r, .probes name 0 latency now⟩) he hcycle
    fun _ _ hselect => Operation.noConfusion hselect
  have hrest := hstretched.counted
  rw [entries, List.countP_cons, List.countP_cons]
  simp only [Entry.after] at hfirst
  omega

/-- A threshold of one and a minute: the cycle that makes the service unhealthy opens the circuit, a
selection at the deadline is refused and the one after it is a trial, and the next one is refused with
the circuit closed. The trial fails and opens the circuit again, and a minute later there is another
one. -/
theorem tried_only_two_trials :
    let services : List ServiceConfig := [{ name := "a", instances := [{ url := "http://h" }] }]
    let policy : BreakerPolicy := { failureThreshold := 1, openSeconds := 60 }
    let first : Operation := .probes "a" 0 none (.ofParts 0 0)
    let stretch : List Operation :=
      [.select "a" (.ofParts 60 0), .select "a" (.ofParts 61 0), .select "a" (.ofParts 61 0),
        .failure "a" (.ofParts 62 0), .probes "a" 0 none (.ofParts 70 0),
        .select "a" (.ofParts 123 0)]
    ∃ r, ofConfig services policy = .ok r ∧ r.contains "a" = true ∧
      (∀ o ∈ stretch, o.recovers "a" = false) ∧
      ((r.perform first).entries stretch).map (Entry.grants "a")
        = [false, true, false, false, false, true] ∧
      (r.entries (first :: stretch)).map (Entry.opens "a")
        = [true, false, false, false, true, false, false] ∧
      (r.perform first).TriedOnly "a" stretch ∧
      (r.entries (first :: stretch)).countP (Entry.grants "a")
        ≤ (r.entries (first :: stretch)).countP (Entry.opens "a")
          + (r.circuitOpen "a").toNat := by
  intro services policy first stretch
  have hstretch : ∀ o ∈ stretch, o.recovers "a" = false := by decide
  refine ⟨_, rfl, by decide, hstretch, by decide, by decide, ?_, ?_⟩
  · exact (tried_only (by decide) none (.ofParts 0 0) hstretch).1
  · exact (tried_only (by decide) none (.ofParts 0 0) hstretch).2

end Registry

end Tollgate
