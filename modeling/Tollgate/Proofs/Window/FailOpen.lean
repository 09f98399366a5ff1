import Tollgate.Proofs.Window.SlidingWindow

/-!
# Failing open

A call of a check may fail, and a check may wait past its deadline; either way it ends at that call,
which has no effect, and the caller is let pass without a quota. Such a check may leave its hit in
the store, if it was the removal of the hit that came to nothing, or no hit at all. What the store
holds is therefore between two counts: every hit of a metered admission is there, and every hit that
is there belongs to an allowed check (`Limiter.Endures`). So a check is rejected only if the allowed
checks in its window reach the limit, and is metered only if the metered ones among them do not
(`Limiter.fail_open`).

## Conventions

* The faults of a check are given by kind of call (`Faults`); a check makes every kind of call at
  most once, so these are all the faults it can meet.
* A check is disturbed by the calls it made: one of them failed, or their delays together exceed the
  deadline (`Faults.Disturbs`).
* Seconds and sequence numbers of a run are those of an orderly run (`Attempt.Orderly`).

## Main results

* `Check.run_ends`: the five ways in which a check ends.
* `Limiter.Endures.check`: the two-sided ledger is kept by every check, whatever its faults.
* `Limiter.fail_open`: decisions, errors counted and hits left behind, at every place of every run.
-/

namespace Tollgate

/-! ### Disturbances -/

namespace StoreCall

/-- The fault that a call meets. -/
def fault (f : Faults) : StoreCall → Fault
  | .recordHit .. => f.recordHit
  | .removeMember .. => f.removeMember
  | .oldestScore _ => f.oldestScore

/-- The call of a stage meets the fault of the stage. -/
@[simp] theorem fault_call (c : Check) (f : Faults) (stage : Stage) :
    (c.call stage).fault f = f.ofStage stage := by
  cases stage <;> rfl

end StoreCall

namespace Faults

/-- The time that calls wait for the store. -/
def waiting (f : Faults) : List StoreCall → Nat
  | [] => 0
  | call :: rest => (call.fault f).delayMillis + f.waiting rest

/-- One of the calls fails, or they take longer than the deadline. -/
def Disturbs (f : Faults) (deadlineMillis : Nat) (calls : List StoreCall) : Prop :=
  (∃ call ∈ calls, (call.fault f).fails = true) ∨ deadlineMillis < f.waiting calls

variable {f : Faults} {deadlineMillis : Nat} {calls : List StoreCall}

/-- Waiting for one call more. -/
theorem waiting_append_singleton (f : Faults) (calls : List StoreCall) (call : StoreCall) :
    f.waiting (calls ++ [call]) = f.waiting calls + (call.fault f).delayMillis := by
  induction calls with
  | nil => simp only [List.nil_append, waiting, Nat.zero_add, Nat.add_zero]
  | cons first rest ih => rw [List.cons_append, waiting, waiting, ih, Nat.add_assoc]

/-- No call, no disturbance. -/
theorem not_disturbs_nil : ¬ f.Disturbs deadlineMillis [] := by
  simp [Disturbs, waiting]

/-- One call more disturbs if it fails itself, or if it is the one that takes too long. -/
theorem disturbs_append_singleton (h : ¬ f.Disturbs deadlineMillis calls) (call : StoreCall) :
    f.Disturbs deadlineMillis (calls ++ [call]) ↔
      (call.fault f).fails = true ∨
        deadlineMillis < f.waiting calls + (call.fault f).delayMillis := by
  simp only [Disturbs, not_or, not_exists, not_and] at h
  simp only [Disturbs, waiting_append_singleton, List.mem_append, List.mem_singleton]
  constructor
  · rintro (⟨x, hx | rfl, hfails⟩ | hlate)
    · exact absurd hfails (h.1 x hx)
    · exact .inl hfails
    · exact .inr hlate
  · rintro (hfails | hlate)
    · exact .inl ⟨call, .inr rfl, hfails⟩
    · exact .inr hlate

end Faults

/-! ### How a check ends -/

namespace Check

variable {f : Faults} {deadlineMillis : Nat}

/-- The count that the hit of a check gets, and the store that holds it. -/
def recorded (c : Check) (s : Store) : Nat × Store :=
  s.recordHit c.key c.member c.now c.windowStart c.ttl

/-- The store after the hit was recorded and removed again. -/
def undone (c : Check) (s : Store) : Store :=
  (c.recorded s).2.removeMember c.key c.member

/-- **The ways in which a check ends** on a store: what the caller is told, the store after it and
the calls that were made. -/
inductive Ends (c : Check) (f : Faults) (deadlineMillis : Nat) (s : Store) :
    Decision → Store → List StoreCall → Prop
  /-- The hit was not recorded. -/
  | unrecorded (h : f.Disturbs deadlineMillis [c.call .counting]) :
      Ends c f deadlineMillis s .unmetered s [c.call .counting]
  /-- The hit fits. -/
  | admitted (h : ¬ f.Disturbs deadlineMillis [c.call .counting])
      (hroom : (c.recorded s).1 < c.limit) :
      Ends c f deadlineMillis s (c.admission (c.recorded s).1) (c.recorded s).2
        [c.call .counting]
  /-- The hit does not fit, but was not removed. -/
  | kept (count : Nat) (h : f.Disturbs deadlineMillis [c.call .counting, c.call (.undoing count)])
      (hfull : c.limit ≤ (c.recorded s).1) :
      Ends c f deadlineMillis s .unmetered (c.recorded s).2
        [c.call .counting, c.call (.undoing count)]
  /-- The hit was removed, but the oldest hit was not found out. -/
  | undone (count : Nat) (h : f.Disturbs deadlineMillis
        [c.call .counting, c.call (.undoing count), c.call (.dating count)])
      (hfull : c.limit ≤ (c.recorded s).1) :
      Ends c f deadlineMillis s .unmetered (c.undone s)
        [c.call .counting, c.call (.undoing count), c.call (.dating count)]
  /-- The hit was removed, and the caller is told when to come back. -/
  | rejected (count : Nat) (h : ¬ f.Disturbs deadlineMillis
        [c.call .counting, c.call (.undoing count), c.call (.dating count)])
      (hfull : c.limit ≤ (c.recorded s).1) :
      Ends c f deadlineMillis s (c.refusal (c.recorded s).1 ((c.undone s).oldestScore c.key))
        (c.undone s) [c.call .counting, c.call (.undoing count), c.call (.dating count)]

end Check

namespace CheckRun

variable {r : CheckRun} {c : Check} {f : Faults} {deadlineMillis : Nat} {stage : Stage}

/-- A disturbed call ends the check and has no effect on the store. -/
theorem step_of_disturbs (hwaited : r.waitedMillis = f.waiting r.calls)
    (hbefore : ¬ f.Disturbs deadlineMillis r.calls)
    (h : f.Disturbs deadlineMillis (r.calls ++ [c.call stage])) :
    ∃ e waited, r.step c f deadlineMillis stage
      = (.error e, ⟨r.store, waited, r.calls ++ [c.call stage]⟩) := by
  rw [Faults.disturbs_append_singleton hbefore, StoreCall.fault_call, ← hwaited] at h
  rw [step]
  by_cases hlate : 0 < (f.ofStage stage).delayMillis ∧
      deadlineMillis < r.waitedMillis + (f.ofStage stage).delayMillis
  · exact ⟨_, _, by rw [if_pos hlate]⟩
  · have hintime : r.waitedMillis ≤ deadlineMillis := by
      rw [hwaited]
      exact Nat.not_lt.mp fun hover => hbefore (.inr hover)
    have hfails : (f.ofStage stage).fails = true := by
      rcases h with hfails | hover
      · exact hfails
      · exact absurd ⟨by omega, hover⟩ hlate
    exact ⟨_, _, by rw [if_neg hlate, if_pos hfails]⟩

/-- A call that nothing disturbs is made. -/
theorem step_of_not_disturbs (hwaited : r.waitedMillis = f.waiting r.calls)
    (hbefore : ¬ f.Disturbs deadlineMillis r.calls)
    (h : ¬ f.Disturbs deadlineMillis (r.calls ++ [c.call stage])) :
    r.step c f deadlineMillis stage
      = (.ok (c.advance stage r.store).1, ⟨(c.advance stage r.store).2,
          f.waiting (r.calls ++ [c.call stage]), r.calls ++ [c.call stage]⟩) := by
  rw [Faults.disturbs_append_singleton hbefore, StoreCall.fault_call, ← hwaited, not_or] at h
  have hintime : ¬ (0 < (f.ofStage stage).delayMillis ∧
      deadlineMillis < r.waitedMillis + (f.ofStage stage).delayMillis) := fun hlate => h.2 hlate.2
  rw [step, if_neg hintime, if_neg h.1, Faults.waiting_append_singleton, StoreCall.fault_call,
    hwaited]

end CheckRun

namespace Check

/-- What a run comes to is one of the five ways, with a decision of its own exactly where nothing
disturbed it. -/
def EndsIn (c : Check) (f : Faults) (deadlineMillis : Nat) (s : Store)
    (out : Except StoreFailure Decision × CheckRun) : Prop :=
  (∃ d, out.1 = .ok d ∧ d ≠ .unmetered ∧ c.Ends f deadlineMillis s d out.2.store out.2.calls) ∨
    ∃ e, out.1 = .error e ∧ c.Ends f deadlineMillis s .unmetered out.2.store out.2.calls

/-- The run of a check that made these calls, none of them disturbed, and left the store so. -/
def undisturbed (f : Faults) (calls : List StoreCall) (store : Store) : CheckRun :=
  ⟨store, f.waiting calls, calls⟩

variable {c : Check} {s : Store} {calls : List StoreCall} {stage : Stage}

/-- Where the next call is disturbed, the run ends with it. -/
theorem runFrom_of_disturbs (hbefore : ¬ f.Disturbs deadlineMillis calls)
    (h : f.Disturbs deadlineMillis (calls ++ [c.call stage])) (store : Store) (fuel : Nat) :
    ∃ e waited, c.runFrom f deadlineMillis (fuel + 1) stage (undisturbed f calls store)
      = (.error e, ⟨store, waited, calls ++ [c.call stage]⟩) := by
  obtain ⟨e, waited, hstep⟩ :=
    @CheckRun.step_of_disturbs (undisturbed f calls store) c f deadlineMillis stage rfl hbefore h
  exact ⟨e, waited, by rw [runFrom, hstep]; rfl⟩

/-- Where it is not, the run is decided or goes on. -/
theorem runFrom_of_not_disturbs (hbefore : ¬ f.Disturbs deadlineMillis calls)
    (h : ¬ f.Disturbs deadlineMillis (calls ++ [c.call stage])) (store : Store) (fuel : Nat) :
    c.runFrom f deadlineMillis (fuel + 1) stage (undisturbed f calls store)
      = match (c.advance stage store).1 with
        | .decided d =>
          (.ok d, undisturbed f (calls ++ [c.call stage]) (c.advance stage store).2)
        | .waiting next =>
          c.runFrom f deadlineMillis fuel next
            (undisturbed f (calls ++ [c.call stage]) (c.advance stage store).2) := by
  rw [runFrom, @CheckRun.step_of_not_disturbs (undisturbed f calls store) c f deadlineMillis stage
    rfl hbefore h]
  simp only [undisturbed]
  rcases (c.advance stage store).1 with next | d <;> rfl

section

variable (hfull : c.limit ≤ (c.recorded s).1)
include hfull

/-- A check whose hit was removed is told when to come back, or the oldest hit is not found out. -/
theorem endsIn_dating (h : ¬ f.Disturbs deadlineMillis
      [c.call .counting, c.call (.undoing (c.recorded s).1)]) (fuel : Nat) :
    c.EndsIn f deadlineMillis s (c.runFrom f deadlineMillis (fuel + 1) (.dating (c.recorded s).1)
      (undisturbed f [c.call .counting, c.call (.undoing (c.recorded s).1)] (c.undone s))) := by
  by_cases hthird : f.Disturbs deadlineMillis
      [c.call .counting, c.call (.undoing (c.recorded s).1), c.call (.dating (c.recorded s).1)]
  · obtain ⟨e, waited, hrun⟩ := runFrom_of_disturbs h hthird (c.undone s) fuel
    rw [hrun]
    exact .inr ⟨e, rfl, .undone _ hthird hfull⟩
  · rw [runFrom_of_not_disturbs h hthird]
    exact .inl ⟨_, rfl, by simp [refusal, Decision.unmetered], .rejected _ hthird hfull⟩

/-- A check whose hit does not fit has it removed, or keeps it. -/
theorem endsIn_undoing (h : ¬ f.Disturbs deadlineMillis [c.call .counting]) (fuel : Nat) :
    c.EndsIn f deadlineMillis s (c.runFrom f deadlineMillis (fuel + 2) (.undoing (c.recorded s).1)
      (undisturbed f [c.call .counting] (c.recorded s).2)) := by
  by_cases hsecond : f.Disturbs deadlineMillis
      [c.call .counting, c.call (.undoing (c.recorded s).1)]
  · obtain ⟨e, waited, hrun⟩ := runFrom_of_disturbs h hsecond (c.recorded s).2 (fuel + 1)
    rw [hrun]
    exact .inr ⟨e, rfl, .kept _ hsecond hfull⟩
  · rw [runFrom_of_not_disturbs h hsecond]
    exact endsIn_dating hfull hsecond fuel

end

/-- **Every check ends in one of the five ways**, with a decision of its own exactly where nothing
disturbed it. -/
theorem run_ends (c : Check) (f : Faults) (deadlineMillis : Nat) (s : Store) :
    c.EndsIn f deadlineMillis s (c.run f deadlineMillis s) := by
  rw [run]
  by_cases hfirst : f.Disturbs deadlineMillis [c.call .counting]
  · obtain ⟨e, waited, hrun⟩ := runFrom_of_disturbs Faults.not_disturbs_nil hfirst s 2
    rw [show ({ store := s } : CheckRun) = undisturbed f [] s from rfl, hrun]
    exact .inr ⟨e, rfl, .unrecorded hfirst⟩
  · rw [show ({ store := s } : CheckRun) = undisturbed f [] s from rfl,
      runFrom_of_not_disturbs Faults.not_disturbs_nil hfirst]
    have hcounted : (c.advance .counting s).1 = c.counted (c.recorded s).1 := rfl
    rw [hcounted, counted]
    by_cases hroom : (c.recorded s).1 < c.limit
    · rw [if_neg (Nat.not_le.mpr hroom)]
      exact .inl ⟨_, rfl, by simp [admission, Decision.unmetered], .admitted hfirst hroom⟩
    · have hfull : c.limit ≤ (c.recorded s).1 := Nat.not_lt.mp hroom
      rw [if_pos hfull]
      exact endsIn_undoing hfull hfirst 0

variable {store : Store} {d : Decision}

/-- **Unmetered is disturbed**: a caller is told no quota exactly if the calls of the check were
disturbed. -/
theorem Ends.unmetered_iff (h : c.Ends f deadlineMillis s d store calls) :
    d = .unmetered ↔ f.Disturbs deadlineMillis calls := by
  cases h with
  | unrecorded h => exact iff_of_true rfl h
  | admitted h hroom => exact iff_of_false (by simp [admission, Decision.unmetered]) h
  | kept count h hfull => exact iff_of_true rfl h
  | undone count h hfull => exact iff_of_true rfl h
  | rejected count h hfull => exact iff_of_false (by simp [refusal, Decision.unmetered]) h

/-- **A rejected check leaves no hit of its own.** -/
theorem Ends.ne_member_of_rejected (h : c.Ends f deadlineMillis s d store calls)
    (hd : d.allowed = false) : ∀ hit ∈ (store.hitSet c.key).hits, hit.1 ≠ c.member := by
  cases h with
  | unrecorded h => exact absurd hd (by simp [Decision.unmetered])
  | admitted h hroom => exact absurd hd (by simp [admission])
  | kept count h hfull => exact absurd hd (by simp [Decision.unmetered])
  | undone count h hfull => exact absurd hd (by simp [Decision.unmetered])
  | rejected count h hfull =>
      rw [Check.undone, Store.hitSet_removeMember_self]
      intro hit hhit
      simpa using (List.mem_filter.mp hhit).2

/-- The hit of a check is in the store after it, by its decision and its calls: it was recorded, and
was not to be removed or could not be. -/
def holds (d : Decision) : List StoreCall → Bool
  | [_] => d.quota.isSome
  | [_, _] => true
  | _ => false

/-- The hits that stay are hits of allowed checks, and those of metered admissions stay. -/
theorem Ends.holds_between (h : c.Ends f deadlineMillis s d store calls) :
    (d.allowed = true → d.quota.isSome = true → holds d calls = true) ∧
      (holds d calls = true → d.allowed = true) := by
  cases h <;> simp [holds, Decision.unmetered, admission, refusal]

/-- **The ledger of the key** after a check: with its hit if that stays, else as it was. -/
theorem Ends.shows_self (h : c.Ends f deadlineMillis s d store calls) {since : Int}
    {hits : List (String × Int)} (hshows : s.Shows c.key c.windowLength since hits)
    (hle : since ≤ c.now) (hmin : minSigned64 < c.now) (hmax : c.now < maxSigned64)
    (hnew : ∀ x ∈ hits, x.1 ≠ c.member) :
    store.Shows c.key c.windowLength c.now
      (if holds d calls then hits ++ [(c.member, c.now)] else hits) := by
  have hrecorded := hshows.recordHit_self hle hmin hmax hnew
  have hundone := hrecorded.removeMember_self c.member
  rw [Keyed.erase_append_singleton hnew] at hundone
  cases h with
  | unrecorded h => exact hshows.mono hle
  | admitted h hroom => exact hrecorded
  | kept count h hfull => exact hrecorded
  | undone count h hfull => exact hundone
  | rejected count h hfull => exact hundone

/-- A check of one key changes no other ledger, however it ends. -/
theorem Ends.shows_of_ne (h : c.Ends f deadlineMillis s d store calls) {key : String}
    {length since : Int} {hits : List (String × Int)} (hshows : s.Shows key length since hits)
    (hne : key ≠ c.key) (hle : since ≤ c.now) : store.Shows key length c.now hits := by
  have hrecorded := hshows.recordHit_of_ne hne hle c.member c.windowStart c.ttl
  have hundone := hrecorded.removeMember_of_ne hne c.member
  cases h with
  | unrecorded h => exact hshows.mono hle
  | admitted h hroom => exact hrecorded
  | kept count h hfull => exact hrecorded
  | undone count h hfull => exact hundone
  | rejected count h hfull => exact hundone

/-- **What the count decides**: a rejected check was counted behind as many hits as the limit, and a
metered admission behind fewer. -/
theorem Ends.limit_cases (h : c.Ends f deadlineMillis s d store calls) :
    (d.allowed = false → c.limit ≤ (c.recorded s).1) ∧
      (d.allowed = true → d.quota.isSome = true → (c.recorded s).1 < c.limit) := by
  cases h <;> simp_all [Decision.unmetered, admission, refusal]

end Check

/-! ### Whole runs -/

/-- An attempt that was made, with the faults that it met and what came of it. -/
structure Report where
  attempt : Attempt
  faults : Faults
  /-- The limiter before the attempt. -/
  before : Limiter
  checked : Checked

namespace Report

/-- The caller was let pass with a quota. -/
def metered (x : Report) : Bool :=
  x.checked.decision.allowed && x.checked.decision.quota.isSome

/-- The hit of the attempt stayed in the store. -/
def holds (x : Report) : Bool :=
  Check.holds x.checked.decision x.checked.calls

/-- The attempt was on the key, inside the window of `now`. -/
def within (span : Int) (key : String) (now : Int) (x : Report) : Bool :=
  x.attempt.key = key ∧ now - span < x.attempt.now ∧ x.attempt.now ≤ now

/-- The attempt as an entry of a ledger, which counts the hits that stayed. -/
def entry (x : Report) : Attempt × Decision :=
  (x.attempt, ⟨x.holds, none⟩)

end Report

namespace Limiter

/-- A limiter that is disabled or has no store allows everything, makes no calls, and stays as it
is. -/
theorem check_of_idle {l : Limiter} (h : l.enabled = false ∨ l.store = none) (faults : Faults)
    (key : String) (quota : Quota) (identifier : Option String) (now : Int) :
    l.check faults key quota identifier now = ⟨.unmetered, [], 0, l⟩ := by
  obtain ⟨enabled, store, global, perUser, timeoutMillis, nonce, sequence, metrics⟩ := l
  rcases h with rfl | rfl
  · rfl
  · cases enabled <;> rfl

/-- **A check of a limiter** ends in one of the ways in which checks end, and is counted as an error
exactly if its caller is told no quota. -/
theorem check_ends {l : Limiter} {s : Store} (henabled : l.enabled = true)
    (hstore : l.store = some s) (faults : Faults) (key : String) (quota : Quota)
    (identifier : Option String) (now : Int) :
    ∃ store, (l.checkOf key quota identifier now).Ends faults l.timeoutMillis s
        (l.check faults key quota identifier now).decision store
        (l.check faults key quota identifier now).calls ∧
      (l.check faults key quota identifier now).limiter
        = { l with
            sequence := nextSequence l.sequence
            store := some store
            metrics := l.metrics ++
              if (l.check faults key quota identifier now).decision = .unmetered then
                [.increment Metrics.limiterErrors] else [] } := by
  have hends := (l.checkOf key quota identifier now).run_ends faults l.timeoutMillis s
  refine ⟨((l.checkOf key quota identifier now).run faults l.timeoutMillis s).2.store, ?_⟩
  rcases hrun : (l.checkOf key quota identifier now).run faults l.timeoutMillis s
    with ⟨outcome, r⟩
  rw [hrun] at hends
  simp only [checkOf] at hrun hends ⊢
  rcases hends with ⟨d, hd, hmetered, hends⟩ | ⟨e, he, hends⟩
  · subst hd
    simp only [check, henabled, hstore, hrun, if_neg hmetered, List.append_nil, and_true]
    exact hends
  · subst he
    simp only [check, henabled, hstore, hrun, if_true, and_true]
    exact hends

/-- The attempts made one after the other under faults, oldest first, and the limiter after them.
Every key has one quota. -/
def withstand (quota : String → Quota) (l : Limiter) (trials : List (Attempt × Faults)) :
    List Report × Limiter :=
  trials.foldl (fun r t =>
    let checked := r.2.check t.2 t.1.key (quota t.1.key) t.1.identifier t.1.now
    (r.1 ++ [⟨t.1, t.2, r.2, checked⟩], checked.limiter)) ([], l)

/-- One attempt more. -/
theorem withstand_append_singleton (quota : String → Quota) (l : Limiter)
    (trials : List (Attempt × Faults)) (t : Attempt × Faults) :
    l.withstand quota (trials ++ [t]) =
      ((l.withstand quota trials).1 ++ [⟨t.1, t.2, (l.withstand quota trials).2,
          (l.withstand quota trials).2.check t.2 t.1.key (quota t.1.key) t.1.identifier t.1.now⟩],
        ((l.withstand quota trials).2.check t.2 t.1.key (quota t.1.key) t.1.identifier
          t.1.now).limiter) := by
  simp only [withstand, List.foldl_append, List.foldl_cons, List.foldl_nil]

/-- Every attempt is reported, in order, with its faults. -/
theorem map_withstand (quota : String → Quota) (l : Limiter) (trials : List (Attempt × Faults)) :
    (l.withstand quota trials).1.map (fun x => (x.attempt, x.faults)) = trials := by
  induction trials using List.reverseRecOn with
  | nil => rfl
  | append_singleton trials t ih =>
      rw [withstand_append_singleton, List.map_append, ih]
      rfl

/-- The reported attempts. -/
theorem map_attempt_withstand (quota : String → Quota) (l : Limiter)
    (trials : List (Attempt × Faults)) :
    (l.withstand quota trials).1.map Report.attempt = trials.map Prod.fst := by
  have hall := congrArg (List.map Prod.fst) (map_withstand quota l trials)
  rwa [List.map_map] at hall

/-- **A limiter that has withstood `past`**: its store shows the ledger of the hits that stayed,
which are hits of allowed attempts, those of the metered ones among them. -/
structure Endures (quota : String → Quota) (l : Limiter) (past : List Report) : Prop where
  enabled : l.enabled = true
  sequence_eq : l.sequence = past.length % (maxUnsigned64 + 1)
  shows : ∃ s, l.store = some s ∧ ∀ key since, (∀ x ∈ past, x.attempt.now ≤ since) →
    s.Shows key (quota key).span since (ledger l.nonce key (past.map Report.entry))
  /-- The hits of metered admissions stay. -/
  holds_of_metered : ∀ x ∈ past, x.metered = true → x.holds = true
  /-- No other hits stay than those of allowed attempts. -/
  allowed_of_holds : ∀ x ∈ past, x.holds = true → x.checked.decision.allowed = true

/-- The hits of a ledger inside a window, counted by the reports of the attempts they belong to. -/
theorem length_admittedSeconds_entry (span : Int) (key : String) (now : Int)
    (past : List Report) (hpast : ∀ x ∈ past, x.attempt.now ≤ now) :
    (admittedSeconds span key now (past.map Report.entry)).length
      = past.countP fun x => x.within span key now && x.holds := by
  rw [admittedSeconds, List.length_map, List.filter_map, List.length_map,
    ← List.countP_eq_length_filter]
  refine List.countP_congr fun x hx => ?_
  have hle := hpast x hx
  rw [Function.comp_apply, decide_eq_true_iff, Bool.and_eq_true, Report.within,
    decide_eq_true_iff]
  constructor
  · exact fun h => ⟨⟨h.1, h.2.2, hle⟩, h.2.1⟩
  · exact fun h => ⟨h.1.1, h.2, h.1.2.1⟩

namespace Endures

variable {quota : String → Quota} {l : Limiter} {past : List Report} {a : Attempt}

/-- The attempts of a ledger are those of its reports. -/
theorem map_entry (past : List Report) :
    (past.map Report.entry).map Prod.fst = past.map Report.attempt := by
  rw [List.map_map]
  rfl

/-- The member of the next attempt is new. -/
theorem ne_of_mem_ledger (h : Endures quota l past)
    (ho : Attempt.Orderly (past.map Report.attempt ++ [a])) :
    ∀ x ∈ ledger l.nonce a.key (past.map Report.entry),
      x.1 ≠ (l.checkOf a.key (quota a.key) a.identifier a.now).member := by
  rw [← map_entry] at ho
  have hnew := Limiter.ne_of_mem_ledger l.nonce a.key ho
  rw [List.length_map, ← h.sequence_eq] at hnew
  exact hnew

/-- **What the next attempt is counted behind**: the hits that stayed, inside its window. -/
theorem count_eq (h : Endures quota l past)
    (ho : Attempt.Orderly (past.map Report.attempt ++ [a])) {s : Store}
    (hstore : l.store = some s) :
    ((l.checkOf a.key (quota a.key) a.identifier a.now).recorded s).1
      = past.countP fun x => x.within (quota a.key).span a.key a.now && x.holds := by
  obtain ⟨s', hstore', hshows⟩ := h.shows
  obtain rfl : s' = s := Option.some.inj (hstore'.symm.trans hstore)
  have hpast : ∀ x ∈ past, x.attempt.now ≤ a.now := fun x hx =>
    ho.le_last x.attempt (List.mem_map_of_mem hx)
  have hcount := (hshows a.key a.now hpast).count_recordHit
    (c := l.checkOf a.key (quota a.key) a.identifier a.now) le_rfl (ho.inRange a (by simp)).2
  rw [Check.recorded, hcount, ← length_admittedSeconds_entry _ _ _ _ hpast]
  exact length_filter_ledger l.nonce _ a.key a.now _

/-- The store after an attempt more shows the ledger with its hit, if that stays. -/
theorem shows_check (h : Endures quota l past)
    (ho : Attempt.Orderly (past.map Report.attempt ++ [a])) {f : Faults} {s store : Store}
    (hstore : l.store = some s)
    (hends : (l.checkOf a.key (quota a.key) a.identifier a.now).Ends f l.timeoutMillis s
      (l.check f a.key (quota a.key) a.identifier a.now).decision store
      (l.check f a.key (quota a.key) a.identifier a.now).calls) (key : String) :
    store.Shows key (quota key).span a.now
      (ledger l.nonce key
        (List.map Report.entry
          (past ++ [⟨a, f, l, l.check f a.key (quota a.key) a.identifier a.now⟩]))) := by
  obtain ⟨s', hstore', hshows⟩ := h.shows
  obtain rfl : s' = s := Option.some.inj (hstore'.symm.trans hstore)
  have hrange := ho.inRange a (by simp)
  have hpast : ∀ x ∈ past, x.attempt.now ≤ a.now := fun x hx =>
    ho.le_last x.attempt (List.mem_map_of_mem hx)
  rw [List.map_append, List.map_singleton, Report.entry, ledger_append_singleton]
  by_cases hkey : a.key = key
  · subst hkey
    have hshown := hends.shows_self (hshows a.key a.now hpast) le_rfl hrange.1 hrange.2
      (h.ne_of_mem_ledger ho)
    rw [List.length_map, ← h.sequence_eq]
    split at hshown
    · next hholds =>
        rw [if_pos ⟨rfl, hholds⟩]
        exact hshown
    · next hholds =>
        rw [if_neg fun hall => hholds hall.2, List.append_nil]
        exact hshown
  · rw [if_neg fun hall => hkey hall.1, List.append_nil]
    exact hends.shows_of_ne (hshows key a.now hpast) (Ne.symm hkey) le_rfl

/-- **One step**: a limiter withstands an attempt more, whatever faults it meets. -/
theorem check (h : Endures quota l past) (f : Faults)
    (ho : Attempt.Orderly (past.map Report.attempt ++ [a])) :
    Endures quota (l.check f a.key (quota a.key) a.identifier a.now).limiter
      (past ++ [⟨a, f, l, l.check f a.key (quota a.key) a.identifier a.now⟩]) := by
  obtain ⟨s, hstore, -⟩ := h.shows
  obtain ⟨store, hends, hlimiter⟩ := check_ends h.enabled hstore f a.key (quota a.key)
    a.identifier a.now
  have hbetween := hends.holds_between
  refine
    { enabled := ?_
      sequence_eq := ?_
      shows := ⟨store, ?_, fun key since hsince => ?_⟩
      holds_of_metered := ?_
      allowed_of_holds := ?_ }
  · rw [hlimiter]
    exact h.enabled
  · rw [hlimiter, List.length_append, List.length_singleton, ← nextSequence_mod, h.sequence_eq]
  · rw [hlimiter]
  · have hle : a.now ≤ since :=
      hsince ⟨a, _, _, _⟩ (List.mem_append_right _ (List.mem_singleton.mpr rfl))
    have hnonce : (l.check f a.key (quota a.key) a.identifier a.now).limiter.nonce = l.nonce := by
      rw [hlimiter]
    rw [hnonce]
    exact (h.shows_check ho hstore hends key).mono hle
  · intro x hx
    rcases List.mem_append.mp hx with hx | hx
    · exact h.holds_of_metered x hx
    · rw [List.mem_singleton.mp hx, Report.metered, Bool.and_eq_true]
      exact fun hmetered => hbetween.1 hmetered.1 hmetered.2
  · intro x hx
    rcases List.mem_append.mp hx with hx | hx
    · exact h.allowed_of_holds x hx
    · rw [List.mem_singleton.mp hx]
      exact hbetween.2

end Endures

/-- **A whole run**: a fresh limiter over an empty store withstands an orderly run of attempts. -/
theorem endures_withstand {l : Limiter} (henabled : l.enabled = true)
    (hstore : l.store = some .empty) (hsequence : l.sequence = 0) (quota : String → Quota)
    {trials : List (Attempt × Faults)} (h : Attempt.Orderly (trials.map Prod.fst)) :
    Endures quota (l.withstand quota trials).2 (l.withstand quota trials).1 := by
  induction trials using List.reverseRecOn with
  | nil =>
      exact
        { enabled := henabled
          sequence_eq := by rw [withstand, List.foldl_nil, hsequence]; rfl
          shows := ⟨.empty, hstore, fun key since _ => .empty key _ since⟩
          holds_of_metered := fun x hx => absurd hx List.not_mem_nil
          allowed_of_holds := fun x hx => absurd hx List.not_mem_nil }
  | append_singleton trials t ih =>
      rw [List.map_append, List.map_singleton] at h
      rw [withstand_append_singleton]
      refine (ih h.of_append).check t.2 ?_
      rw [map_attempt_withstand]
      exact h

/-- The attempts before a place of a run, and the limiter that they left. -/
theorem exists_of_withstand_eq {quota : String → Quota} {l : Limiter}
    {trials : List (Attempt × Faults)} {past later : List Report} {x : Report}
    (h : (l.withstand quota trials).1 = past ++ x :: later) :
    ∃ done rest, trials = done ++ (x.attempt, x.faults) :: rest ∧
      (l.withstand quota done).1 = past ∧ x.before = (l.withstand quota done).2 ∧
      x.checked = x.before.check x.faults x.attempt.key (quota x.attempt.key) x.attempt.identifier
        x.attempt.now := by
  induction trials using List.reverseRecOn generalizing later with
  | nil => exact absurd h (by simp [withstand])
  | append_singleton trials t ih =>
      rw [withstand_append_singleton] at h
      cases later using List.reverseRecOn with
      | nil =>
          obtain ⟨rfl, hx⟩ := List.append_inj' h rfl
          obtain rfl := (List.cons.inj hx).1
          exact ⟨trials, [], rfl, rfl, rfl, rfl⟩
      | append_singleton later y =>
          rw [← List.cons_append, ← List.append_assoc] at h
          obtain ⟨hearlier, -⟩ := List.append_inj' h rfl
          obtain ⟨done, rest, rfl, hpast, hbefore, hchecked⟩ := ih hearlier
          exact ⟨done, rest ++ [t], by simp, hpast, hbefore, hchecked⟩

/-! ### The account -/

/-- **The account of an attempt** that was made after those in `past`. -/
structure FailsOpen (quota : Quota) (timeoutMillis : Nat) (past : List Report) (x : Report) :
    Prop where
  /-- No quota is told exactly if a call of the check failed, or if the calls took too long. -/
  unmetered_iff : x.checked.decision = .unmetered ↔
    x.faults.Disturbs timeoutMillis x.checked.calls
  /-- Exactly then the check is counted as an error. -/
  counted : x.checked.limiter.metrics.total Metrics.limiterErrors
    = x.before.metrics.total Metrics.limiterErrors
      + if x.checked.decision = .unmetered then 1 else 0
  /-- A rejected attempt leaves no hit of its own in the store. -/
  removed : x.checked.decision.allowed = false → ∃ s, x.checked.limiter.store = some s ∧
    ∀ hit ∈ (s.hitSet x.attempt.key).hits,
      hit.1 ≠ memberText x.attempt.now (x.attempt.identifier.getD defaultIdentifier)
        x.before.nonce x.before.sequence
  /-- An attempt is rejected only if the allowed attempts in its window reach the limit. -/
  full_of_rejected : x.checked.decision.allowed = false →
    quota.requests ≤ past.countP fun y =>
      y.within quota.span x.attempt.key x.attempt.now && y.checked.decision.allowed
  /-- An attempt is metered only if the metered attempts in its window do not reach the limit. -/
  room_of_metered : x.metered = true →
    (past.countP fun y => y.within quota.span x.attempt.key x.attempt.now && y.metered)
      < quota.requests

/-- **The account of the next attempt.** -/
theorem Endures.failsOpen {quota : String → Quota} {l : Limiter} {past : List Report}
    {a : Attempt} (h : Endures quota l past) (f : Faults)
    (ho : Attempt.Orderly (past.map Report.attempt ++ [a])) :
    FailsOpen (quota a.key) l.timeoutMillis past
      ⟨a, f, l, l.check f a.key (quota a.key) a.identifier a.now⟩ := by
  obtain ⟨s, hstore, -⟩ := h.shows
  obtain ⟨store, hends, hlimiter⟩ := check_ends h.enabled hstore f a.key (quota a.key)
    a.identifier a.now
  have hcount := h.count_eq ho hstore
  refine
    { unmetered_iff := hends.unmetered_iff
      counted := ?_
      removed := fun hrejected => ⟨store, by rw [hlimiter], hends.ne_member_of_rejected hrejected⟩
      full_of_rejected := ?_
      room_of_metered := ?_ }
  · rw [hlimiter, Metrics.total, List.count_append, ← Metrics.total]
    split <;> simp
  · intro hrejected
    refine Nat.le_trans (hends.limit_cases.1 hrejected) ?_
    rw [hcount]
    refine List.countP_mono_left fun x hx hholds => ?_
    rw [Bool.and_eq_true] at hholds ⊢
    exact ⟨hholds.1, h.allowed_of_holds x hx hholds.2⟩
  · intro hmetered
    rw [Report.metered, Bool.and_eq_true] at hmetered
    refine Nat.lt_of_le_of_lt ?_ (hends.limit_cases.2 hmetered.1 hmetered.2)
    rw [hcount]
    refine List.countP_mono_left fun x hx hcounted => ?_
    rw [Bool.and_eq_true] at hcounted ⊢
    exact ⟨hcounted.1, h.holds_of_metered x hx hcounted.2⟩

/-- A check keeps the deadline of the limiter. -/
theorem timeoutMillis_withstand (quota : String → Quota) (l : Limiter)
    (trials : List (Attempt × Faults)) :
    (l.withstand quota trials).2.timeoutMillis = l.timeoutMillis := by
  induction trials using List.reverseRecOn with
  | nil => rfl
  | append_singleton trials t ih =>
      rw [withstand_append_singleton, ← ih]
      generalize (l.withstand quota trials).2 = m
      rcases hstore : m.store with _ | s
      · rw [check_of_idle (.inr hstore)]
      · cases henabled : m.enabled with
        | false => rw [check_of_idle (.inl henabled)]
        | true =>
            obtain ⟨store, -, hlimiter⟩ := check_ends henabled hstore t.2 t.1.key
              (quota t.1.key) t.1.identifier t.1.now
            rw [hlimiter]

/-- **A store that fails never stops traffic, and the account of it is right**, in every orderly run
and whatever the faults: every attempt is accounted for, the errors counted are the attempts without
a quota, and a limiter that is disabled or has no store lets everything pass without a trace. -/
theorem fail_open {l : Limiter} (henabled : l.enabled = true) (hstore : l.store = some .empty)
    (hsequence : l.sequence = 0) (quota : String → Quota) {trials : List (Attempt × Faults)}
    (h : Attempt.Orderly (trials.map Prod.fst)) :
    ((l.withstand quota trials).1.map (fun x => (x.attempt, x.faults)) = trials ∧
      (∀ past x later, (l.withstand quota trials).1 = past ++ x :: later →
        FailsOpen (quota x.attempt.key) l.timeoutMillis past x) ∧
      (l.withstand quota trials).2.metrics.total Metrics.limiterErrors
        = l.metrics.total Metrics.limiterErrors
          + (l.withstand quota trials).1.countP fun x => x.checked.decision = .unmetered) ∧
    ∀ idle : Limiter, idle.enabled = false ∨ idle.store = none →
      ∀ faults key quota identifier now,
        idle.check faults key quota identifier now = ⟨.unmetered, [], 0, idle⟩ := by
  have hplaces : ∀ past x later, (l.withstand quota trials).1 = past ++ x :: later →
      FailsOpen (quota x.attempt.key) l.timeoutMillis past x := by
    intro past x later hsplit
    obtain ⟨attempt, faults, before, checked⟩ := x
    obtain ⟨done, rest, htrials, rfl, hbefore, hchecked⟩ := exists_of_withstand_eq hsplit
    simp only at htrials hbefore hchecked ⊢
    subst hbefore hchecked
    have horderly : Attempt.Orderly (done.map Prod.fst ++ [attempt]) := by
      rw [htrials, List.map_append, List.map_cons, List.append_cons] at h
      exact h.of_append
    rw [← timeoutMillis_withstand quota l done]
    refine Endures.failsOpen
      (endures_withstand henabled hstore hsequence quota horderly.of_append) faults ?_
    rw [map_attempt_withstand]
    exact horderly
  refine ⟨⟨map_withstand quota l trials, hplaces, ?_⟩, fun idle hidle => check_of_idle hidle⟩
  clear h
  induction trials using List.reverseRecOn with
  | nil => rfl
  | append_singleton trials t ih =>
      rw [withstand_append_singleton] at hplaces ⊢
      have hbefore := ih fun past x later hsplit =>
        hplaces past x (later ++ [_]) (by rw [hsplit, List.append_assoc, List.cons_append])
      have hlast := (hplaces (l.withstand quota trials).1 _ [] rfl).counted
      simp only at hlast
      rw [hlast, hbefore, List.countP_append, List.countP_singleton, Nat.add_assoc]
      simp only [decide_eq_true_eq]

/-- One hit a minute, and half a second for a check. The second check cannot remove its hit, the
third takes too long to find out the oldest one; both are let pass. The fourth is rejected, and so
is the fifth, a minute after the first, because the hit of the second is still there. -/
theorem fail_open_one_a_minute :
    let l : Limiter := { Limiter.ofConfig { store := .memory } (some .empty) with nonce := 7 }
    let quota : String → Quota := fun _ => ⟨1, 60⟩
    let trials : List (Attempt × Faults) :=
      [(⟨"k", none, 1000⟩, {}), (⟨"k", none, 1010⟩, { removeMember := { fails := true } }),
        (⟨"k", none, 1020⟩, { oldestScore := { delayMillis := 600 } }), (⟨"k", none, 1030⟩, {}),
        (⟨"k", none, 1061⟩, {})]
    Attempt.Orderly (trials.map Prod.fst) ∧
      (l.withstand quota trials).1.map (fun x => (x.checked.decision.allowed, x.metered))
        = [(true, true), (true, false), (true, false), (false, false), (false, false)] ∧
      (l.withstand quota trials).2.metrics.total Metrics.limiterErrors = 2 ∧
      ∀ past x later, (l.withstand quota trials).1 = past ++ x :: later →
        FailsOpen (quota x.attempt.key) l.timeoutMillis past x := by
  intro l quota trials
  have horderly : Attempt.Orderly (trials.map Prod.fst) :=
    .of_length (by decide) (by decide) (by decide)
  exact ⟨horderly, by decide, by decide, (fail_open rfl rfl rfl quota horderly).1.2.1⟩

end Limiter

end Tollgate
