import Mathlib.Data.List.Dedup
import Mathlib.Data.List.Induction
import Mathlib.Data.List.Perm.Subperm
import Tollgate.Proofs.Window.Ledger

/-!
# How long a store keeps its keys

A key expires at the deadline that its last hit has given it, but nothing happens at that moment:
expired keys are dropped by a sweep that runs with the hits of any key, at most once in
`Store.sweepInterval` seconds, and what an expired key still holds is cleared when the key is hit
again. Two things have to hold at once. No key stays much longer than its deadline, so that the
store does not grow with the callers that it has ever seen; and no key is dropped, and no member of
a key forgotten, before its time.

Both follow from one relation between the calls made and the store that they have left
(`Store.Keeps`). It ties the next sweep to the deadlines: it is due at most one interval after the
last hit, and every key held is due to expire less than one interval before it.

## Conventions

The time is the second of the last hit (`Store.clock`); removals carry none. Deadlines and the next
sweep stop at the largest signed word, and a hit in that very second gives a deadline that has been
reached already. A member is taken away by a call (`Store.Drops`) if the call removes it, or is a
hit on its key that starts its window at or after the score of the member, or that finds the key at
its deadline. The last is where an expiry is seen: a key that expires and is not hit again has no
deadline after the clock.

## Main results

* `Store.keeps_run`: the relation holds after every orderly run, by one lemma for each kind of call.
* `Store.Keeps.get?_live`: what a hit leaves of the members of its key.
* `Store.exists_holds_iff`: the members held are those that were put in and not taken away since.
* `Store.retains_run`: deadlines of the keys held, abandoned keys, live keys with their members, and
  the number of keys.
-/

namespace Tollgate

namespace StoreCall

/-- The second of the hit that a call records. -/
def second? : StoreCall → Option Int
  | recordHit _ _ now _ _ => some now
  | removeMember .. | oldestScore _ => none

/-- The deadline that a call gives to a key, if it records a hit under it. -/
def deadline? (key : String) : StoreCall → Option Int
  | recordHit k _ now _ ttl =>
    if k = key then some (Saturating.add64 now (Saturating.ofUnsigned ttl)) else none
  | removeMember .. | oldestScore _ => none

/-- The key of the hit that a call records, if that is made after the second `since`. -/
def keyAfter? (since : Int) : StoreCall → Option String
  | recordHit key _ now _ _ => if since < now then some key else none
  | removeMember .. | oldestScore _ => none

end StoreCall

namespace Store

/-- What a call makes of a store. -/
def perform (s : Store) : StoreCall → Store
  | .recordHit key member now windowStart ttl => (s.recordHit key member now windowStart ttl).2
  | .removeMember key member => s.removeMember key member
  | .oldestScore _ => s

/-- All calls in turn, on a store without keys. -/
def run (calls : List StoreCall) : Store :=
  calls.foldl perform .empty

/-- The deadline of a key is the one that its last hit has given it. -/
def deadline? (key : String) (calls : List StoreCall) : Option Int :=
  (calls.filterMap (StoreCall.deadline? key)).getLast?

/-- The second of the last hit; before the first hit it is zero. -/
def clock (calls : List StoreCall) : Int :=
  (calls.filterMap StoreCall.second?).getLast?.getD 0

/-- How many different keys have been hit after the second `since`. -/
def countKeysAfter (since : Int) (calls : List StoreCall) : Nat :=
  (calls.filterMap (StoreCall.keyAfter? since)).dedup.length

/-- **An orderly run**: the seconds of the hits are those of a clock that does not go back, and
every hit keeps its key for a while. -/
structure Orderly (calls : List StoreCall) : Prop where
  ordered : (calls.filterMap StoreCall.second?).Pairwise (· ≤ ·)
  inRange : ∀ now ∈ calls.filterMap StoreCall.second?, 0 ≤ now ∧ now ≤ maxSigned64
  kept : ∀ key member now windowStart ttl,
    .recordHit key member now windowStart ttl ∈ calls → 1 ≤ ttl

/-- **A call takes a member away from its key**: it removes it, or it is a hit that leaves the score
of the member outside its window, or one that finds the key at its deadline. -/
inductive Drops (key member : String) (score : Int) (past : List StoreCall) : StoreCall → Prop
  | removed : Drops key member score past (.removeMember key member)
  | outside {m : String} {now windowStart : Int} {ttl : Nat} (h : score ≤ windowStart) :
      Drops key member score past (.recordHit key m now windowStart ttl)
  | expired {m : String} {now windowStart deadline : Int} {ttl : Nat}
      (h : deadline? key past = some deadline) (hreached : deadline ≤ now) :
      Drops key member score past (.recordHit key m now windowStart ttl)

/-- None of the calls made after `past` takes the member away. -/
def Spared (key member : String) (score : Int) (past calls : List StoreCall) : Prop :=
  ∀ before call after, calls = before ++ call :: after →
    ¬Drops key member score (past ++ before) call

/-- The calls have put the member under its key with this score, at last, and have not taken it away
since. -/
def Holds (key member : String) (score : Int) (calls : List StoreCall) : Prop :=
  ∃ past windowStart ttl later,
    calls = past ++ .recordHit key member score windowStart ttl :: later ∧
      Spared key member score (past ++ [.recordHit key member score windowStart ttl]) later ∧
      ∀ now windowStart ttl, .recordHit key member now windowStart ttl ∉ later

/-- The calls have put the member under its key, and none of those after has taken it away. -/
def Remains (key member : String) (calls : List StoreCall) : Prop :=
  ∃ past score windowStart ttl later,
    calls = past ++ .recordHit key member score windowStart ttl :: later ∧
      Spared key member score (past ++ [.recordHit key member score windowStart ttl]) later

variable {key member : String} {score : Int} {calls : List StoreCall} {call : StoreCall}

/-! ### One call more -/

/-- The last call works on what the calls before it have left. -/
theorem run_append_singleton (calls : List StoreCall) (call : StoreCall) :
    run (calls ++ [call]) = (run calls).perform call := by
  rw [run, List.foldl_append, List.foldl_cons, List.foldl_nil, ← run]

/-- The last call that gives a deadline to a key decides. -/
theorem deadline?_append_singleton (key : String) (calls : List StoreCall) (call : StoreCall) :
    deadline? key (calls ++ [call]) = (call.deadline? key).or (deadline? key calls) := by
  rw [deadline?, List.filterMap_append, List.getLast?_append, deadline?]
  rcases h : call.deadline? key with _ | d <;> simp [h]

/-- The clock moves with hits only. -/
theorem clock_append_singleton (calls : List StoreCall) (call : StoreCall) :
    clock (calls ++ [call]) = call.second?.getD (clock calls) := by
  rw [clock, List.filterMap_append, List.getLast?_append, clock]
  rcases h : call.second? with _ | d <;> simp [h]

/-- A member is spared by some calls and by the one after them. -/
theorem spared_append_singleton {past : List StoreCall} :
    Spared key member score past (calls ++ [call])
      ↔ Spared key member score past calls ∧ ¬Drops key member score (past ++ calls) call := by
  constructor
  · intro h
    refine ⟨fun before c after hsplit => ?_, h calls call [] rfl⟩
    exact h before c (after ++ [call]) (by rw [hsplit, List.append_assoc, List.cons_append])
  · rintro ⟨hcalls, hcall⟩ before c after hsplit
    rcases List.eq_nil_or_concat after with rfl | ⟨after', last, rfl⟩
    · obtain ⟨rfl, hsame⟩ := List.append_inj' hsplit rfl
      rw [← List.head_eq_of_cons_eq hsame]
      exact hcall
    · rw [List.concat_eq_append, ← List.cons_append, ← List.append_assoc] at hsplit
      exact hcalls before c after' (List.append_inj' hsplit rfl).1

/-- **A member is held after one more call** if that puts it in, or if it was held before and is not
taken away. -/
theorem holds_append_singleton :
    Holds key member score (calls ++ [call])
      ↔ (∃ windowStart ttl, call = .recordHit key member score windowStart ttl) ∨
        (Holds key member score calls ∧ ¬Drops key member score calls call ∧
          ∀ now windowStart ttl, call ≠ .recordHit key member now windowStart ttl) := by
  constructor
  · rintro ⟨past, windowStart, ttl, later, hsplit, hspared, hlast⟩
    rcases List.eq_nil_or_concat later with rfl | ⟨later', last, rfl⟩
    · obtain ⟨rfl, hsame⟩ := List.append_inj' hsplit rfl
      exact .inl ⟨windowStart, ttl, List.head_eq_of_cons_eq hsame⟩
    · rw [List.concat_eq_append] at hsplit hspared hlast
      rw [← List.cons_append, ← List.append_assoc] at hsplit
      obtain ⟨rfl, hsame⟩ := List.append_inj' hsplit rfl
      obtain rfl : call = last := List.head_eq_of_cons_eq hsame
      obtain ⟨hspared, hdrops⟩ := spared_append_singleton.mp hspared
      rw [List.append_assoc, List.singleton_append] at hdrops
      refine .inr ⟨⟨past, windowStart, ttl, later', rfl, hspared, fun now ws ttl' hmem => ?_⟩,
        hdrops, fun now ws ttl' hcall => ?_⟩
      · exact hlast now ws ttl' (List.mem_append_left _ hmem)
      · exact hlast now ws ttl' (List.mem_append_right _ (List.mem_singleton.mpr hcall.symm))
  · rintro (⟨windowStart, ttl, rfl⟩ |
      ⟨⟨past, windowStart, ttl, later, rfl, hspared, hlast⟩, hdrops, hother⟩)
    · refine ⟨calls, windowStart, ttl, [], rfl, fun before c after hnil => ?_, by simp⟩
      exact absurd hnil (by simp)
    · refine ⟨past, windowStart, ttl, later ++ [call], by simp,
        spared_append_singleton.mpr ⟨hspared, ?_⟩, fun now ws ttl' hmem => ?_⟩
      · rwa [List.append_assoc, List.singleton_append]
      · rcases List.mem_append.mp hmem with hmem | hmem
        · exact hlast now ws ttl' hmem
        · exact hother now ws ttl' (List.mem_singleton.mp hmem).symm

/-- The clock shows the second of the hit just recorded. -/
theorem clock_recordHit {now windowStart : Int} {ttl : Nat} :
    clock (calls ++ [.recordHit key member now windowStart ttl]) = now := by
  rw [clock_append_singleton]
  rfl

/-- A recorded hit gives a new deadline to its key. -/
theorem deadline?_recordHit_self {now windowStart : Int} {ttl : Nat} :
    deadline? key (calls ++ [.recordHit key member now windowStart ttl])
      = some (Saturating.add64 now (Saturating.ofUnsigned ttl)) := by
  rw [deadline?_append_singleton, StoreCall.deadline?, if_pos rfl, Option.some_or]

/-- A recorded hit leaves the deadlines of other keys. -/
theorem deadline?_recordHit_of_ne {other : String} (hne : other ≠ key) {now windowStart : Int}
    {ttl : Nat} :
    deadline? other (calls ++ [.recordHit key member now windowStart ttl])
      = deadline? other calls := by
  rw [deadline?_append_singleton, StoreCall.deadline?, if_neg hne.symm, Option.none_or]

/-- A recorded hit takes a member of its key away if it leaves it outside its window, or finds the
key at its deadline. -/
theorem drops_recordHit_iff {m : String} {now windowStart : Int} {ttl : Nat} :
    Drops key member score calls (.recordHit key m now windowStart ttl)
      ↔ score ≤ windowStart ∨ ∃ deadline, deadline? key calls = some deadline ∧ deadline ≤ now := by
  constructor
  · rintro (_ | hscore | ⟨hdeadline, hreached⟩)
    · exact .inl hscore
    · exact .inr ⟨_, hdeadline, hreached⟩
  · rintro (hscore | ⟨deadline, hdeadline, hreached⟩)
    · exact .outside hscore
    · exact .expired hdeadline hreached

/-- A removed member is taken away, and no other one is. -/
theorem drops_removeMember_iff {k m : String} :
    Drops key member score calls (.removeMember k m) ↔ k = key ∧ m = member := by
  constructor
  · rintro ⟨⟩
    exact ⟨rfl, rfl⟩
  · rintro ⟨rfl, rfl⟩
    exact .removed

/-- What takes a member away takes it away with a lower score as well. -/
theorem Drops.of_le {score' : Int} (h : Drops key member score' calls call)
    (hle : score ≤ score') : Drops key member score calls call := by
  cases h with
  | removed => exact .removed
  | outside hscore => exact .outside (Int.le_trans hle hscore)
  | expired hdeadline hreached => exact .expired hdeadline hreached

/-- **What is recorded or removed elsewhere** changes nothing under a key. -/
theorem holds_of_ne {k m : String} {now windowStart : Int} {ttl : Nat} (hne : key ≠ k) :
    Holds key member score (calls ++ [.recordHit k m now windowStart ttl])
      ↔ Holds key member score calls := by
  rw [holds_append_singleton]
  constructor
  · rintro (⟨ws, ttl', hcall⟩ | ⟨hholds, -, -⟩)
    · cases hcall
      exact absurd rfl hne
    · exact hholds
  · intro hholds
    refine .inr ⟨hholds, fun hdrops => ?_, fun now' ws ttl' hcall => ?_⟩
    · cases hdrops <;> exact hne rfl
    · cases hcall
      exact hne rfl

/-- A key under which a member was put has a deadline. -/
theorem exists_deadline_of_holds (h : Holds key member score calls) :
    ∃ deadline, deadline? key calls = some deadline := by
  obtain ⟨past, windowStart, ttl, later, rfl, -, -⟩ := h
  rw [← Option.ne_none_iff_exists', deadline?, ne_eq, List.getLast?_eq_none_iff]
  simp [StoreCall.deadline?]

/-! ### One step of a store -/

/-- A sweep that is due drops the keys that have reached their deadlines. -/
theorem get?_sweep {s : Store} (h : (Keyed.keys s.sets).Nodup) (key : String) (now : Int) :
    Keyed.get? key (s.sweep now).sets
      = if now < s.nextSweep then Keyed.get? key s.sets
        else (Keyed.get? key s.sets).filter fun set => !set.isExpired now := by
  rw [sweep]
  split
  · rfl
  · exact Keyed.get?_filter h

/-- The key of a recorded hit is there. -/
theorem get?_recordHit_self {s : Store} (h : (Keyed.keys s.sets).Nodup) (key member : String)
    (now windowStart : Int) (ttl : Nat) :
    Keyed.get? key (s.recordHit key member now windowStart ttl).2.sets
      = some
          { hits := Keyed.put member now ((s.hitSet key).live now windowStart)
            expiresAt := some (Saturating.add64 now (Saturating.ofUnsigned ttl)) } := by
  simp only [recordHit, Keyed.get?_put_self, live_sweep h key le_rfl]

/-- The other keys are there, except for those that have reached their deadlines if a sweep was
due. -/
theorem get?_recordHit_of_ne {s : Store} (h : (Keyed.keys s.sets).Nodup) {key other : String}
    (hne : other ≠ key) {member : String} {now windowStart : Int} {ttl : Nat} {set : HitSet} :
    Keyed.get? other (s.recordHit key member now windowStart ttl).2.sets = some set
      ↔ Keyed.get? other s.sets = some set ∧ (s.nextSweep ≤ now → set.isExpired now = false) := by
  simp only [recordHit, Keyed.get?_put_of_ne hne, get?_sweep h]
  split <;> rename_i hdue
  · simp [not_le.mpr hdue]
  · simp [Option.filter_eq_some_iff, not_lt.mp hdue]

/-- A deadline is after the second of its hit, but in the largest second. -/
theorem lt_deadline {now : Int} {ttl : Nat} (h0 : 0 ≤ now) (hmax : now ≤ maxSigned64)
    (httl : 1 ≤ ttl) :
    now < Saturating.add64 now (Saturating.ofUnsigned ttl) ∨
      now = maxSigned64 ∧ Saturating.add64 now (Saturating.ofUnsigned ttl) = maxSigned64 := by
  simp only [Saturating.add64, Saturating.ofUnsigned, Saturating.clamp64, minSigned64,
    maxSigned64] at *
  omega

/-- A deadline is no later than the time to live allows. -/
theorem deadline_le {now : Int} {ttl : Nat} (h0 : 0 ≤ now) :
    Saturating.add64 now (Saturating.ofUnsigned ttl) ≤ now + ttl := by
  simp only [Saturating.add64, Saturating.ofUnsigned, Saturating.clamp64, minSigned64, maxSigned64]
  omega

/-- When the sweep after a recorded hit is due. -/
theorem nextSweep_recordHit (s : Store) (key member : String) (now windowStart : Int) (ttl : Nat) :
    (s.recordHit key member now windowStart ttl).2.nextSweep
      = if now < s.nextSweep then s.nextSweep else Saturating.add64 now sweepInterval := by
  simp only [recordHit, sweep]
  split <;> rfl

/-- The sweep after a recorded hit is due within an interval, at the largest second at last. -/
theorem nextSweep_recordHit_le {s : Store} {now windowStart : Int} {ttl : Nat}
    (h : s.nextSweep ≤ now + sweepInterval ∧ s.nextSweep ≤ maxSigned64) (h0 : 0 ≤ now) :
    (s.recordHit key member now windowStart ttl).2.nextSweep ≤ now + sweepInterval ∧
      (s.recordHit key member now windowStart ttl).2.nextSweep ≤ maxSigned64 := by
  rw [nextSweep_recordHit]
  split
  · exact h
  · simp only [Saturating.add64, Saturating.clamp64, sweepInterval, minSigned64, maxSigned64]
    omega

/-- What a removed member changes of the keys. -/
theorem get?_removeMember (s : Store) (key member other : String) :
    Keyed.get? other (s.removeMember key member).sets
      = (Keyed.get? other s.sets).map fun set =>
          if other = key then { set with hits := Keyed.erase member set.hits } else set := by
  rw [removeMember]
  split <;> rename_i hkey
  · rw [hkey, Keyed.get?_modify_self]
  · rw [Keyed.get?_modify_of_ne hkey, Option.map_id']

/-- **A store that has lived through some calls.** -/
structure Keeps (calls : List StoreCall) (s : Store) : Prop where
  /-- The store holds every key once. -/
  distinct : (Keyed.keys s.sets).Nodup
  /-- The next sweep is due within an interval of the last hit, at the largest second at last. -/
  due : s.nextSweep ≤ clock calls + sweepInterval ∧ s.nextSweep ≤ maxSigned64
  /-- A key held has the deadline of its last hit. It was not reached at the last sweep, and it was
  not reached an interval ago. -/
  lasting : ∀ key set, Keyed.get? key s.sets = some set → ∃ deadline,
    set.expiresAt = some deadline ∧ deadline? key calls = some deadline ∧
      s.nextSweep - sweepInterval < deadline ∧ clock calls - sweepInterval < deadline
  /-- A key is held until its deadline. -/
  live : ∀ key deadline, deadline? key calls = some deadline → clock calls < deadline →
    ∃ set, Keyed.get? key s.sets = some set
  /-- A key holds every member once. -/
  members : ∀ key set, Keyed.get? key s.sets = some set → (Keyed.keys set.hits).Nodup
  /-- A key holds what was put in and not taken away since. -/
  holds : ∀ key set, Keyed.get? key s.sets = some set → ∀ member score,
    Keyed.get? member set.hits = some score ↔ Holds key member score calls

namespace Keeps

variable {s : Store}

/-- A store without keys. -/
theorem empty : Keeps [] .empty where
  distinct := List.nodup_nil
  due := by decide
  lasting := by simp [Store.empty]
  live := by simp [deadline?]
  members := by simp [Store.empty]
  holds := by simp [Store.empty]

/-- The deadline of a key that is held. -/
theorem expiresAt_of_deadline? (h : Keeps calls s) {set : HitSet} {deadline : Int}
    (hset : Keyed.get? key s.sets = some set) (hdeadline : deadline? key calls = some deadline) :
    set.expiresAt = some deadline ∧ clock calls - sweepInterval < deadline := by
  obtain ⟨last, hexpires, hlast, -, hlasts⟩ := h.lasting key set hset
  obtain rfl : last = deadline := by rwa [hdeadline, Option.some_inj, eq_comm] at hlast
  exact ⟨hexpires, hlasts⟩

/-- What counts of a key has distinct members. -/
theorem nodup_keys_live (h : Keeps calls s) (key : String) (now windowStart : Int) :
    (Keyed.keys ((s.hitSet key).live now windowStart)).Nodup := by
  rw [hitSet]
  rcases hset : Keyed.get? key s.sets with _ | set
  · rw [Option.getD_none, live_nil]
    exact List.nodup_nil
  · rw [Option.getD_some, HitSet.live]
    split
    · exact List.nodup_nil
    · exact Keyed.nodup_keys_filter (h.members key set hset)

/-- **What a hit leaves of the members of its key**: those that it does not take away. -/
theorem get?_live (h : Keeps calls s) (m : String) {now windowStart : Int} (ttl : Nat)
    (hle : clock calls ≤ now) :
    Keyed.get? member ((s.hitSet key).live now windowStart) = some score
      ↔ Holds key member score calls ∧
        ¬Drops key member score calls (.recordHit key m now windowStart ttl) := by
  rw [drops_recordHit_iff, hitSet]
  rcases hset : Keyed.get? key s.sets with _ | set
  · -- the key was swept, or it was never there
    rw [Option.getD_none, live_nil, Keyed.get?_nil]
    refine iff_of_false (by simp) (not_and_not_right.mpr fun hholds => .inr ?_)
    obtain ⟨deadline, hdeadline⟩ := exists_deadline_of_holds hholds
    refine ⟨deadline, hdeadline, ?_⟩
    by_contra hlive
    obtain ⟨set, hthere⟩ := h.live key deadline hdeadline (by omega)
    rw [hset] at hthere
    cases hthere
  · obtain ⟨deadline, hexpires, hdeadline, -, -⟩ := h.lasting key set hset
    rw [Option.getD_some, HitSet.live, HitSet.isExpired, hexpires, hdeadline]
    by_cases hreached : deadline ≤ now
    · simp [hreached]
    · simp only [hreached, decide_false, Bool.false_eq_true, if_false, Option.some.injEq,
        exists_eq_left', or_false, not_le]
      rw [Keyed.get?_filter (h.members key set hset), Option.filter_eq_some_iff,
        h.holds key set hset]
      simp

/-- **One more hit**, by a clock that does not go back. -/
theorem recordHit (h : Keeps calls s) {now windowStart : Int} {ttl : Nat}
    (hle : clock calls ≤ now) (h0 : 0 ≤ now) (hmax : now ≤ maxSigned64) (httl : 1 ≤ ttl) :
    Keeps (calls ++ [.recordHit key member now windowStart ttl])
      (s.recordHit key member now windowStart ttl).2 where
  distinct := nodup_keys_recordHit h.distinct _ _ _ _ _
  due := by
    rw [clock_recordHit]
    exact nextSweep_recordHit_le (h.due.imp_left fun hdue => by omega) h0
  lasting := by
    intro other set hset
    have hinterval : 0 < sweepInterval := by decide
    have hnext := @nextSweep_recordHit_le key member s now windowStart ttl
      (h.due.imp_left fun hdue => by omega) h0
    rw [clock_recordHit]
    by_cases hkey : other = key
    · subst hkey
      rw [get?_recordHit_self h.distinct, Option.some_inj] at hset
      refine ⟨_, by rw [← hset], deadline?_recordHit_self, ?_⟩
      rcases lt_deadline h0 hmax httl with hafter | ⟨hlast, hreached⟩ <;> omega
    · obtain ⟨hset, hswept⟩ := (get?_recordHit_of_ne h.distinct hkey).mp hset
      obtain ⟨deadline, hexpires, hdeadline, hlasts, -⟩ := h.lasting other set hset
      refine ⟨deadline, hexpires, by rwa [deadline?_recordHit_of_ne hkey], ?_⟩
      rcases lt_or_ge now s.nextSweep with hdue | hdue
      · -- no sweep, and the one that is due is as it was
        rw [nextSweep_recordHit, if_pos hdue]
        omega
      · -- a sweep, which has found the key before its deadline
        have hleft := hswept hdue
        rw [HitSet.isExpired, hexpires, decide_eq_false_iff_not] at hleft
        omega
  live := by
    intro other deadline hdeadline hlive
    rw [clock_recordHit] at hlive
    by_cases hkey : other = key
    · subst hkey
      exact ⟨_, get?_recordHit_self h.distinct _ _ _ _ _⟩
    · rw [deadline?_recordHit_of_ne hkey] at hdeadline
      obtain ⟨set, hset⟩ := h.live other deadline hdeadline (by omega)
      refine ⟨set, (get?_recordHit_of_ne h.distinct hkey).mpr ⟨hset, fun _ => ?_⟩⟩
      rw [HitSet.isExpired, (h.expiresAt_of_deadline? hset hdeadline).1]
      simpa using hlive
  members := by
    intro other set hset
    by_cases hkey : other = key
    · subst hkey
      rw [get?_recordHit_self h.distinct, Option.some_inj] at hset
      rw [← hset]
      exact Keyed.nodup_keys_put (h.nodup_keys_live other now windowStart)
    · exact h.members other set ((get?_recordHit_of_ne h.distinct hkey).mp hset).1
  holds := by
    intro other set hset m score
    by_cases hkey : other = key
    · subst hkey
      rw [get?_recordHit_self h.distinct, Option.some_inj] at hset
      rw [← hset, holds_append_singleton]
      by_cases hmember : m = member
      · subst hmember
        simp
      · rw [Keyed.get?_put_of_ne hmember, h.get?_live member ttl hle]
        simp [Ne.symm hmember]
    · rw [holds_of_ne hkey]
      exact h.holds other set ((get?_recordHit_of_ne h.distinct hkey).mp hset).1 m score

/-- **A removed member.** -/
theorem removeMember (h : Keeps calls s) :
    Keeps (calls ++ [.removeMember key member]) (s.removeMember key member) := by
  have hclock : clock (calls ++ [.removeMember key member]) = clock calls :=
    clock_append_singleton _ _
  have hdeadline : ∀ other,
      deadline? other (calls ++ [.removeMember key member]) = deadline? other calls :=
    fun other => deadline?_append_singleton other _ _
  refine
    { distinct := nodup_keys_removeMember h.distinct _ _
      due := by rw [hclock]; exact h.due
      lasting := ?lasting, live := ?live, members := ?members, holds := ?holds }
  case live =>
    intro other deadline hsome hlive
    rw [hdeadline] at hsome
    rw [hclock] at hlive
    obtain ⟨set, hset⟩ := h.live other deadline hsome hlive
    rw [get?_removeMember, hset]
    exact ⟨_, rfl⟩
  all_goals
    intro other after hafter
    rw [get?_removeMember, Option.map_eq_some_iff] at hafter
    obtain ⟨set, hset, rfl⟩ := hafter
  case lasting =>
    rw [hclock, hdeadline, apply_ite HitSet.expiresAt, ite_self]
    exact h.lasting other set hset
  case members =>
    split
    · exact Keyed.nodup_keys_filter (h.members other set hset)
    · exact h.members other set hset
  case holds =>
    intro m score
    have hholds := h.holds other set hset m score
    rw [holds_append_singleton, drops_removeMember_iff]
    split <;> rename_i hkey
    · by_cases hmember : m = member
      · simp [hkey, hmember, Keyed.get?_erase_self]
      · simp [hkey, Ne.symm hmember, Keyed.get?_erase_of_ne hmember, hholds]
    · simp [Ne.symm hkey, hholds]

/-- A call that only asks. -/
theorem oldestScore (h : Keeps calls s) : Keeps (calls ++ [.oldestScore key]) s := by
  have hclock : clock (calls ++ [.oldestScore key]) = clock calls := clock_append_singleton _ _
  have hdeadline : ∀ other, deadline? other (calls ++ [.oldestScore key]) = deadline? other calls :=
    fun other => deadline?_append_singleton other _ _
  have hholds : ∀ other m score,
      Holds other m score (calls ++ [.oldestScore key]) ↔ Holds other m score calls := by
    intro other m score
    rw [holds_append_singleton]
    have hstays : ¬Drops other m score calls (.oldestScore key) := by rintro ⟨⟩
    simp [hstays]
  exact
    { distinct := h.distinct
      due := by rw [hclock]; exact h.due
      lasting := by simpa only [hclock, hdeadline] using h.lasting
      live := by simpa only [hclock, hdeadline] using h.live
      members := h.members
      holds := by simpa only [hholds] using h.holds }

end Keeps

/-! ### A run of calls -/

namespace Orderly

/-- What an orderly run begins with is orderly. -/
theorem of_append {later : List StoreCall} (h : Orderly (calls ++ later)) : Orderly calls where
  ordered := (List.pairwise_append.mp (List.filterMap_append ▸ h.ordered)).1
  inRange now hmem :=
    h.inRange now (by rw [List.filterMap_append]; exact List.mem_append_left _ hmem)
  kept key member now windowStart ttl hmem :=
    h.kept key member now windowStart ttl (List.mem_append_left _ hmem)

/-- A hit is not made before the clock. -/
theorem clock_le {now windowStart : Int} {ttl : Nat}
    (h : Orderly (calls ++ [.recordHit key member now windowStart ttl])) : clock calls ≤ now := by
  have hnow := h.inRange now (by simp [StoreCall.second?])
  rcases hlast : (calls.filterMap StoreCall.second?).getLast? with _ | last
  · rw [clock, hlast]
    exact hnow.1
  · have hordered := h.ordered
    rw [List.filterMap_append, List.pairwise_append] at hordered
    rw [clock, hlast]
    exact hordered.2.2 last (List.mem_of_getLast? hlast) now (by simp [StoreCall.second?])

/-- The hits after a hit are not made before it. -/
theorem le_of_mem {past later : List StoreCall} {k m : String} {now windowStart windowStart' : Int}
    {ttl ttl' : Nat} (h : Orderly (past ++ .recordHit key member score windowStart ttl :: later))
    (hmem : .recordHit k m now windowStart' ttl' ∈ later) : score ≤ now := by
  have hordered := (List.pairwise_append.mp (List.filterMap_append ▸ h.ordered)).2.1
  simp only [List.filterMap_cons, StoreCall.second?] at hordered
  exact List.rel_of_pairwise_cons hordered (List.mem_filterMap.mpr ⟨_, hmem, rfl⟩)

end Orderly

/-- **An orderly run keeps** what it should. -/
theorem keeps_run (h : Orderly calls) : Keeps calls (run calls) := by
  induction calls using List.reverseRecOn with
  | nil => exact Keeps.empty
  | append_singleton calls call ih =>
      have hbefore := ih h.of_append
      rw [run_append_singleton]
      cases call with
      | recordHit key member now windowStart ttl =>
          obtain ⟨h0, hmax⟩ := h.inRange now (by simp [StoreCall.second?])
          exact hbefore.recordHit h.clock_le h0 hmax
            (h.kept key member now windowStart ttl (by simp))
      | removeMember key member => exact hbefore.removeMember
      | oldestScore key => exact hbefore.oldestScore

/-- A member that was put in, and was not taken away since, is held with the score of its last
hit, which is no lower. -/
theorem exists_holds_of_spared {past later : List StoreCall} {windowStart : Int} {ttl : Nat}
    (h : Orderly (past ++ .recordHit key member score windowStart ttl :: later))
    (hspared : Spared key member score
      (past ++ [.recordHit key member score windowStart ttl]) later) :
    ∃ score', score ≤ score' ∧
      Holds key member score' (past ++ .recordHit key member score windowStart ttl :: later) := by
  induction later using List.reverseRecOn with
  | nil => exact ⟨score, le_rfl, holds_append_singleton.mpr (.inl ⟨windowStart, ttl, rfl⟩)⟩
  | append_singleton later call ih =>
      have hassoc : past ++ .recordHit key member score windowStart ttl :: (later ++ [call])
          = past ++ .recordHit key member score windowStart ttl :: later ++ [call] := by simp
      obtain ⟨hbefore, hcall⟩ := spared_append_singleton.mp hspared
      obtain ⟨score', hle, hholds⟩ := ih (hassoc ▸ h).of_append hbefore
      rw [hassoc]
      by_cases hagain : ∃ now windowStart ttl, call = .recordHit key member now windowStart ttl
      · obtain ⟨now, windowStart', ttl', rfl⟩ := hagain
        exact ⟨now, h.le_of_mem (List.mem_append_right _ (List.mem_singleton_self _)),
          holds_append_singleton.mpr (.inl ⟨windowStart', ttl', rfl⟩)⟩
      · refine ⟨score', hle, holds_append_singleton.mpr (.inr ⟨hholds, fun hdrops => ?_, ?_⟩)⟩
        · rw [List.append_assoc, List.singleton_append] at hcall
          exact hcall (hdrops.of_le hle)
        · exact fun now windowStart' ttl' hcall => hagain ⟨now, windowStart', ttl', hcall⟩

/-- A member that remains is held with the score of its last hit. -/
theorem exists_holds_iff (h : Orderly calls) :
    (∃ score, Holds key member score calls) ↔ Remains key member calls := by
  constructor
  · rintro ⟨score, past, windowStart, ttl, later, hsplit, hspared, -⟩
    exact ⟨past, score, windowStart, ttl, later, hsplit, hspared⟩
  · rintro ⟨past, score, windowStart, ttl, later, rfl, hspared⟩
    obtain ⟨score', -, hholds⟩ := exists_holds_of_spared h hspared
    exact ⟨score', hholds⟩

/-- **What an orderly run leaves in its store**, at the second that its clock shows. -/
structure Retains (calls : List StoreCall) (s : Store) : Prop where
  /-- Every key held has a deadline that was not reached a sweep interval ago. -/
  deadlines : ∀ key ∈ Keyed.keys s.sets, ∃ deadline,
    s.expiresAt key = some deadline ∧ clock calls - sweepInterval < deadline
  /-- A key that was not hit again is gone a sweep interval after its deadline. -/
  abandoned : ∀ key deadline, deadline? key calls = some deadline →
    deadline + sweepInterval ≤ clock calls → key ∉ Keyed.keys s.sets
  /-- Until its deadline a key is held, with the members that were not taken away and no others. -/
  live : ∀ key deadline, deadline? key calls = some deadline → clock calls < deadline →
    key ∈ Keyed.keys s.sets ∧ s.expiresAt key = some deadline ∧
      ∀ member, member ∈ Keyed.keys (s.hitSet key).hits ↔ Remains key member calls
  /-- There are no more keys than were hit within the longest time to live and a sweep interval. -/
  few : ∀ longest : Nat, (∀ key member now windowStart ttl,
      .recordHit key member now windowStart ttl ∈ calls → ttl ≤ longest) →
    s.keyCount ≤ countKeysAfter (clock calls - (longest + sweepInterval)) calls

namespace Keeps

/-- **The keys held were hit** within the longest time to live and a sweep interval. -/
theorem mem_keysAfter {s : Store} (h : Keeps calls s) (horderly : Orderly calls) {longest : Nat}
    (hlongest : ∀ key member now windowStart ttl,
      .recordHit key member now windowStart ttl ∈ calls → ttl ≤ longest)
    (hheld : key ∈ Keyed.keys s.sets) :
    key ∈ calls.filterMap (StoreCall.keyAfter? (clock calls - (longest + sweepInterval))) := by
  obtain ⟨set, hset⟩ := Keyed.mem_keys_iff.mp hheld
  obtain ⟨deadline, -, hdeadline, -, hlasts⟩ := h.lasting key set hset
  obtain ⟨call, hcall, hgives⟩ := List.mem_filterMap.mp (List.mem_of_getLast? hdeadline)
  refine List.mem_filterMap.mpr ⟨call, hcall, ?_⟩
  cases call with
  | recordHit k member now windowStart ttl =>
      obtain ⟨rfl, hsum⟩ :
          k = key ∧ Saturating.add64 now (Saturating.ofUnsigned ttl) = deadline := by
        simpa [StoreCall.deadline?] using hgives
      have hnow := (horderly.inRange now (List.mem_filterMap.mpr ⟨_, hcall, rfl⟩)).1
      have hshort := hlongest k member now windowStart ttl hcall
      have hlate := @deadline_le now ttl hnow
      rw [StoreCall.keyAfter?, if_pos (by omega)]
  | removeMember k member => simp [StoreCall.deadline?] at hgives
  | oldestScore k => simp [StoreCall.deadline?] at hgives

end Keeps

/-- **Keys are kept for a bounded time, and no live hit is lost.** After every orderly run, and so
after every call of one (what a run begins with is orderly), no key is held whose deadline was
reached a sweep interval ago; a key before its deadline is held, with every member put in since it
last expired that was neither removed nor left outside a window; and the number of keys is bounded
by those hit lately. -/
theorem retains_run (h : Orderly calls) : Retains calls (run calls) := by
  have hkeeps := keeps_run h
  refine { deadlines := ?deadlines, abandoned := ?abandoned, live := ?live, few := ?few }
  case deadlines =>
    intro key hheld
    obtain ⟨set, hset⟩ := Keyed.mem_keys_iff.mp hheld
    obtain ⟨deadline, hexpires, -, -, hlasts⟩ := hkeeps.lasting key set hset
    exact ⟨deadline, by rw [expiresAt, hitSet, hset, Option.getD_some, hexpires], hlasts⟩
  case abandoned =>
    intro key deadline hdeadline hreached hheld
    obtain ⟨set, hset⟩ := Keyed.mem_keys_iff.mp hheld
    have hlasts := (hkeeps.expiresAt_of_deadline? hset hdeadline).2
    omega
  case live =>
    intro key deadline hdeadline hlive
    obtain ⟨set, hset⟩ := hkeeps.live key deadline hdeadline hlive
    have hexpires := (hkeeps.expiresAt_of_deadline? hset hdeadline).1
    have hthere : (run calls).hitSet key = set := by rw [hitSet, hset, Option.getD_some]
    refine ⟨Keyed.mem_keys_iff.mpr ⟨set, hset⟩, by rw [expiresAt, hthere, hexpires],
      fun member => ?_⟩
    rw [hthere, Keyed.mem_keys_iff, ← exists_holds_iff h]
    exact exists_congr fun score => hkeeps.holds key set hset member score
  case few =>
    intro longest hlongest
    have hsub : Keyed.keys (run calls).sets
        ⊆ (calls.filterMap
          (StoreCall.keyAfter? (clock calls - (longest + sweepInterval)))).dedup :=
      fun key hheld => List.mem_dedup.mpr (hkeeps.mem_keysAfter h hlongest hheld)
    calc (run calls).keyCount
        = (Keyed.keys (run calls).sets).length := by rw [keyCount, Keyed.keys, List.length_map]
      _ ≤ countKeysAfter (clock calls - (longest + sweepInterval)) calls :=
          (List.subperm_of_subset hkeeps.distinct hsub).length_le

/-- One key that is abandoned and one that is hit three times: the first is gone a minute after its
deadline, the second is held with the hit that was not removed and is inside the last window. -/
theorem retains_run_one_abandoned :
    let calls : List StoreCall :=
      [.recordHit "stale" "a" 1000 940 70, .recordHit "live" "a" 1060 1000 70,
        .recordHit "live" "b" 1080 1020 70, .removeMember "live" "a",
        .recordHit "live" "c" 1130 1070 70]
    Orderly calls ∧ clock calls = 1130 ∧ deadline? "stale" calls = some 1070 ∧
      "stale" ∉ Keyed.keys (run calls).sets ∧ deadline? "live" calls = some 1200 ∧
      (run calls).expiresAt "live" = some 1200 ∧
      (Remains "live" "b" calls ∧ Remains "live" "c" calls ∧ ¬Remains "live" "a" calls) ∧
      (run calls).keyCount ≤ countKeysAfter 1000 calls ∧ countKeysAfter 1000 calls = 1 := by
  intro calls
  have hkept : ∀ key member now windowStart ttl,
      .recordHit key member now windowStart ttl ∈ calls → ttl = 70 := by
    intro key member now windowStart ttl hmem
    simp only [calls, List.mem_cons, List.not_mem_nil, StoreCall.recordHit.injEq, reduceCtorEq,
      or_false, false_or] at hmem
    omega
  have horderly : Orderly calls :=
    ⟨by decide, by decide, fun key member now windowStart ttl hmem => by
      rw [hkept key member now windowStart ttl hmem]
      decide⟩
  have hretains := retains_run horderly
  obtain ⟨-, hexpires, hmembers⟩ := hretains.live "live" 1200 (by decide) (by decide)
  refine ⟨horderly, by decide, by decide, hretains.abandoned "stale" 1070 (by decide) (by decide),
    by decide, hexpires, ?_, hretains.few 70 fun key member now windowStart ttl hmem => ?_,
    by decide⟩
  · simp only [← hmembers]
    decide
  · exact Nat.le_of_eq (hkept key member now windowStart ttl hmem)

end Store

end Tollgate
