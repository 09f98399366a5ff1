import Mathlib.Logic.Function.Iterate
import Tollgate.Proofs.Window.Interleaving
import Tollgate.Proofs.Window.Retention
import Tollgate.Proofs.Window.SlidingWindow

/-!
# Every hit belongs to one check

The members of hits with different nonces or different sequence numbers are different texts, so no
two checks share a member as long as no limiter begins more than `2 ^ 64` of them. A store that
several limiters use therefore tells their hits apart at every moment: recording a hit adds an entry
and overwrites none, and removing it again takes away this entry and no other one
(`Traffic.members_never_collide`).

None of this depends on the clock. Checks may begin at any second, in any order and with any window,
and their calls may interleave or come to nothing in any way. The invariant of such runs is that
every entry has an owner (`Traffic.Owned`): a check that has recorded it under that key.

## Conventions

* `Traffic.Reachable` are the moments of all runs. Every move may come with quotas of its own, so
  that one key can be checked with different limits and windows.
* Limiters that share a store have distinct nonces, so a limiter is named by its nonce here.
* The checks of one limiter are counted from its first one, also those that have ended long ago.

## Main results

* `Traffic.Issued.nodup_members`: no two checks share a member.
* `Traffic.Reachable.owned`: every entry has an owner.
* `Traffic.members_never_collide`: texts, checks, and what recording and removing do to the entries.
-/

namespace Tollgate

/-! ### What the calls of a store add -/

namespace Store

variable {s : Store} {key : String} {hit : String × Int}

/-- What counts of a set is in the set. -/
theorem mem_of_mem_live {set : HitSet} {now windowStart : Int}
    (h : hit ∈ set.live now windowStart) : hit ∈ set.hits := by
  have hleft := List.mem_of_mem_filter h
  split at hleft
  · exact absurd hleft List.not_mem_nil
  · exact hleft

/-- A sweep adds no entry. -/
theorem mem_of_mem_sweep (h : (Keyed.keys s.sets).Nodup) {now : Int}
    (hhit : hit ∈ ((s.sweep now).hitSet key).hits) : hit ∈ (s.hitSet key).hits := by
  rw [hitSet, get?_sweep h] at hhit
  split at hhit
  · exact hhit
  · rw [hitSet]
    rcases hset : Keyed.get? key s.sets with _ | set
    · rw [hset] at hhit
      exact hhit
    · rw [hset, Option.filter_some] at hhit
      split at hhit
      · exact hhit
      · exact absurd hhit List.not_mem_nil

/-- **A recorded hit is the only entry that a store gains** with it, under its key. -/
theorem mem_of_mem_recordHit (h : (Keyed.keys s.sets).Nodup) {other member : String}
    {now windowStart : Int} {ttl : Nat}
    (hhit : hit ∈ ((s.recordHit key member now windowStart ttl).2.hitSet other).hits) :
    hit ∈ (s.hitSet other).hits ∨ other = key ∧ hit = (member, now) := by
  by_cases hkey : other = key
  · subst hkey
    rw [hitSet_recordHit_self h] at hhit
    rcases Keyed.mem_of_mem_put hhit with hnew | hlive
    · exact .inr ⟨rfl, hnew⟩
    · exact .inl (mem_of_mem_live hlive)
  · rw [hitSet_recordHit_of_ne hkey] at hhit
    exact .inl (mem_of_mem_sweep h hhit)

/-- The entries that a removal leaves. -/
theorem hits_removeMember (s : Store) (key member other : String) :
    ((s.removeMember key member).hitSet other).hits
      = if other = key then Keyed.erase member (s.hitSet other).hits
        else (s.hitSet other).hits := by
  by_cases hkey : other = key
  · rw [if_pos hkey, hkey, hitSet_removeMember_self]
  · rw [if_neg hkey, hitSet_removeMember_of_ne s hkey]

end Store

namespace Flight

/-- The hit of the check was recorded, whether or not it is still there. -/
def recorded (f : Flight) : Bool :=
  match f.course with
  | .going (.waiting .counting) => false
  | .lost .counting => false
  | _ => true

end Flight

/-! ### Tickets -/

namespace Limiter

/-- The sequence number of a limiter that has made `n` checks. -/
theorem iterate_nextSequence (n : Nat) : nextSequence^[n] 0 = n % (maxUnsigned64 + 1) := by
  induction n with
  | zero => rfl
  | succ n ih => rw [Function.iterate_succ_apply', ih, nextSequence_mod]

end Limiter

namespace Ticket

/-- **The check is one that the limiter makes** when its sequence number has moved on once for each
of its checks before. -/
def Made (t : Ticket) : Prop :=
  ∃ l : Limiter, l.nonce = t.replica ∧ l.sequence = Limiter.nextSequence^[t.ordinal] 0 ∧
    ∃ quota identifier, t.check = l.checkOf t.check.key quota identifier t.check.now

/-- The member of such a check is made of its second, its caller, its nonce and its number. -/
theorem Made.member_eq {t : Ticket} (h : t.Made) : ∃ caller, t.check.member
    = memberText t.check.now caller t.replica (t.ordinal % (maxUnsigned64 + 1)) := by
  obtain ⟨l, hnonce, hsequence, quota, identifier, hcheck⟩ := h
  refine ⟨identifier.getD Limiter.defaultIdentifier, ?_⟩
  rw [← Limiter.iterate_nextSequence, ← hsequence, ← hnonce, congrArg Check.member hcheck]
  rfl

end Ticket

namespace Traffic

/-- **The moments of all runs**, with quotas that may change from move to move. -/
inductive Reachable : Traffic → Prop
  | start : Reachable {}
  | step {s : Traffic} (h : Reachable s) (quota : String → Quota) (m : Move) :
      Reachable (s.step quota m)

/-- A run in which every key has one quota is one of them. -/
theorem reachable_run (quota : String → Quota) (moves : List Move) :
    (run quota moves).Reachable := by
  induction moves using List.reverseRecOn with
  | nil => exact .start
  | append_singleton moves m ih =>
      rw [run_append_singleton]
      exact ih.step quota m

/-- A check that is begun is one that its limiter makes. -/
theorem made_launch (quota : String → Quota) (s : Traffic) (replica : Nonce) (key : String)
    (identifier : Option String) (now : Int) :
    (s.launch quota replica key identifier now).Made := by
  refine ⟨{ Limiter.disabled with
    nonce := replica
    sequence := Limiter.nextSequence^[s.flights.countP fun f => f.replica = replica] 0 }, rfl, rfl,
    quota key, identifier, ?_⟩
  rw [Limiter.checkOf, Limiter.iterate_nextSequence]
  rfl

/-- **Tickets as limiters issue them**: the check of each is one that its limiter makes, and its
number is how many its limiter has issued before. -/
inductive Issued : List Ticket → Prop
  | nil : Issued []
  | append {tickets : List Ticket} (h : Issued tickets) {t : Ticket} (hmade : t.Made)
      (hordinal : t.ordinal = tickets.countP fun u => u.replica = t.replica) :
      Issued (tickets ++ [t])

namespace Issued

variable {tickets : List Ticket}

/-- The check of every ticket is one that its limiter makes. -/
theorem made (h : Issued tickets) : ∀ t ∈ tickets, t.Made := by
  induction h with
  | nil => exact fun t ht => absurd ht List.not_mem_nil
  | append h hmade hordinal ih =>
      intro u hu
      rcases List.mem_append.mp hu with hu | hu
      · exact ih u hu
      · rw [List.mem_singleton.mp hu]
        exact hmade

/-- The numbers of a limiter are below the number of its tickets. -/
theorem ordinal_lt (h : Issued tickets) :
    ∀ t ∈ tickets, t.ordinal < tickets.countP fun u => u.replica = t.replica := by
  induction h with
  | nil => exact fun t ht => absurd ht List.not_mem_nil
  | append h hmade hordinal ih =>
      intro u hu
      rw [List.countP_append]
      rcases List.mem_append.mp hu with hu | hu
      · exact Nat.lt_add_right _ (ih u hu)
      · obtain rfl := List.mem_singleton.mp hu
        rw [← hordinal, List.countP_singleton, if_pos (decide_eq_true rfl)]
        exact Nat.lt_succ_self _

/-- **No two tickets share a member**, if no limiter has issued more of them than there are sequence
numbers. -/
theorem nodup_members (h : Issued tickets)
    (hfew : ∀ replica, (tickets.countP fun t => t.replica = replica) ≤ maxUnsigned64 + 1) :
    (tickets.map fun t => t.check.member).Nodup := by
  induction h with
  | nil => exact List.nodup_nil
  | @append tickets h t hmade hordinal ih =>
      have hbefore : ∀ replica,
          (tickets.countP fun t => t.replica = replica) ≤ maxUnsigned64 + 1 := by
        intro replica
        have hbound := hfew replica
        rw [List.countP_append] at hbound
        exact Nat.le_of_add_right_le hbound
      rw [List.map_append, List.map_singleton, List.nodup_append]
      refine ⟨ih hbefore, List.nodup_singleton _, ?_⟩
      rintro _ hold _ hnew rfl
      obtain ⟨u, hu, hsame⟩ := List.mem_map.mp hold
      obtain ⟨callerU, hmemberU⟩ := (h.made u hu).member_eq
      obtain ⟨callerT, hmemberT⟩ := hmade.member_eq
      rw [List.mem_singleton.mp hnew, hmemberU, hmemberT] at hsame
      obtain ⟨-, -, hnonce, hnumber⟩ := memberText_inj (Nat.le_of_lt_succ u.replica.isLt)
        (Nat.le_of_lt_succ t.replica.isLt) hsame
      -- both numbers are sequence numbers as they are, and that of `u` is the smaller one
      have hreplica : u.replica = t.replica := Fin.ext hnonce
      have hearlier := h.ordinal_lt u hu
      have hbound := hfew t.replica
      rw [hreplica, ← hordinal] at hearlier
      rw [List.countP_append, ← hordinal, List.countP_singleton,
        if_pos (decide_eq_true rfl)] at hbound
      simp only [maxUnsigned64] at *
      omega

end Issued

/-- At every moment the checks have tickets as limiters issue them. -/
theorem Reachable.issued {s : Traffic} (h : s.Reachable) :
    Issued (s.flights.map Flight.toTicket) := by
  induction h with
  | start => exact .nil
  | @step s h quota m ih =>
      rcases s.step_cases quota m with ⟨replica, key, identifier, now, -, hstep⟩
        | ⟨i, f, stage, -, hf, -, hstep⟩ | ⟨i, f, stage, -, hf, -, hstep⟩ | hstep
      · rw [hstep, List.map_append, List.map_singleton]
        refine ih.append (made_launch quota s replica key identifier now) ?_
        rw [List.countP_map]
        rfl
      · rw [hstep, tickets_answer hf]
        exact ih
      · rw [hstep, tickets_set hf]
        exact ih
      · rw [hstep]
        exact ih

/-! ### Owners -/

/-- **Every entry has an owner**: it is the hit of a check that has recorded it under its key. -/
structure Owned (s : Traffic) : Prop where
  /-- The store holds every key once. -/
  distinct : (Keyed.keys s.store.sets).Nodup
  owner : ∀ key, ∀ hit ∈ (s.store.hitSet key).hits,
    ∃ f ∈ s.flights, f.recorded = true ∧ f.check.key = key ∧ f.hit = hit

/-- An owner stays one, whatever becomes of the checks. -/
theorem owner_set {flights : List Flight} {i : Nat} {f : Flight} (hf : flights[i]? = some f)
    {course : Course} (hrecorded : f.recorded = true → Flight.recorded { f with course } = true)
    {key : String} {hit : String × Int}
    (h : ∃ g ∈ flights, g.recorded = true ∧ g.check.key = key ∧ g.hit = hit) :
    ∃ g ∈ flights.set i { f with course }, g.recorded = true ∧ g.check.key = key ∧
      g.hit = hit := by
  obtain ⟨g, hg, howner⟩ := h
  obtain ⟨front, back, rfl, hset⟩ := exists_split_of_getElem? hf
  rw [hset]
  rcases List.mem_append.mp hg with hfront | hg
  · exact ⟨g, List.mem_append_left _ hfront, howner⟩
  · rcases List.mem_cons.mp hg with rfl | hback
    · exact ⟨_, List.mem_append_right _ List.mem_cons_self, hrecorded howner.1, howner.2⟩
    · exact ⟨g, List.mem_append_right _ (List.mem_cons_of_mem _ hback), howner⟩

namespace Owned

variable {s : Traffic} {i : Nat} {f : Flight}

/-- A check whose call is answered has recorded its hit. -/
theorem recorded_answer (f : Flight) (stage : Stage) (store : Store) :
    Flight.recorded { f with course := .going (f.check.advance stage store).1 } = true := by
  cases stage with
  | counting =>
      simp only [Check.advance, Check.counted]
      split <;> rfl
  | undoing count => rfl
  | dating count => rfl

/-- **One answered call**: the entry that it adds is the hit of its check, and it adds no other. -/
theorem answer (h : Owned s) (hf : s.flights[i]? = some f) (stage : Stage) :
    Owned (s.answer i f stage) := by
  have hkept : ∀ key, ∀ hit ∈ (s.store.hitSet key).hits, ∃ g ∈ (s.answer i f stage).flights,
      g.recorded = true ∧ g.check.key = key ∧ g.hit = hit := fun key hit hhit =>
    owner_set hf (fun _ => recorded_answer f stage s.store) (h.owner key hit hhit)
  have hself : { f with course := .going (f.check.advance stage s.store).1 }
      ∈ (s.answer i f stage).flights :=
    List.mem_set (List.getElem?_eq_some_iff.mp hf).1 _
  cases stage with
  | counting =>
      refine ⟨Store.nodup_keys_recordHit h.distinct _ _ _ _ _, fun key hit hhit => ?_⟩
      rcases Store.mem_of_mem_recordHit h.distinct hhit with hold | ⟨rfl, rfl⟩
      · exact hkept key hit hold
      · exact ⟨_, hself, recorded_answer f .counting s.store, rfl, rfl⟩
  | undoing count =>
      refine ⟨Store.nodup_keys_removeMember h.distinct _ _, fun key hit hhit => hkept key hit ?_⟩
      change hit ∈ ((s.store.removeMember f.check.key f.check.member).hitSet key).hits at hhit
      rw [Store.hits_removeMember] at hhit
      split at hhit
      · exact List.mem_of_mem_filter hhit
      · exact hhit
  | dating count => exact ⟨h.distinct, hkept⟩

/-- **One move** keeps owners. -/
theorem step (h : Owned s) (quota : String → Quota) (m : Move) : Owned (s.step quota m) := by
  rcases s.step_cases quota m with ⟨replica, key, identifier, now, -, hstep⟩
    | ⟨i, f, stage, -, hf, -, hstep⟩ | ⟨i, f, stage, -, hf, hc, hstep⟩ | hstep
  · rw [hstep]
    refine ⟨h.distinct, fun other hit hhit => ?_⟩
    obtain ⟨g, hg, howner⟩ := h.owner other hit hhit
    exact ⟨g, List.mem_append_left _ hg, howner⟩
  · rw [hstep]
    exact h.answer hf stage
  · rw [hstep]
    refine ⟨h.distinct, fun key hit hhit => owner_set hf ?_ (h.owner key hit hhit)⟩
    cases stage <;> simp [Flight.recorded, hc]
  · rw [hstep]
    exact h

/-- **An entry with the member of a check is its hit**, if no two checks share a member. -/
theorem eq_hit (h : Owned s) (hdistinct : (s.flights.map fun f => f.check.member).Nodup)
    (hf : s.flights[i]? = some f) {key : String} {hit : String × Int}
    (hhit : hit ∈ (s.store.hitSet key).hits) (hmember : hit.1 = f.check.member) :
    f.recorded = true ∧ key = f.check.key ∧ hit = f.hit := by
  obtain ⟨g, hg, hrecorded, rfl, rfl⟩ := h.owner key hit hhit
  obtain rfl : g = f :=
    List.inj_on_of_nodup_map hdistinct hg (List.mem_of_getElem? hf) hmember
  exact ⟨hrecorded, rfl, rfl⟩

end Owned

/-- At every moment every entry has an owner. -/
theorem Reachable.owned {s : Traffic} (h : s.Reachable) : Owned s := by
  induction h with
  | start => exact ⟨List.nodup_nil, fun key hit hhit => absurd hhit List.not_mem_nil⟩
  | step h quota m ih => exact ih.step quota m

/-! ### Entries -/

/-- **A check adds an entry**: what becomes of the store when it records its hit. -/
structure AddsEntry (f : Flight) (before after : Store) : Prop where
  /-- No key held its member. -/
  new : ∀ key, ∀ hit ∈ (before.hitSet key).hits, hit.1 ≠ f.check.member
  /-- Its hit joins the entries of its key that still count. -/
  joined : (after.hitSet f.check.key).hits
    = (before.hitSet f.check.key).live f.check.now f.check.windowStart ++ [f.hit]
  /-- There is one entry more than the check is told of. -/
  counted : after.size f.check.key
    = (before.recordHit f.check.key f.check.member f.check.now f.check.windowStart
        f.check.ttl).1 + 1

/-- **A check removes its own entry**: what becomes of the store when the `i`-th check removes its
hit. -/
structure RemovesOwn (s : Traffic) (i : Nat) (f : Flight) (after : Store) : Prop where
  /-- Under every key just its hit is missing, if it was there. -/
  left : ∀ key,
    (after.hitSet key).hits = (s.store.hitSet key).hits.filter fun hit => hit ≠ f.hit
  /-- The hits of other checks stay where they are. -/
  others : ∀ j g, s.flights[j]? = some g → j ≠ i → ∀ key,
    g.hit ∈ (s.store.hitSet key).hits → g.hit ∈ (after.hitSet key).hits

section

variable {s : Traffic} {i : Nat} {f : Flight}
  (hdistinct : (s.flights.map fun f => f.check.member).Nodup)
include hdistinct

/-- A member tells the place of its check. -/
theorem eq_of_member_eq {j : Nat} {g : Flight} (hg : s.flights[j]? = some g)
    (hf : s.flights[i]? = some f) (hmember : g.check.member = f.check.member) : j = i := by
  obtain ⟨hj, rfl⟩ := List.getElem?_eq_some_iff.mp hg
  obtain ⟨hi, rfl⟩ := List.getElem?_eq_some_iff.mp hf
  rw [← List.length_map fun f => f.check.member] at hi hj
  refine (List.Nodup.getElem_inj_iff hdistinct).mp (?_ :
    (s.flights.map fun f => f.check.member)[j] = (s.flights.map fun f => f.check.member)[i])
  rwa [List.getElem_map, List.getElem_map]

/-- Recording a hit adds an entry. -/
theorem Owned.addsEntry (h : Owned s) (hf : s.flights[i]? = some f)
    (hc : f.course = .going (.waiting .counting)) :
    AddsEntry f s.store (s.answer i f .counting).store := by
  have hnew : ∀ key, ∀ hit ∈ (s.store.hitSet key).hits, hit.1 ≠ f.check.member := by
    intro key hit hhit hmember
    -- an owner has recorded its hit, but this check is still about to
    have hrecorded := (h.eq_hit hdistinct hf hhit hmember).1
    simp [Flight.recorded, hc] at hrecorded
  have hjoined : ((s.answer i f .counting).store.hitSet f.check.key).hits
      = (s.store.hitSet f.check.key).live f.check.now f.check.windowStart ++ [f.hit] := by
    have hset := Store.hitSet_recordHit_self h.distinct f.check.key f.check.member f.check.now
      f.check.windowStart f.check.ttl
    refine (congrArg HitSet.hits hset).trans (Keyed.put_of_not_mem fun hit hhit => ?_)
    exact hnew _ hit (Store.mem_of_mem_live hhit)
  refine ⟨hnew, hjoined, ?_⟩
  rw [Store.size, hjoined, List.length_append, List.length_singleton,
    Store.recordHit_fst h.distinct]

/-- Removing a hit removes just this entry. -/
theorem Owned.removesOwn (h : Owned s) (hf : s.flights[i]? = some f) (count : Nat) :
    RemovesOwn s i f (s.answer i f (.undoing count)).store := by
  have hleft : ∀ key, ((s.answer i f (.undoing count)).store.hitSet key).hits
      = (s.store.hitSet key).hits.filter fun hit => hit ≠ f.hit := by
    intro key
    change ((s.store.removeMember f.check.key f.check.member).hitSet key).hits = _
    rw [Store.hits_removeMember]
    split
    · refine List.filter_congr fun hit hhit => decide_eq_decide.mpr (not_congr ⟨?_, ?_⟩)
      · exact fun hmember => (h.eq_hit hdistinct hf hhit hmember).2.2
      · exact fun hsame => congrArg Prod.fst hsame
    · next hkey =>
        refine (List.filter_eq_self.mpr fun hit hhit => ?_).symm
        rw [decide_eq_true_iff]
        exact fun hsame => hkey (h.eq_hit hdistinct hf hhit (congrArg Prod.fst hsame)).2.1
  refine ⟨hleft, fun j g hg hne key hhit => ?_⟩
  rw [hleft, List.mem_filter, decide_eq_true_iff]
  exact ⟨hhit, fun hsame => hne (eq_of_member_eq hdistinct hg hf (congrArg Prod.fst hsame))⟩

end

/-- **Members never collide.** Texts with different nonces or different sequence numbers differ,
whatever the seconds and the callers; so no two checks share a member, while no limiter has begun
more than `2 ^ 64` of them; so every recorded hit is a new entry, and every removal takes away the
hit of the check that calls it and no other. -/
theorem members_never_collide {s : Traffic} (h : s.Reachable)
    (hfew : ∀ replica, (s.flights.countP fun f => f.replica = replica) ≤ maxUnsigned64 + 1) :
    (∀ (nonce nonce' : Nonce) (sequence sequence' : Nat),
      (nonce, sequence) ≠ (nonce', sequence') → ∀ now now' identifier identifier',
        memberText now identifier nonce sequence
          ≠ memberText now' identifier' nonce' sequence') ∧
      (∀ f ∈ s.flights, f.toTicket.Made) ∧
      (s.flights.map fun f => f.check.member).Nodup ∧
      ∀ i f quota, s.flights[i]? = some f →
        (f.course = .going (.waiting .counting) →
          AddsEntry f s.store (s.step quota (.call i)).store) ∧
        ∀ count, f.course = .going (.waiting (.undoing count)) →
          RemovesOwn s i f (s.step quota (.call i)).store := by
  have hmade : ∀ f ∈ s.flights, f.toTicket.Made := fun f hf =>
    h.issued.made f.toTicket (List.mem_map_of_mem hf)
  have hdistinct : (s.flights.map fun f => f.check.member).Nodup := by
    have hissued := h.issued.nodup_members (fun replica => ?_)
    · rwa [List.map_map] at hissued
    · rw [List.countP_map]
      exact hfew replica
  refine ⟨?_, hmade, hdistinct, fun i f quota hf => ⟨fun hc => ?_, fun count hc => ?_⟩⟩
  · intro nonce nonce' sequence sequence' hne now now' identifier identifier' hsame
    obtain ⟨-, -, hnonce, hsequence⟩ := memberText_inj (Nat.le_of_lt_succ nonce.isLt)
      (Nat.le_of_lt_succ nonce'.isLt) hsame
    exact hne (Prod.ext (Fin.ext hnonce) hsequence)
  · simp only [step, hf, hc]
    exact h.owned.addsEntry hdistinct hf hc
  · simp only [step, hf, hc]
    exact h.owned.removesOwn hdistinct hf count

/-- One caller is named like the end of the first member, another like the end of a member of the
other limiter, and the three members differ all the same. The second check found its window full,
and removes its own entry; the third, with the second of an earlier time and a quota of its own,
adds an entry. -/
theorem members_never_collide_imitated_suffix :
    let quota : String → Quota := fun _ => ⟨1, 60⟩
    let s := (run quota [.start 0 "k" none 1000, .start 1 "k" (some "req:0000000000000000-0") 1000,
      .call 0, .call 1]).step (fun _ => ⟨5, 10⟩) (.start 0 "k" (some "0000000000000001-0") 990)
    let entries (s : Traffic) := (s.store.hitSet "k").hits.map Prod.fst
    s.Reachable ∧
      (∀ replica, (s.flights.countP fun f => f.replica = replica) ≤ maxUnsigned64 + 1) ∧
      (s.flights.map fun f => f.check.member) = ["1000:req:0000000000000000-0",
        "1000:req:0000000000000000-0:0000000000000001-0",
        "990:0000000000000001-0:0000000000000000-1"] ∧
      (s.flights.map fun f => f.check.member).Nodup ∧
      entries (s.step quota (.call 1)) = ["1000:req:0000000000000000-0"] ∧
      (∃ f, s.flights[1]? = some f ∧ RemovesOwn s 1 f (s.step quota (.call 1)).store) ∧
      (entries (s.step quota (.call 2))).length = 3 ∧
      ∃ f, s.flights[2]? = some f ∧ AddsEntry f s.store (s.step quota (.call 2)).store := by
  intro quota s entries
  have hreachable : s.Reachable := (reachable_run quota _).step _ _
  have hfew : ∀ replica, (s.flights.countP fun f => f.replica = replica) ≤ maxUnsigned64 + 1 :=
    fun replica => Nat.le_trans List.countP_le_length (by decide)
  obtain ⟨-, -, hdistinct, hcalls⟩ := members_never_collide hreachable hfew
  have hsecond : s.flights[1]?.map Flight.course = some (.going (.waiting (.undoing 1))) := by
    decide +kernel
  have hthird : s.flights[2]?.map Flight.course = some (.going (.waiting .counting)) := by
    decide +kernel
  obtain ⟨f, hf, hundoing⟩ := Option.map_eq_some_iff.mp hsecond
  obtain ⟨g, hg, hcounting⟩ := Option.map_eq_some_iff.mp hthird
  exact ⟨hreachable, hfew, by decide +kernel, hdistinct, by decide +kernel,
    ⟨f, hf, (hcalls 1 f quota hf).2 1 hundoing⟩, by decide +kernel,
    ⟨g, hg, (hcalls 2 g quota hg).1 hcounting⟩⟩

end Traffic

end Tollgate
