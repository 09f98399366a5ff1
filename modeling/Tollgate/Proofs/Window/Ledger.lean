import Mathlib.Data.Int.Order.Basic
import Mathlib.Data.List.Basic
import Tollgate.Proofs.Keyed
import Tollgate.Window.Check

/-!
# The ledger of a window

A store drops hits in four ways: a hit leaves its window when the key is next recorded, a whole key
expires, a sweep run by any other key removes expired keys, and a check removes the hit it made.
Only the last of these can be seen. `Store.Shows` says so: from a given second on, the hits counted
for a key are exactly those of its ledger that are inside the window of the moment, whatever was
dropped in the meantime.

## Convention

A ledger is a list of members with their scores, oldest first. `length` is the window in seconds as
the checks use it, that is at most the largest signed word (`Check.windowLength`); the window of
`now` is the interval `(now - length, now]` of the integers, without any saturation.

## Main results

* `Store.Shows.count_recordHit`: recording a hit counts the ledger inside the window.
* `Store.Shows.recordHit_self`: the hit recorded for a check is appended to the ledger of its key,
  given that its member is new. The deadline of the key is never earlier than the end of the window
  of its newest hit, also where the sums behind it saturate.
* `Store.Shows.recordHit_of_ne`: a hit recorded for another key, with the sweep it runs, changes no
  ledger.
* `Store.Shows.removeMember_self`, `Store.Shows.removeMember_of_ne`: removing a member removes it
  from the ledger of its key.
-/

namespace Tollgate

/-! ### Windows and deadlines as integers -/

namespace Check

/-- A window is a length of time. -/
theorem windowLength_nonneg (c : Check) : 0 ≤ c.windowLength := by
  simp only [windowLength, Saturating.ofUnsigned, maxSigned64]
  omega

/-- A key is kept for its window at least, also where the buffer behind it does not fit into a
word. -/
theorem windowLength_le_ttl (c : Check) : c.windowLength ≤ Saturating.ofUnsigned c.ttl := by
  simp only [windowLength, ttl, Saturating.ofUnsigned, Saturating.addUpTo, maxSigned64,
    maxUnsigned64, expiryBuffer]
  omega

/-- A key whose deadline has been reached has outlived the window of its newest hit. -/
theorem windowLength_le_of_deadline {c : Check} {now : Int} (hnow : now < maxSigned64)
    (hdeadline : Saturating.add64 c.now (Saturating.ofUnsigned c.ttl) ≤ now) :
    c.now + c.windowLength ≤ now := by
  have httl := c.windowLength_le_ttl
  have hnonneg := c.windowLength_nonneg
  simp only [Saturating.add64, Saturating.clamp64, minSigned64, maxSigned64] at *
  omega

end Check

/-- A hit is after the start of a window exactly when it is inside the interval the start stands
for. -/
theorem windowStart_lt_iff {now length score : Int} (hlow : minSigned64 < score)
    (hhigh : score < maxSigned64) :
    Saturating.sub64 now length < score ↔ now - length < score := by
  simp only [Saturating.sub64, Saturating.clamp64, minSigned64, maxSigned64] at *
  omega

/-! ### What the calls of a store do to the set of one key -/

namespace Store

/-- A set without hits counts nothing. -/
theorem live_nil (deadline : Option Int) (now windowStart : Int) :
    HitSet.live ⟨[], deadline⟩ now windowStart = [] := by
  simp [HitSet.live]

/-- Removing a member removes it from what counts. -/
theorem live_erase (set : HitSet) (member : String) (now windowStart : Int) :
    HitSet.live { set with hits := Keyed.erase member set.hits } now windowStart
      = Keyed.erase member (set.live now windowStart) := by
  have hexpired : HitSet.isExpired { set with hits := Keyed.erase member set.hits } now
      = set.isExpired now := rfl
  rw [HitSet.live, HitSet.live, hexpired]
  cases set.isExpired now with
  | true => rfl
  | false => exact List.filter_comm _ _ _

/-- A sweep keeps keys distinct. -/
theorem nodup_keys_sweep {s : Store} (h : (Keyed.keys s.sets).Nodup) (now : Int) :
    (Keyed.keys (s.sweep now).sets).Nodup := by
  rw [sweep]
  split
  · exact h
  · exact Keyed.nodup_keys_filter h

/-- **A sweep is not seen.** What it drops has expired, and would count nothing at any later
second. -/
theorem live_sweep {s : Store} (h : (Keyed.keys s.sets).Nodup) (key : String)
    {swept now : Int} (hle : swept ≤ now) (windowStart : Int) :
    ((s.sweep swept).hitSet key).live now windowStart = (s.hitSet key).live now windowStart := by
  rw [sweep]
  split
  · rfl
  · simp only [hitSet, Keyed.get?_filter h]
    cases hset : Keyed.get? key s.sets with
    | none => rfl
    | some set =>
        cases hexpired : set.isExpired swept with
        | false => simp [Option.filter_some, hexpired]
        | true =>
            have hstill : set.isExpired now = true := by
              simp only [HitSet.isExpired] at hexpired ⊢
              cases hd : set.expiresAt with
              | none => rw [hd] at hexpired; exact absurd hexpired (by simp)
              | some deadline =>
                  rw [hd] at hexpired
                  simp only [decide_eq_true_eq] at hexpired ⊢
                  omega
            simp [Option.filter_some, hexpired, HitSet.live, hstill]

/-- The count a recorded hit gets: the live hits of its key. -/
theorem recordHit_fst {s : Store} (h : (Keyed.keys s.sets).Nodup) (key member : String)
    (now windowStart : Int) (ttl : Nat) :
    (s.recordHit key member now windowStart ttl).1
      = ((s.hitSet key).live now windowStart).length := by
  simp only [recordHit, live_sweep h key le_rfl]

/-- The set of a key after a hit: its live hits and the new one, with a new deadline. -/
theorem hitSet_recordHit_self {s : Store} (h : (Keyed.keys s.sets).Nodup) (key member : String)
    (now windowStart : Int) (ttl : Nat) :
    (s.recordHit key member now windowStart ttl).2.hitSet key
      = { hits := Keyed.put member now ((s.hitSet key).live now windowStart)
          expiresAt := some (Saturating.add64 now (Saturating.ofUnsigned ttl)) } := by
  simp only [recordHit, hitSet, Keyed.get?_put_self, Option.getD_some]
  rw [← hitSet, ← hitSet, live_sweep h key le_rfl]

/-- A hit recorded for one key leaves the other sets as the sweep left them. -/
theorem hitSet_recordHit_of_ne {s : Store} {key other : String} (hne : other ≠ key)
    (member : String) (now windowStart : Int) (ttl : Nat) :
    (s.recordHit key member now windowStart ttl).2.hitSet other = (s.sweep now).hitSet other := by
  simp only [recordHit, hitSet, Keyed.get?_put_of_ne hne]

/-- Recording a hit keeps keys distinct. -/
theorem nodup_keys_recordHit {s : Store} (h : (Keyed.keys s.sets).Nodup) (key member : String)
    (now windowStart : Int) (ttl : Nat) :
    (Keyed.keys (s.recordHit key member now windowStart ttl).2.sets).Nodup :=
  Keyed.nodup_keys_put (nodup_keys_sweep h now)

/-- Removing a member removes it from the set of its key. -/
theorem hitSet_removeMember_self (s : Store) (key member : String) :
    ((s.removeMember key member).hitSet key)
      = { s.hitSet key with hits := Keyed.erase member (s.hitSet key).hits } := by
  simp only [removeMember, hitSet, Keyed.get?_modify_self]
  cases Keyed.get? key s.sets <;> rfl

/-- Removing a member leaves the sets of other keys as they were. -/
theorem hitSet_removeMember_of_ne (s : Store) {key other : String} (hne : other ≠ key)
    (member : String) : (s.removeMember key member).hitSet other = s.hitSet other := by
  simp only [removeMember, hitSet, Keyed.get?_modify_of_ne hne]

/-- Removing a member keeps keys distinct. -/
theorem nodup_keys_removeMember {s : Store} (h : (Keyed.keys s.sets).Nodup)
    (key member : String) : (Keyed.keys (s.removeMember key member).sets).Nodup := by
  rw [removeMember, Keyed.keys_modify]
  exact h

/-! ### The ledger -/

/-- **The ledger of a key**: from the second `since` on, the hits of `key` that count in a window of
the given length are those of `hits` inside it. -/
structure Shows (s : Store) (key : String) (length since : Int) (hits : List (String × Int)) :
    Prop where
  /-- The store holds every key once. -/
  distinct : (Keyed.keys s.sets).Nodup
  /-- The ledger ends at `since`, and holds no hit of the very first second. -/
  scored : ∀ h ∈ hits, minSigned64 < h.2 ∧ h.2 ≤ since
  /-- What counts is what the ledger has inside the window. -/
  live_eq : ∀ now, since ≤ now → now < maxSigned64 →
    (s.hitSet key).live now (Saturating.sub64 now length)
      = hits.filter fun h => now - length < h.2

namespace Shows

variable {s : Store} {key : String} {length since : Int} {hits : List (String × Int)}

/-- The ledgers of a store without keys are empty. -/
theorem empty (key : String) (length since : Int) : Store.empty.Shows key length since [] where
  distinct := List.nodup_nil
  scored := by simp
  live_eq := fun now _ _ => live_nil none now _

/-- A ledger stays valid while time passes. -/
theorem mono (h : s.Shows key length since hits) {later : Int} (hle : since ≤ later) :
    s.Shows key length later hits where
  distinct := h.distinct
  scored := fun x hx => ⟨(h.scored x hx).1, le_trans (h.scored x hx).2 hle⟩
  live_eq := fun now hnow hmax => h.live_eq now (le_trans hle hnow) hmax

variable {c : Check}

/-- **What a hit is counted against**: the ledger inside the window of its check. -/
theorem count_recordHit (h : s.Shows c.key c.windowLength since hits) (hle : since ≤ c.now)
    (hmax : c.now < maxSigned64) :
    (s.recordHit c.key c.member c.now c.windowStart c.ttl).1
      = (hits.filter fun x => c.now - c.windowLength < x.2).length := by
  rw [recordHit_fst h.distinct, Check.windowStart, h.live_eq c.now hle hmax]

/-- The set of the key right after a hit whose member is new: the ledger inside the window of its
check, and the hit. -/
theorem hits_recordHit (h : s.Shows c.key c.windowLength since hits) (hle : since ≤ c.now)
    (hmax : c.now < maxSigned64) (hnew : ∀ x ∈ hits, x.1 ≠ c.member) :
    ((s.recordHit c.key c.member c.now c.windowStart c.ttl).2.hitSet c.key).hits
      = (hits.filter fun x => c.now - c.windowLength < x.2) ++ [(c.member, c.now)] := by
  rw [hitSet_recordHit_self h.distinct, Check.windowStart, h.live_eq c.now hle hmax]
  exact Keyed.put_of_not_mem fun x hx => hnew x (List.mem_filter.mp hx).1

/-- **A recorded hit is appended to the ledger of its key.** -/
theorem recordHit_self (h : s.Shows c.key c.windowLength since hits) (hle : since ≤ c.now)
    (hmin : minSigned64 < c.now) (hmax : c.now < maxSigned64)
    (hnew : ∀ x ∈ hits, x.1 ≠ c.member) :
    (s.recordHit c.key c.member c.now c.windowStart c.ttl).2.Shows c.key c.windowLength c.now
      (hits ++ [(c.member, c.now)]) where
  distinct := nodup_keys_recordHit h.distinct _ _ _ _ _
  scored := by
    intro x hx
    rcases List.mem_append.mp hx with hx | hx
    · exact ⟨(h.scored x hx).1, le_trans (h.scored x hx).2 hle⟩
    · rw [List.mem_singleton.mp hx]
      exact ⟨hmin, le_rfl⟩
  live_eq := by
    intro now hnow hnowMax
    have hscores : ∀ x ∈ hits ++ [(c.member, c.now)], minSigned64 < x.2 ∧ x.2 ≤ c.now := by
      intro x hx
      rcases List.mem_append.mp hx with hx | hx
      · exact ⟨(h.scored x hx).1, le_trans (h.scored x hx).2 hle⟩
      · rw [List.mem_singleton.mp hx]
        exact ⟨hmin, le_rfl⟩
    have hstart : ∀ x ∈ hits ++ [(c.member, c.now)],
        (decide (Saturating.sub64 now c.windowLength < x.2))
          = decide (now - c.windowLength < x.2) := by
      intro x hx
      have hx' := hscores x hx
      exact decide_eq_decide.mpr (windowStart_lt_iff hx'.1 (by omega))
    -- Between `c.now` and `now` hits leave the window, none comes back.
    have hnarrow : ((hits.filter fun x => c.now - c.windowLength < x.2)
          ++ [(c.member, c.now)]).filter (fun x => now - c.windowLength < x.2)
        = (hits ++ [(c.member, c.now)]).filter fun x => now - c.windowLength < x.2 := by
      rw [List.filter_append, List.filter_append, List.filter_filter]
      congr 1
      apply List.filter_congr
      intro x _
      simp only [← Bool.decide_and, decide_eq_decide]
      omega
    rw [HitSet.live, hits_recordHit h hle hmax hnew, hitSet_recordHit_self h.distinct]
    by_cases hdeadline : Saturating.add64 c.now (Saturating.ofUnsigned c.ttl) ≤ now
    · have hout := Check.windowLength_le_of_deadline hnowMax hdeadline
      have hnone : (hits ++ [(c.member, c.now)]).filter (fun x => now - c.windowLength < x.2)
          = [] := by
        rw [List.filter_eq_nil_iff]
        intro x hx
        have := (hscores x hx).2
        simp only [decide_eq_true_eq]
        omega
      simp [HitSet.isExpired, hdeadline, hnone]
    · simp only [HitSet.isExpired, hdeadline, decide_false, Bool.false_eq_true, if_false]
      rw [← hnarrow]
      apply List.filter_congr
      intro x hx
      refine hstart x ?_
      rcases List.mem_append.mp hx with hx | hx
      · exact List.mem_append_left _ (List.mem_filter.mp hx).1
      · exact List.mem_append_right _ hx

/-- **A hit recorded for another key, and the sweep it runs, change no ledger.** -/
theorem recordHit_of_ne (h : s.Shows key length since hits) {other : String}
    (hne : key ≠ other) {now : Int} (hle : since ≤ now) (member : String) (windowStart : Int)
    (ttl : Nat) :
    (s.recordHit other member now windowStart ttl).2.Shows key length now hits where
  distinct := nodup_keys_recordHit h.distinct _ _ _ _ _
  scored := (h.mono hle).scored
  live_eq := by
    intro later hlater hmax
    rw [hitSet_recordHit_of_ne hne, live_sweep h.distinct key hlater]
    exact h.live_eq later (le_trans hle hlater) hmax

/-- **A removed member leaves the ledger of its key.** -/
theorem removeMember_self (h : s.Shows key length since hits) (member : String) :
    (s.removeMember key member).Shows key length since (Keyed.erase member hits) where
  distinct := nodup_keys_removeMember h.distinct _ _
  scored := fun x hx => h.scored x (List.mem_filter.mp hx).1
  live_eq := by
    intro now hnow hmax
    rw [hitSet_removeMember_self, live_erase, h.live_eq now hnow hmax]
    exact List.filter_comm _ _ _

/-- A member removed from one key changes no other ledger. -/
theorem removeMember_of_ne (h : s.Shows key length since hits) {other : String}
    (hne : key ≠ other) (member : String) :
    (s.removeMember other member).Shows key length since hits where
  distinct := nodup_keys_removeMember h.distinct _ _
  scored := h.scored
  live_eq := by
    intro now hnow hmax
    rw [hitSet_removeMember_of_ne s hne]
    exact h.live_eq now hnow hmax

end Shows

end Store

end Tollgate
