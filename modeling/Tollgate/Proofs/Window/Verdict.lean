import Mathlib.Data.List.Induction
import Tollgate.Proofs.Window.Ledger
import Tollgate.Window.Limiter

/-!
# A check that nothing disturbs

A check whose calls all answer, and between whose calls no other check runs, decides by the ledger
of its key alone (`Store.Shows.verdict_fst`) and leaves in the store the ledger with its own hit, or
the ledger as it was (`Store.Shows.verdict_snd`). `Check.verdict` is what such a check does, without
the waiting and the log of calls; `Check.run_faultless` and `Limiter.check_faultless` identify it
with the running check.
-/

namespace Tollgate

namespace Quota

/-- The length of the window as the checks use it. -/
def span (q : Quota) : Int :=
  Saturating.ofUnsigned q.windowSeconds

end Quota

namespace Check

/-- The decision of a check whose calls answer one after the other, and the store after it. -/
def verdict (c : Check) (s : Store) : Decision × Store :=
  let (count, recorded) := s.recordHit c.key c.member c.now c.windowStart c.ttl
  if c.limit ≤ count then
    let undone := recorded.removeMember c.key c.member
    (c.refusal count (undone.oldestScore c.key), undone)
  else (c.admission count, recorded)

/-- **A check without faults is decided**, by its verdict, whatever its deadline. -/
theorem run_faultless (c : Check) (deadlineMillis : Nat) (s : Store) :
    (c.run {} deadlineMillis s).1 = .ok (c.verdict s).1 ∧
      (c.run {} deadlineMillis s).2.store = (c.verdict s).2 := by
  by_cases hfull : c.limit ≤ (s.recordHit c.key c.member c.now c.windowStart c.ttl).1
  · simp [run, runFrom, CheckRun.step, Faults.ofStage, advance, counted, verdict, hfull]
  · simp [run, runFrom, CheckRun.step, Faults.ofStage, advance, counted, verdict, hfull]

end Check

namespace Limiter

/-- The check a limiter makes of a key for a caller. -/
def checkOf (l : Limiter) (key : String) (quota : Quota) (identifier : Option String)
    (now : Int) : Check where
  key := key
  limit := quota.requests
  window := quota.windowSeconds
  now := now
  member := memberText now (identifier.getD defaultIdentifier) l.nonce l.sequence

/-- **A limiter without faults gives the verdict of its check**, and moves on to the next sequence
number. -/
theorem check_faultless {l : Limiter} {s : Store} (henabled : l.enabled = true)
    (hstore : l.store = some s) (key : String) (quota : Quota) (identifier : Option String)
    (now : Int) :
    (l.check {} key quota identifier now).decision
        = ((l.checkOf key quota identifier now).verdict s).1 ∧
      (l.check {} key quota identifier now).limiter
        = { l with
            sequence := nextSequence l.sequence
            store := some ((l.checkOf key quota identifier now).verdict s).2 } := by
  obtain ⟨hdecided, hleft⟩ :=
    (l.checkOf key quota identifier now).run_faultless l.timeoutMillis s
  rcases hrun : (l.checkOf key quota identifier now).run {} l.timeoutMillis s with ⟨outcome, r⟩
  rw [hrun] at hdecided hleft
  simp only at hdecided hleft
  subst hdecided
  rw [← hleft]
  simp only [checkOf] at hrun ⊢
  simp only [check, henabled, hstore, hrun, and_self]

end Limiter

namespace Store.Shows

variable {s : Store} {c : Check} {since : Int} {hits : List (String × Int)}

/-- Removing the hit of a check right after recording it leaves the ledger inside the window. -/
theorem hits_undone (h : s.Shows c.key c.windowLength since hits) (hle : since ≤ c.now)
    (hmax : c.now < maxSigned64) (hnew : ∀ x ∈ hits, x.1 ≠ c.member) :
    (((s.recordHit c.key c.member c.now c.windowStart c.ttl).2.removeMember c.key
        c.member).hitSet c.key).hits
      = hits.filter fun x => c.now - c.windowLength < x.2 := by
  simp only [hitSet_removeMember_self, h.hits_recordHit hle hmax hnew]
  exact Keyed.erase_append_singleton fun x hx => hnew x (List.mem_filter.mp hx).1

/-- **The decision by the ledger**: the hits inside the window against the limit, and the oldest of
them as the second from which the window frees up. -/
theorem verdict_fst (h : s.Shows c.key c.windowLength since hits) (hle : since ≤ c.now)
    (hmax : c.now < maxSigned64) (hnew : ∀ x ∈ hits, x.1 ≠ c.member) :
    (c.verdict s).1 =
      if c.limit ≤ (hits.filter fun x => c.now - c.windowLength < x.2).length then
        c.refusal (hits.filter fun x => c.now - c.windowLength < x.2).length
          ((hits.filter fun x => c.now - c.windowLength < x.2).map Prod.snd).min?
      else c.admission (hits.filter fun x => c.now - c.windowLength < x.2).length := by
  simp only [Check.verdict, h.count_recordHit hle hmax]
  split
  · rw [oldestScore, HitSet.oldest?, h.hits_undone hle hmax hnew]
  · rfl

/-- **The ledger after a check**: with its hit if it was admitted, else as it was. -/
theorem verdict_snd (h : s.Shows c.key c.windowLength since hits) (hle : since ≤ c.now)
    (hmin : minSigned64 < c.now) (hmax : c.now < maxSigned64)
    (hnew : ∀ x ∈ hits, x.1 ≠ c.member) :
    (c.verdict s).2.Shows c.key c.windowLength c.now
      (if (c.verdict s).1.allowed then hits ++ [(c.member, c.now)] else hits) := by
  have hrecorded := h.recordHit_self hle hmin hmax hnew
  have hundone := hrecorded.removeMember_self c.member
  rw [Keyed.erase_append_singleton hnew] at hundone
  simp only [Check.verdict]
  split
  · simpa [Check.refusal] using hundone
  · simpa [Check.admission] using hrecorded

/-- A check of one key changes no other ledger. -/
theorem verdict_of_ne {key : String} {length : Int} (h : s.Shows key length since hits)
    (hne : key ≠ c.key) (hle : since ≤ c.now) :
    (c.verdict s).2.Shows key length c.now hits := by
  have hrecorded := h.recordHit_of_ne hne hle c.member c.windowStart c.ttl
  simp only [Check.verdict]
  split
  · exact hrecorded.removeMember_of_ne hne c.member
  · exact hrecorded

end Store.Shows

end Tollgate
