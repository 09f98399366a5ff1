import Mathlib.Data.List.Induction
import Tollgate.Broadcast

/-!
# Delivery of notifications

Handles and receivers of a channel come and go in any order, notifications are sent in between, and
every receiver reads at its own pace. What a receiver finds depends on one number only, how many
notifications it is behind (`Broadcast.IsBehind`): a notification adds one for every receiver alive,
and receiving leaves what the channel still keeps. So a receiver is told of every notification that
was sent while it was there, at the latest by being told how many it has lost.

## Main results

* `Broadcast.IsBehind.receive`: what a receiver finds, and what is left for it.
* `Broadcast.IsBehind.run`: how far behind a receiver falls that does nothing.
* `Broadcast.no_notification_lost`: the account of every history of a channel.

## Conventions

* A history is a list of steps, the last one at its end, each made with handles and receivers that
  are alive (`Broadcast.History`).
-/

namespace Tollgate

namespace Broadcast

/-- What is done on a channel. -/
inductive Step where
  /-- A handle is copied. -/
  | clone (handle : Nat)
  /-- A handle is given up. -/
  | drop (handle : Nat)
  /-- A receiver is made from a handle. -/
  | subscribe (handle : Nat)
  /-- A receiver is made from another receiver. -/
  | resubscribe (receiver : Nat)
  /-- A receiver is given up. -/
  | unsubscribe (receiver : Nat)
  /-- A notification is sent. -/
  | trigger (handle : Nat)
  /-- A receiver looks for a notification. -/
  | receive (receiver : Nat)
deriving DecidableEq, Repr

namespace Step

/-- The step makes a handle. -/
def makesHandle : Step → Bool
  | clone _ => true
  | _ => false

/-- The step makes a receiver. -/
def makesReceiver : Step → Bool
  | subscribe _ => true
  | resubscribe _ => true
  | _ => false

/-- The step sends a notification. -/
def triggers : Step → Bool
  | trigger _ => true
  | _ => false

/-- The step is taken by the owner of a receiver, which alone receives with it and gives it up. -/
def isOf (r : Nat) (s : Step) : Prop :=
  s = receive r ∨ s = unsubscribe r

/-- The step is made with a handle or a receiver that is alive. -/
def isPossible (b : Broadcast) : Step → Bool
  | clone h | drop h | subscribe h | trigger h => b.handles[h]? == some true
  | resubscribe r | unsubscribe r | receive r => (b.receivers.map Option.isSome)[r]? == some true

end Step

/-- What a step makes of a channel. -/
def perform (b : Broadcast) : Step → Broadcast
  | .clone _ => b.clone.2
  | .drop h => b.drop h
  | .subscribe _ => b.subscribe.2
  | .resubscribe _ => b.subscribe.2
  | .unsubscribe r => b.unsubscribe r
  | .trigger _ => b.trigger.2
  | .receive r => (b.receive r).2

/-- All steps in turn. -/
def run (b : Broadcast) (steps : List Step) : Broadcast :=
  steps.foldl perform b

/-- The channel after these steps. -/
def after (past : List Step) : Broadcast :=
  new.run past

/-- What can have been done on a channel since it was made. -/
inductive History : List Step → Prop where
  | start : History []
  | step {past : List Step} {s : Step} (h : History past)
      (hs : s.isPossible (after past) = true) : History (past ++ [s])

/-- The steps are possible one after the other. -/
def canPerform (b : Broadcast) : List Step → Bool
  | [] => true
  | s :: later => s.isPossible b && (b.perform s).canPerform later

/-- The receivers that are alive after these steps: of all that were made, those that have not been
given up. -/
def aliveAfter (past : List Step) : List Nat :=
  (List.range (past.countP Step.makesReceiver)).filter fun r => Step.unsubscribe r ∉ past

/-- The handles that are alive after these steps, the first of which the channel was made with. -/
def heldAfter (past : List Step) : List Nat :=
  (List.range (past.countP Step.makesHandle + 1)).filter fun h => Step.drop h ∉ past

/-- What a receiver finds that is so many notifications behind. -/
def found (isOpen : Bool) : Nat → Received
  | 0 => if isOpen then .empty else .closed
  | 1 => .signal
  | n + 2 => .lagged (n + 1)

/-- How many notifications are left for a receiver that has found something: the latest, if it was
told that it lost some. -/
def left : Received → Nat
  | .lagged _ => capacity
  | _ => 0

/-- The step is a receiver's own, being the one that made it or one by which it received, and leaves so
many notifications for it. -/
inductive Leaves (before : List Step) (r : Nat) : Step → Nat → Prop where
  | made {s : Step} (hs : s.makesReceiver = true) (hr : before.countP Step.makesReceiver = r) :
      Leaves before r s 0
  | received : Leaves before r (.receive r) (left ((after before).receive r).1)

variable {b : Broadcast} {r n : Nat} {s : Step} {steps past : List Step}

theorem after_append_cons (before since : List Step) (s : Step) :
    after (before ++ s :: since) = ((after before).perform s).run since := by
  rw [after, run, List.foldl_append]
  rfl

theorem after_append_singleton (past : List Step) (s : Step) :
    after (past ++ [s]) = (after past).perform s :=
  after_append_cons past [] s

/-- A receiver that is alive goes on to the next notification. -/
theorem receive_eq_next {passed : Nat} (h : b.receivers[r]? = some (some passed)) :
    b.receive r
      = ((b.next passed).1, { b with receivers := b.receivers.set r (some (b.next passed).2) }) := by
  simp only [receive, h]

/-! ### How far a receiver is behind -/

/-- The receiver is alive, and so many notifications were kept that it has not passed. -/
def IsBehind (b : Broadcast) (r n : Nat) : Prop :=
  ∃ passed, b.receivers[r]? = some (some passed) ∧ b.sent = passed + n

namespace IsBehind

/-- A receiver that is alive is counted. -/
theorem listeners_ne_zero (h : b.IsBehind r n) : b.listeners ≠ 0 := by
  obtain ⟨passed, hpassed, -⟩ := h
  have hpos : 0 < b.receivers.countP Option.isSome :=
    List.countP_pos_iff.mpr ⟨some passed, List.mem_of_getElem? hpassed, rfl⟩
  exact Nat.ne_of_gt hpos

/-- A notification leaves every receiver one more behind. -/
theorem trigger (h : b.IsBehind r n) : b.trigger.2.IsBehind r (n + 1) := by
  have hheard := h.listeners_ne_zero
  obtain ⟨passed, hpassed, hsent⟩ := h
  rw [Broadcast.trigger, if_neg hheard]
  exact ⟨passed, hpassed, by rw [hsent, Nat.add_assoc]⟩

/-- **What a receiver finds**, and that the channel keeps the latest notification for it. -/
theorem receive (h : b.IsBehind r n) :
    (b.receive r).1 = found b.isOpen n ∧ (b.receive r).2.IsBehind r (min (n - 1) capacity) := by
  obtain ⟨passed, hpassed, hsent⟩ := h
  have hlt : r < b.receivers.length := (List.getElem?_eq_some_iff.mp hpassed).1
  have hset (p : Nat) : (b.receivers.set r (some p))[r]? = some (some p) :=
    List.getElem?_set_self hlt
  rw [receive_eq_next hpassed]
  rcases n with _ | _ | n
  · have hnext : b.next passed = (if b.isOpen then .empty else .closed, passed) := by
      rw [next, if_pos (by omega)]
    rw [hnext]
    exact ⟨rfl, passed, hset passed, hsent⟩
  · have hnext : b.next passed = (.signal, passed + 1) := by
      rw [next, if_neg (by omega), if_neg (by rw [capacity]; omega)]
    rw [hnext]
    exact ⟨rfl, passed + 1, hset (passed + 1), by rw [hsent]; rfl⟩
  · have hnext : b.next passed = (.lagged (n + 1), passed + (n + 1)) := by
      rw [next, if_neg (by omega), if_pos (by rw [capacity]; omega), hsent, capacity]
      congr 2
      omega
    rw [hnext]
    refine ⟨rfl, passed + (n + 1), hset (passed + (n + 1)), ?_⟩
    rw [hsent, capacity, Nat.add_sub_cancel, Nat.min_eq_right (Nat.succ_le_succ (Nat.zero_le n))]
    rfl

/-- A step that is not the receiver's own only matters if it sends a notification. -/
theorem perform (h : b.IsBehind r n) (hs : ¬s.isOf r) :
    (b.perform s).IsBehind r (n + if s.triggers then 1 else 0) := by
  cases s with
  | clone _ => exact h
  | drop _ => exact h
  | subscribe _ | resubscribe _ =>
      obtain ⟨passed, hpassed, hsent⟩ := h
      refine ⟨passed, ?_, hsent⟩
      exact (List.getElem?_append_left (List.getElem?_eq_some_iff.mp hpassed).1).trans hpassed
  | unsubscribe other =>
      obtain ⟨passed, hpassed, hsent⟩ := h
      have hne : other ≠ r := by
        rintro rfl
        exact hs (.inr rfl)
      exact ⟨passed, (List.getElem?_set_ne hne).trans hpassed, hsent⟩
  | trigger _ => exact h.trigger
  | receive other =>
      obtain ⟨passed, hpassed, hsent⟩ := h
      have hne : other ≠ r := by
        rintro rfl
        exact hs (.inl rfl)
      rw [Broadcast.perform, Broadcast.receive]
      split
      · exact ⟨passed, (List.getElem?_set_ne hne).trans hpassed, hsent⟩
      · exact ⟨passed, hpassed, hsent⟩

/-- **A receiver that does nothing falls behind** by the notifications that are sent. -/
theorem run (h : b.IsBehind r n) (hsteps : ∀ s ∈ steps, ¬s.isOf r) :
    (b.run steps).IsBehind r (n + steps.countP Step.triggers) := by
  induction steps generalizing b n with
  | nil => exact h
  | cons s steps ih =>
      have hlater := ih (h.perform (hsteps s List.mem_cons_self)) fun t ht =>
        hsteps t (List.mem_cons_of_mem s ht)
      rw [List.countP_cons, Nat.add_comm (steps.countP Step.triggers), ← Nat.add_assoc]
      exact hlater

end IsBehind

/-- **A receiver that has nothing to find waits** for the next notification, however often it looks. -/
theorem IsBehind.wait (h : b.IsBehind r 0)
    (hsteps : ∀ s ∈ steps, s ≠ .unsubscribe r ∧ s.triggers = false) : (b.run steps).IsBehind r 0 := by
  induction steps generalizing b with
  | nil => exact h
  | cons s steps ih =>
      obtain ⟨hstays, hquiet⟩ := hsteps s List.mem_cons_self
      refine ih ?_ fun t ht => hsteps t (List.mem_cons_of_mem s ht)
      by_cases hreceives : s = .receive r
      · rw [hreceives]
        exact h.receive.2
      · have hnext := h.perform (not_or.mpr ⟨hreceives, hstays⟩)
        rwa [hquiet, if_neg Bool.false_ne_true] at hnext

/-- What is left for a receiver is what the channel keeps of what it was behind. -/
theorem left_found (isOpen : Bool) (n : Nat) : left (found isOpen n) = min (n - 1) capacity := by
  rcases n with _ | _ | n
  · cases isOpen <;> rfl
  · rfl
  · rw [found, left, capacity]
    omega

/-- A new receiver is not behind. -/
theorem isBehind_subscribe (b : Broadcast) : b.subscribe.2.IsBehind b.receivers.length 0 :=
  ⟨b.sent, List.getElem?_concat_length, rfl⟩

/-! ### Who is alive -/

/-- A roll of which of the things made so far have not been given up. -/
structure IsRoll (roll : List Bool) (made : Nat) (gone : Nat → Prop) : Prop where
  length : roll.length = made
  alive : ∀ i, roll[i]? = some true ↔ i < made ∧ ¬gone i
  known : ∀ i, gone i → i < made

namespace IsRoll

variable {roll : List Bool} {made : Nat} {gone gone' : Nat → Prop}

/-- Only what is gone matters. -/
theorem congr (h : IsRoll roll made gone) (hgone : ∀ i, gone' i ↔ gone i) :
    IsRoll roll made gone' := by
  have heq : gone' = gone := funext fun i => propext (hgone i)
  rwa [heq]

/-- One more is made. -/
theorem append (h : IsRoll roll made gone) : IsRoll (roll ++ [true]) (made + 1) gone where
  length := by rw [List.length_append, h.length, List.length_singleton]
  alive i := by
    rw [List.getElem?_append, h.length]
    split
    · next hlt => rw [h.alive i, and_congr_left_iff]; omega
    · next hge =>
        have hknown := h.known i
        constructor
        · intro hlast
          have hlt : i - made < 1 := (List.getElem?_eq_some_iff.mp hlast).1
          exact ⟨by omega, fun hgone => hge (hknown hgone)⟩
        · rintro ⟨hlt, -⟩
          have hzero : i - made = 0 := by omega
          rw [hzero]
          rfl
  known i hgone := Nat.lt_succ_of_lt (h.known i hgone)

/-- One is given up. -/
theorem set (h : IsRoll roll made gone) {i : Nat} (hi : roll[i]? = some true) :
    IsRoll (roll.set i false) made fun j => gone j ∨ j = i where
  length := by rw [List.length_set, h.length]
  alive j := by
    by_cases hj : i = j
    · subst hj
      have hlt : i < roll.length := (List.getElem?_eq_some_iff.mp hi).1
      simp [List.getElem?_set_self hlt]
    · rw [List.getElem?_set_ne hj, h.alive j]
      simp [Ne.symm hj]
  known j hgone := by
    rcases hgone with hgone | rfl
    · exact h.known j hgone
    · exact ((h.alive j).mp hi).1

/-- As many are alive as the roll says. -/
theorem countP_eq [DecidablePred gone] (h : IsRoll roll made gone) :
    roll.countP id = ((List.range made).filter fun i => ¬gone i).length := by
  have hroll : roll = (List.range made).map fun i => decide ¬gone i := by
    refine List.ext_getElem (by rw [List.length_map, List.length_range, h.length]) ?_
    intro i hi _
    have hlt : i < made := h.length ▸ hi
    have halive := h.alive i
    rw [List.getElem?_eq_getElem hi, Option.some.injEq] at halive
    rw [List.getElem_map, List.getElem_range, Bool.eq_iff_iff, halive, decide_eq_true_iff]
    exact and_iff_right hlt
  rw [hroll, List.countP_map, ← List.countP_eq_length_filter]
  rfl

/-- The roll is not empty if and only if something is alive. -/
theorem contains_true_iff [DecidablePred gone] (h : IsRoll roll made gone) :
    roll.contains true = true ↔ ((List.range made).filter fun i => ¬gone i) ≠ [] := by
  rw [← List.length_pos_iff, ← h.countP_eq, List.countP_pos_iff, List.contains_iff_mem]
  simp

end IsRoll

/-- Receiving keeps receivers alive. -/
theorem map_isSome_receive (b : Broadcast) (r : Nat) :
    (b.receive r).2.receivers.map Option.isSome = b.receivers.map Option.isSome := by
  rw [receive]
  split
  · next passed hpassed =>
      obtain ⟨hlt, hget⟩ := List.getElem?_eq_some_iff.mp hpassed
      refine List.ext_getElem (by simp) fun i hi _ => ?_
      by_cases hir : r = i
      · subst hir
        simp [hget]
      · simp [List.getElem_set_ne hir]
  · rfl

/-- A notification makes and gives up no receivers. -/
theorem receivers_trigger (b : Broadcast) : b.trigger.2.receivers = b.receivers := by
  rw [trigger]
  split <;> rfl

/-- Notifications that were kept are not taken back. -/
theorem sent_le_trigger (b : Broadcast) : b.sent ≤ b.trigger.2.sent := by
  rw [trigger]
  split
  · exact Nat.le_refl _
  · exact Nat.le_succ _

/-- Receiving sends nothing. -/
theorem sent_receive (b : Broadcast) (r : Nat) : (b.receive r).2.sent = b.sent := by
  rw [receive]
  split <;> rfl

/-- Receiving makes and gives up no handles. -/
theorem handles_receive (b : Broadcast) (r : Nat) : (b.receive r).2.handles = b.handles := by
  rw [receive]
  split <;> rfl

/-- A receiver passes no more notifications than were kept. -/
theorem next_snd_le {passed : Nat} (h : passed ≤ b.sent) : (b.next passed).2 ≤ b.sent := by
  rw [next]
  split
  · exact h
  · split
    · exact Nat.sub_le _ _
    · omega

/-- After receiving, every receiver but one is where it was. -/
theorem mem_receivers_receive {passed : Nat} (h : some passed ∈ (b.receive r).2.receivers) :
    some passed ∈ b.receivers ∨ ∃ p, some p ∈ b.receivers ∧ passed = (b.next p).2 := by
  rw [receive] at h
  split at h
  · next p hp =>
      rcases List.mem_or_eq_of_mem_set h with hold | hnew
      · exact .inl hold
      · exact .inr ⟨p, List.mem_of_getElem? hp, Option.some.inj hnew⟩
  · exact .inl h

/-- A handle that nobody gives up stays alive. -/
theorem getElem?_handles_perform {handle : Nat} (h : b.handles[handle]? = some true) (hs : s ≠ .drop handle) :
    (b.perform s).handles[handle]? = some true := by
  cases s with
  | clone _ =>
      exact (List.getElem?_append_left (List.getElem?_eq_some_iff.mp h).1).trans h
  | drop given =>
      have hne : given ≠ handle := by
        rintro rfl
        exact hs rfl
      exact (List.getElem?_set_ne hne).trans h
  | trigger _ =>
      rw [perform, trigger]
      split <;> exact h
  | receive _ =>
      rw [perform, handles_receive]
      exact h
  | subscribe _ | resubscribe _ | unsubscribe _ => exact h

/-- A handle that nobody gives up stays alive, whatever else is done. -/
theorem getElem?_handles_run {handle : Nat} (h : b.handles[handle]? = some true)
    (hsteps : ∀ s ∈ steps, s ≠ .drop handle) : (b.run steps).handles[handle]? = some true := by
  induction steps generalizing b with
  | nil => exact h
  | cons s steps ih =>
      exact ih (getElem?_handles_perform h (hsteps s List.mem_cons_self)) fun t ht =>
        hsteps t (List.mem_cons_of_mem s ht)

/-- A channel is open if one of its handles is alive. -/
theorem isOpen_of_getElem? {handle : Nat} (h : b.handles[handle]? = some true) : b.isOpen = true :=
  List.contains_iff_mem.mpr (List.mem_of_getElem? h)

/-- A receiver that has been given up does not come back. -/
theorem getElem?_receivers_perform (h : b.receivers[r]? = some none) (s : Step) :
    (b.perform s).receivers[r]? = some none := by
  have hset (i : Nat) (hi : i ≠ r) (p : Option Nat) : (b.receivers.set i p)[r]? = some none :=
    (List.getElem?_set_ne hi).trans h
  cases s with
  | clone _ | drop _ => exact h
  | subscribe _ | resubscribe _ =>
      exact (List.getElem?_append_left (List.getElem?_eq_some_iff.mp h).1).trans h
  | unsubscribe given =>
      by_cases hne : given = r
      · subst hne
        exact List.getElem?_set_self (List.getElem?_eq_some_iff.mp h).1
      · exact hset given hne none
  | trigger _ =>
      rw [perform, receivers_trigger]
      exact h
  | receive given =>
      rw [perform, receive]
      split
      · next passed hpassed =>
          refine hset given ?_ _
          rintro rfl
          rw [h] at hpassed
          cases hpassed
      · exact h

namespace History

/-- What can have been done after some steps can have been done up to there. -/
theorem of_append {later : List Step} (h : History (past ++ later)) : History past := by
  induction later using List.reverseRecOn with
  | nil => rwa [List.append_nil] at h
  | append_singleton later s ih =>
      rw [← List.append_assoc] at h
      generalize hall : past ++ later ++ [s] = all at h
      cases h with
      | start => simp at hall
      | step hbefore _ =>
          obtain ⟨rfl, -⟩ := List.append_inj' hall rfl
          exact ih hbefore

/-- What is possible then can be done after some steps. -/
theorem append {later : List Step} (h : History past) (hlater : (after past).canPerform later = true) :
    History (past ++ later) := by
  induction later generalizing past with
  | nil => rwa [List.append_nil]
  | cons s later ih =>
      rw [canPerform, Bool.and_eq_true, ← after_append_singleton] at hlater
      rw [List.append_cons]
      exact ih (h.step hlater.1) hlater.2

/-- Every step of a history was possible. -/
theorem of_append_cons {before since : List Step} (h : History (before ++ s :: since)) :
    History before ∧ s.isPossible (after before) = true := by
  rw [List.append_cons] at h
  have hlast := h.of_append
  generalize hall : before ++ [s] = all at hlast
  cases hlast with
  | start => simp at hall
  | step hbefore hs =>
      obtain ⟨rfl, hsame⟩ := List.append_inj' hall rfl
      obtain rfl := List.singleton_inj.mp hsame
      exact ⟨hbefore, hs⟩

/-- **The handles of a channel** are those that were made and not given up. -/
theorem handles (h : History past) :
    IsRoll (after past).handles (past.countP Step.makesHandle + 1) (Step.drop · ∈ past) := by
  induction h with
  | start =>
      exact ⟨rfl, fun i => by rcases i with _ | i <;> simp [after, run, new], fun i hi => by cases hi⟩
  | @step past s _ hs ih =>
      rw [after_append_singleton, List.countP_append]
      cases s with
      | clone _ => exact (ih.append).congr fun i => by simp
      | drop h => exact (ih.set (by simpa [Step.isPossible] using hs)).congr fun i => by simp
      | trigger _ =>
          rw [perform, trigger]
          split <;> exact ih.congr fun i => by simp
      | receive _ =>
          rw [perform, handles_receive]
          exact ih.congr fun i => by simp
      | subscribe _ | resubscribe _ | unsubscribe _ => exact ih.congr fun i => by simp

/-- **The receivers of a channel** are those that were made and not given up. -/
theorem receivers (h : History past) :
    IsRoll ((after past).receivers.map Option.isSome) (past.countP Step.makesReceiver)
      (Step.unsubscribe · ∈ past) := by
  induction h with
  | start => exact ⟨rfl, fun i => by simp [after, run, new], fun i hi => by cases hi⟩
  | @step past s _ hs ih =>
      rw [after_append_singleton, List.countP_append]
      cases s with
      | clone _ | drop _ => exact ih.congr fun i => by simp
      | subscribe _ | resubscribe _ =>
          rw [perform, subscribe, List.map_append]
          exact (ih.append).congr fun i => by simp
      | unsubscribe r =>
          rw [perform, unsubscribe, List.map_set]
          exact (ih.set (by simpa [Step.isPossible] using hs)).congr fun i => by simp
      | trigger _ =>
          rw [perform, receivers_trigger]
          exact ih.congr fun i => by simp
      | receive r =>
          rw [perform, map_isSome_receive]
          exact ih.congr fun i => by simp

/-- No receiver has passed more notifications than were kept. -/
theorem passed_le (h : History past) {passed : Nat} (hpassed : some passed ∈ (after past).receivers) :
    passed ≤ (after past).sent := by
  induction h generalizing passed with
  | start => cases hpassed
  | @step past s _ _ ih =>
      rw [after_append_singleton] at hpassed ⊢
      cases s with
      | clone _ | drop _ => exact ih hpassed
      | subscribe _ | resubscribe _ =>
          rcases List.mem_append.mp hpassed with hold | hnew
          · exact ih hold
          · obtain rfl : passed = _ := by simpa using hnew
            exact Nat.le_refl _
      | unsubscribe _ =>
          rcases List.mem_or_eq_of_mem_set hpassed with hold | hnew
          · exact ih hold
          · cases hnew
      | trigger _ =>
          rw [perform, receivers_trigger] at hpassed
          exact Nat.le_trans (ih hpassed) (sent_le_trigger _)
      | receive r =>
          rw [perform] at hpassed ⊢
          rw [sent_receive]
          rcases mem_receivers_receive hpassed with hold | ⟨before, hbefore, rfl⟩
          · exact ih hold
          · exact next_snd_le (ih hbefore)

/-- The receivers that are alive are those on the roll. -/
theorem mem_aliveAfter_iff_roll (h : History past) :
    r ∈ aliveAfter past ↔ ((after past).receivers.map Option.isSome)[r]? = some true := by
  rw [h.receivers.alive r, aliveAfter, List.mem_filter, List.mem_range, decide_eq_true_iff]

/-- A receiver that is alive is behind by some number, and only such a one is. -/
theorem mem_aliveAfter_iff (h : History past) :
    r ∈ aliveAfter past ↔ ∃ n, (after past).IsBehind r n := by
  rw [h.mem_aliveAfter_iff_roll, List.getElem?_map, Option.map_eq_some_iff]
  constructor
  · rintro ⟨_ | passed, hpassed, hsome⟩
    · cases hsome
    · obtain ⟨n, hn⟩ := Nat.exists_eq_add_of_le (h.passed_le (List.mem_of_getElem? hpassed))
      exact ⟨n, passed, hpassed, hn⟩
  · rintro ⟨n, passed, hpassed, -⟩
    exact ⟨some passed, hpassed, rfl⟩

/-- A notification tells every receiver that is alive. -/
theorem trigger_fst (h : History past) : (after past).trigger.1 = (aliveAfter past).length := by
  have hlisteners : (after past).listeners = (aliveAfter past).length := by
    rw [listeners, aliveAfter, ← h.receivers.countP_eq, List.countP_map]
    rfl
  rw [trigger, ← hlisteners]
  split
  · next hnobody => exact hnobody.symm
  · rfl

/-- The channel is open as long as a handle is alive. -/
theorem isOpen_eq (h : History past) : (after past).isOpen = decide (heldAfter past ≠ []) := by
  rw [Bool.eq_iff_iff, isOpen, h.handles.contains_true_iff, decide_eq_true_iff, heldAfter]

end History

/-! ### The account of a history -/

/-- A receiver that was just made, or just received, is behind by what that left for it. -/
theorem Leaves.isBehind {before : List Step} {left : Nat} (hleaves : Leaves before r s left)
    (hbefore : History before) (hs : s.isPossible (after before) = true) :
    ((after before).perform s).IsBehind r left := by
  cases hleaves with
  | made hmakes hr =>
      rw [← hr, ← hbefore.receivers.length, List.length_map]
      cases s with
      | subscribe _ | resubscribe _ => exact isBehind_subscribe _
      | clone _ | drop _ | unsubscribe _ | trigger _ | receive _ => cases hmakes
  | received =>
      obtain ⟨n, hn⟩ := hbefore.mem_aliveAfter_iff.mp
        (hbefore.mem_aliveAfter_iff_roll.mpr (beq_iff_eq.mp hs))
      obtain ⟨hfound, hrest⟩ := hn.receive
      rw [hfound, left_found]
      exact hrest

/-- A receiver that is alive has not been given up. -/
theorem ne_unsubscribe_of_mem_aliveAfter {before since : List Step}
    (hr : r ∈ aliveAfter (before ++ s :: since)) {t : Step} (ht : t ∈ since) : t ≠ .unsubscribe r := by
  rintro rfl
  rw [aliveAfter, List.mem_filter, decide_eq_true_iff] at hr
  exact hr.2 (List.mem_append_right _ (List.mem_cons_of_mem _ ht))

/-- A receiver that is alive and has not received has done nothing. -/
theorem not_isOf_of_mem_aliveAfter {before since : List Step}
    (hr : r ∈ aliveAfter (before ++ s :: since)) (hquiet : .receive r ∉ since) {t : Step}
    (ht : t ∈ since) : ¬t.isOf r := by
  rintro (rfl | hgone)
  · exact hquiet ht
  · exact ne_unsubscribe_of_mem_aliveAfter hr ht hgone

/-- **No notification is lost** after these steps. -/
structure Reliable (past : List Step) : Prop where
  /-- A notification tells as many receivers as are alive. -/
  told : (after past).trigger.1 = (aliveAfter past).length
  /-- Whoever was there when a notification was sent, and has not received since, need not wait: it
  finds a notification, or is told first how many it has lost and finds one then. -/
  delivers : ∀ before handle since r, past = before ++ .trigger handle :: since →
    r ∈ aliveAfter before → r ∈ aliveAfter past → .receive r ∉ since →
      ((after past).receive r).1 = .signal ∨
        ∃ lost, 0 < lost ∧ ((after past).receive r).1 = .lagged lost ∧
          (((after past).receive r).2.receive r).1 = .signal
  /-- Whoever was left with nothing waits until the next notification, as long as there is a handle to
  send one. -/
  waits : ∀ before s since r, past = before ++ s :: since → Leaves before r s 0 →
    r ∈ aliveAfter past → (∀ t ∈ since, t.triggers = false) →
      ((after past).receive r).1 = if heldAfter past = [] then .closed else .empty
  /-- What is found is what was left and what was sent since. -/
  counts : ∀ before s since r left, past = before ++ s :: since → Leaves before r s left →
    r ∈ aliveAfter past → .receive r ∉ since →
      ((after past).receive r).1
        = found (heldAfter past ≠ []) (left + since.countP Step.triggers)

/-- **No notification is lost**, whatever is done on a channel. -/
theorem no_notification_lost (h : History past) : Reliable past where
  told := h.trigger_fst
  delivers := by
    rintro before handle since r rfl hthen hnow hquiet
    obtain ⟨hbefore, -⟩ := h.of_append_cons
    obtain ⟨n, hn⟩ := hbefore.mem_aliveAfter_iff.mp hthen
    have hlate : (after (before ++ .trigger handle :: since)).IsBehind r
        (n + 1 + since.countP Step.triggers) := by
      rw [after_append_cons]
      exact hn.trigger.run fun t => not_isOf_of_mem_aliveAfter hnow hquiet
    obtain ⟨hfound, hrest⟩ := hlate.receive
    rcases hcount : n + since.countP Step.triggers with _ | lost
    · left
      rw [hfound, Nat.add_right_comm, hcount]
      rfl
    · right
      rw [Nat.add_right_comm, hcount] at hfound hrest
      refine ⟨lost + 1, Nat.succ_pos lost, hfound, ?_⟩
      have hlatest : min (lost + 1 + 1 - 1) capacity = 1 := by
        rw [capacity]
        omega
      rw [hrest.receive.1, hlatest]
      rfl
  waits := by
    rintro before s since r rfl hleaves hnow hquiet
    obtain ⟨hbefore, hs⟩ := h.of_append_cons
    have hwaiting : (after (before ++ s :: since)).IsBehind r 0 := by
      rw [after_append_cons]
      exact (hleaves.isBehind hbefore hs).wait fun t ht =>
        ⟨ne_unsubscribe_of_mem_aliveAfter hnow ht, hquiet t ht⟩
    rw [hwaiting.receive.1, h.isOpen_eq, found]
    simp only [decide_eq_true_eq, ne_eq, ite_not]
  counts := by
    rintro before s since r left rfl hleaves hnow hquiet
    obtain ⟨hbefore, hs⟩ := h.of_append_cons
    have hbehind := (hleaves.isBehind hbefore hs).run fun t =>
      not_isOf_of_mem_aliveAfter hnow hquiet
    rw [after_append_cons, hbehind.receive.1, ← after_append_cons, h.isOpen_eq]

/-- Two notifications through two handles, the first of which is given up in between, and two
receivers, the second of which hears both and is given up: the first one has lost a notification, finds
the latest, and then nothing. -/
theorem no_notification_lost_one_overwritten :
    let past : List Step :=
      [.subscribe 0, .clone 0, .subscribe 1, .trigger 0, .receive 1, .drop 0, .trigger 1, .receive 1,
        .unsubscribe 1]
    History past ∧ aliveAfter past = [0] ∧ (after past).trigger.1 = 1 ∧
      ((after past).receive 0).1 = .lagged 1 ∧ Reliable past ∧
      Reliable (past ++ [.receive 0, .receive 0]) ∧
      ((after (past ++ [.receive 0, .receive 0])).receive 0).1 = .empty := by
  intro past
  have h : History past := History.start.append (by decide)
  have hlater : History (past ++ [.receive 0, .receive 0]) := h.append (by decide)
  have hreliable := no_notification_lost h
  have hreliable' := no_notification_lost hlater
  have hpending := hreliable'.waits (past ++ [.receive 0]) (.receive 0) [] 0 (List.append_cons _ _ _)
    .received (by decide) (by simp)
  exact ⟨h, by decide, hreliable.told, by decide, hreliable, hreliable', hpending⟩

end Broadcast

end Tollgate
