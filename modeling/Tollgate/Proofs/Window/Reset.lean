import Tollgate.Proofs.Window.SlidingWindow

/-!
# When a refused caller may come back

A refused attempt is told a second at which its window frees up. That is the second in which the
oldest admitted attempt of the window leaves it: no attempt on the key is admitted earlier, whatever
was asked for in the meantime, and the first one that comes later is (`Limiter.reset_tight`).

The number of seconds to wait is counted from any second on, and ends at that one, or in the next
second if that one is over (`Limiter.TightReset.wait`).

## Main results

* `length_admittedSeconds_lt_iff`: a window has lost an attempt from the second on in which its oldest
  one leaves it.
* `Limiter.allowed_iff_of_refused_since`: what an attempt is answered as long as its key has admitted
  nothing since the refusal.
* `Limiter.reset_tight`: what a refused caller may rely on.

## Conventions

* The setting is that of the exact sliding window: a fresh limiter over an empty store, and an orderly
  run of attempts. The limit of the refused key is not zero.
* An attempt that comes after a refusal is the last one of a longer run. Attempts on other keys may
  stand between the two.
-/

namespace Tollgate

/-! ### The oldest attempt of a window -/

/-- **A window has lost an attempt** from the second on in which its oldest one leaves it. -/
theorem length_admittedSeconds_lt_iff {span now later oldest : Int} {key : String}
    {past : List (Attempt × Decision)} (hle : now ≤ later)
    (holdest : (admittedSeconds span key now past).min? = some oldest) :
    (admittedSeconds span key later past).length < (admittedSeconds span key now past).length
      ↔ oldest + span ≤ later := by
  obtain ⟨hmem, hmin⟩ := List.min?_eq_some_iff.mp holdest
  rw [admittedSeconds_of_le hle, List.length_filter_lt_length_iff_exists]
  simp only [decide_eq_true_eq]
  constructor
  · rintro ⟨t, ht, hout⟩
    have := hmin t ht
    omega
  · intro hleft
    exact ⟨oldest, hmem, by omega⟩

/-- Attempts that are refused, and attempts on other keys, are in no window of a key. -/
theorem admittedSeconds_append_of_refused {key : String} {more : List (Attempt × Decision)}
    (h : ∀ x ∈ more, x.1.key = key → x.2.allowed = false) (span now : Int)
    (past : List (Attempt × Decision)) :
    admittedSeconds span key now (past ++ more) = admittedSeconds span key now past := by
  have hnone : admittedSeconds span key now more = [] := by
    rw [admittedSeconds, List.map_eq_nil_iff, List.filter_eq_nil_iff]
    intro x hx hin
    obtain ⟨hkey, hallowed, -⟩ := of_decide_eq_true hin
    rw [h x hx hkey] at hallowed
    cases hallowed
  rw [admittedSeconds_append, hnone, List.append_nil]

/-- The attempts in a window are inside it. -/
theorem bounds_of_mem_admittedSeconds {span now t : Int} {key : String}
    {past : List (Attempt × Decision)} (hpast : ∀ x ∈ past, x.1.now ≤ now)
    (h : t ∈ admittedSeconds span key now past) : now - span < t ∧ t ≤ now := by
  obtain ⟨x, hx, rfl⟩ := List.mem_map.mp h
  obtain ⟨hmem, hin⟩ := List.mem_filter.mp hx
  exact ⟨(of_decide_eq_true hin).2.2, hpast x hmem⟩

/-- The length of a window fits into a signed word. -/
theorem Quota.span_le (q : Quota) : q.span ≤ maxSigned64 := by
  simp only [span, Saturating.ofUnsigned, maxSigned64]
  omega

/-- **A refusal for a full window** is reset when the oldest attempt in it leaves it. -/
theorem SlidingDecision.reset_of_refused {q : Quota} {now : Int} {seconds : List Int} {d : Decision}
    (h : SlidingDecision q now seconds d) (hlimit : 1 ≤ q.requests) (hrefused : d.allowed = false) :
    ∃ oldest state, seconds.min? = some oldest ∧ d.quota = some state ∧
      state.resetAt = Saturating.add64 oldest q.span := by
  have hfull := h.full_of_refused hrefused
  rcases holdest : seconds.min? with _ | oldest
  · rw [List.min?_eq_none_iff.mp holdest, List.length_nil] at hfull
    omega
  · refine ⟨oldest, _, rfl, h.quota_of_refused hrefused, ?_⟩
    rw [holdest, Option.getD_some]

/-- **The seconds to wait** end at the reset or, if that is over, in the next second, as long as the
reset is not more than a signed word away. -/
theorem Decision.exists_retryAfter {d : Decision} {state : QuotaState} (hd : d.quota = some state)
    {now : Int} (hnear : state.resetAt - now ≤ maxSigned64) :
    ∃ seconds, d.retryAfter now = some seconds ∧ 1 ≤ seconds ∧
      now + seconds = max (now + 1) state.resetAt := by
  refine ⟨max 1 (Saturating.sub64 state.resetAt now).toNat, ?_, Nat.le_max_left _ _, ?_⟩
  · rw [retryAfter, hd, Option.map_some]
  · simp only [Saturating.sub64, Saturating.clamp64, minSigned64, maxSigned64] at *
    omega

namespace Limiter

/-! ### Answers that follow a refusal -/

/-- What an attempt is answered after some others. -/
def answer (quota : String → Quota) (l : Limiter) (past : List Attempt) (a : Attempt) : Decision :=
  ((l.serve quota past).2.check {} a.key (quota a.key) a.identifier a.now).decision

/-- The answers to a run and to one attempt more. -/
theorem serve_fst_append_singleton (quota : String → Quota) (l : Limiter) (past : List Attempt)
    (a : Attempt) :
    (l.serve quota (past ++ [a])).1 = (l.serve quota past).1 ++ [(a, l.answer quota past a)] := by
  rw [serve_append_singleton, answer]

section

variable {l : Limiter} (henabled : l.enabled = true) (hstore : l.store = some .empty)
  (hsequence : l.sequence = 0) (quota : String → Quota)
include henabled hstore hsequence

/-- **The last attempt of an orderly run** is answered by the sliding window. -/
theorem slidingDecision_answer {past : List Attempt} {a : Attempt}
    (h : Attempt.Orderly (past ++ [a])) :
    SlidingDecision (quota a.key) a.now
      (admittedSeconds (quota a.key).span a.key a.now (l.serve quota past).1)
      (l.answer quota past a) := by
  refine (tracks_serve henabled hstore hsequence quota h.of_append).answer ?_
  rw [map_fst_serve]
  exact h

variable {past more : List Attempt} {a b : Attempt} {state : QuotaState}
  (hlimit : 1 ≤ (quota a.key).requests)
  (hrefused : (l.answer quota past a).allowed = false)
  (hstate : (l.answer quota past a).quota = some state)
include hlimit hrefused hstate

/-- **The reset of a refusal** is the second in which the oldest attempt of its window leaves it. -/
theorem resetAt_of_refused (h : Attempt.Orderly (past ++ [a])) :
    ∃ oldest, (admittedSeconds (quota a.key).span a.key a.now (l.serve quota past).1).min?
        = some oldest ∧
      a.now < oldest + (quota a.key).span ∧ oldest ≤ a.now ∧
      state.resetAt = min maxSigned64 (oldest + (quota a.key).span) := by
  obtain ⟨oldest, told, holdest, htold, hreset⟩ :=
    (slidingDecision_answer henabled hstore hsequence quota h).reset_of_refused hlimit hrefused
  rw [hstate, Option.some.injEq] at htold
  subst htold
  have hbounds := bounds_of_mem_admittedSeconds (fun x hx => ?_)
    (List.min?_eq_some_iff.mp holdest).1
  · have hrange := h.inRange a (by simp)
    refine ⟨oldest, holdest, by omega, hbounds.2, ?_⟩
    rw [hreset, Saturating.add64, Saturating.clamp64]
    omega
  · refine h.le_last x.1 ?_
    rw [← map_fst_serve quota l past]
    exact List.mem_map_of_mem hx

/-- **The next answer** on a key that has admitted nothing since a refusal: allowed from the reset
on, and not earlier. -/
theorem allowed_iff_of_refused_since {answers : List (Attempt × Decision)}
    (h : Attempt.Orderly (past ++ a :: more ++ [b])) (hkey : b.key = a.key)
    (hserved : (l.serve quota (past ++ a :: more)).1
      = (l.serve quota past).1 ++ (a, l.answer quota past a) :: answers)
    (hsince : ∀ x ∈ answers, x.1.key = a.key → x.2.allowed = false) :
    (l.answer quota (past ++ a :: more) b).allowed = true ↔ state.resetAt ≤ b.now := by
  have hfirst : Attempt.Orderly (past ++ [a]) := by
    rw [List.append_assoc, List.cons_append, List.append_cons] at h
    exact h.of_append
  have hle : a.now ≤ b.now := h.le_last a (by simp)
  have hrange := h.inRange b (by simp)
  have hfull := (slidingDecision_answer henabled hstore hsequence quota hfirst).full_of_refused
    hrefused
  obtain ⟨oldest, holdest, -, -, hreset⟩ :=
    resetAt_of_refused henabled hstore hsequence quota hlimit hrefused hstate hfirst
  have hanswer := (slidingDecision_answer henabled hstore hsequence quota h).allowed_iff
  rw [hkey, hserved, admittedSeconds_append_of_refused, ← hfull,
    length_admittedSeconds_lt_iff hle holdest] at hanswer
  · rw [hanswer, hreset]
    omega
  · intro x hx hx'
    rcases List.mem_cons.mp hx with rfl | hx
    · exact hrefused
    · exact hsince x hx hx'

/-- **Before the reset the next attempt is refused** if all before it were. -/
theorem refused_of_refused_before {answers : List (Attempt × Decision)}
    (h : Attempt.Orderly (past ++ a :: more ++ [b])) (hkey : b.key = a.key)
    (hserved : (l.serve quota (past ++ a :: more)).1
      = (l.serve quota past).1 ++ (a, l.answer quota past a) :: answers)
    (hmore : answers.map Prod.fst = more)
    (hearly : ∀ x ∈ answers, x.1.key = a.key → x.1.now < state.resetAt → x.2.allowed = false)
    (hnow : b.now < state.resetAt) : (l.answer quota (past ++ a :: more) b).allowed = false := by
  -- The attempts since the refusal were made before the reset as well.
  have hsince : ∀ x ∈ answers, x.1.key = a.key → x.2.allowed = false := by
    intro x hx hx'
    have hle : x.1.now ≤ b.now := by
      refine h.le_last x.1 (List.mem_append_right _ (List.mem_cons_of_mem _ ?_))
      rw [← hmore]
      exact List.mem_map_of_mem hx
    exact hearly x hx hx' (by omega)
  have hiff := allowed_iff_of_refused_since henabled hstore hsequence quota hlimit hrefused hstate
    h hkey hserved hsince
  rw [← Bool.not_eq_true, hiff]
  omega

/-- **No attempt is admitted before the reset**, whatever was asked for since the refusal. -/
theorem exists_answers_of_refused (h : Attempt.Orderly (past ++ a :: more)) :
    ∃ answers, (l.serve quota (past ++ a :: more)).1
        = (l.serve quota past).1 ++ (a, l.answer quota past a) :: answers ∧
      answers.map Prod.fst = more ∧
      ∀ x ∈ answers, x.1.key = a.key → x.1.now < state.resetAt → x.2.allowed = false := by
  induction more using List.reverseRecOn with
  | nil => exact ⟨[], serve_fst_append_singleton quota l past a, rfl, by simp⟩
  | append_singleton more b ih =>
      rw [← List.cons_append, ← List.append_assoc] at h
      obtain ⟨answers, hserved, hmore, hearly⟩ := ih h.of_append
      refine ⟨answers ++ [(b, l.answer quota (past ++ a :: more) b)], ?_, ?_, fun x hx => ?_⟩
      · rw [← List.cons_append, ← List.append_assoc, serve_fst_append_singleton, hserved,
          List.append_assoc, List.cons_append]
      · rw [List.map_append, hmore]
        rfl
      · rcases List.mem_append.mp hx with hx | hx
        · exact hearly x hx
        · obtain rfl := List.mem_singleton.mp hx
          exact fun hkey hnow => refused_of_refused_before henabled hstore hsequence quota hlimit
            hrefused hstate h hkey hserved hmore hearly hnow

end

/-! ### What a refused caller may rely on -/

/-- **What a refused attempt is told is tight.** -/
structure TightReset (quota : String → Quota) (l : Limiter) (past : List Attempt) (a : Attempt)
    (state : QuotaState) : Prop where
  /-- The reset is still to come. -/
  ahead : a.now < state.resetAt
  /-- No attempt on the key is admitted before it, whatever was asked for in the meantime. -/
  refused : ∀ more b, Attempt.Orderly (past ++ a :: more ++ [b]) → b.key = a.key →
    b.now < state.resetAt → (l.answer quota (past ++ a :: more) b).allowed = false
  /-- The next attempt on the key is admitted from the reset on, and not earlier. -/
  allowed_iff : ∀ more b, Attempt.Orderly (past ++ a :: more ++ [b]) → b.key = a.key →
    (∀ x ∈ more, x.key ≠ a.key) →
      ((l.answer quota (past ++ a :: more) b).allowed = true ↔ state.resetAt ≤ b.now)
  /-- Who waits for as long as told from any second on waits for a second at least, until the reset
  or, if that is over, until the next second. -/
  wait : ∀ now, a.now ≤ now → ∃ seconds, (l.answer quota past a).retryAfter now = some seconds ∧
    1 ≤ seconds ∧ now + seconds = max (now + 1) state.resetAt
  /-- Who waits for as long as told is admitted, if nobody asked for the key in the meantime. -/
  admitted : ∀ now seconds more b, a.now ≤ now →
    (l.answer quota past a).retryAfter now = some seconds →
      Attempt.Orderly (past ++ a :: more ++ [b]) → b.key = a.key → b.now = now + seconds →
        (∀ x ∈ more, x.key ≠ a.key) → (l.answer quota (past ++ a :: more) b).allowed = true

/-- **The reset of a refusal is tight.** A fresh limiter over an empty store that refuses the last
attempt of an orderly run tells it the second from which its key is admitted again, and not earlier. -/
theorem reset_tight {l : Limiter} (henabled : l.enabled = true) (hstore : l.store = some .empty)
    (hsequence : l.sequence = 0) (quota : String → Quota) {past : List Attempt} {a : Attempt}
    (h : Attempt.Orderly (past ++ [a])) (hlimit : 1 ≤ (quota a.key).requests)
    (hrefused : (l.answer quota past a).allowed = false) :
    ∃ state, (l.answer quota past a).quota = some state ∧ l.TightReset quota past a state := by
  obtain ⟨-, state, -, hstate, -⟩ :=
    (slidingDecision_answer henabled hstore hsequence quota h).reset_of_refused hlimit hrefused
  obtain ⟨oldest, -, hahead, hold, hreset⟩ :=
    resetAt_of_refused henabled hstore hsequence quota hlimit hrefused hstate h
  have hnext : ∀ more b, Attempt.Orderly (past ++ a :: more ++ [b]) → b.key = a.key →
      (∀ x ∈ more, x.key ≠ a.key) →
        ((l.answer quota (past ++ a :: more) b).allowed = true ↔ state.resetAt ≤ b.now) := by
    intro more b horderly hkey hothers
    obtain ⟨answers, hserved, rfl, -⟩ := exists_answers_of_refused henabled hstore hsequence quota
      hlimit hrefused hstate horderly.of_append
    exact allowed_iff_of_refused_since henabled hstore hsequence quota hlimit hrefused hstate
      horderly hkey hserved fun x hx hx' => absurd hx' (hothers x.1 (List.mem_map_of_mem hx))
  have hwait : ∀ now, a.now ≤ now →
      ∃ seconds, (l.answer quota past a).retryAfter now = some seconds ∧ 1 ≤ seconds ∧
        now + seconds = max (now + 1) state.resetAt := by
    intro now hnow
    have hspan := (quota a.key).span_le
    exact Decision.exists_retryAfter hstate (by omega)
  refine ⟨state, hstate, ?_, ?_, hnext, hwait, ?_⟩
  · have hrange := h.inRange a (by simp)
    omega
  · intro more b horderly hkey hnow
    obtain ⟨answers, hserved, hmore, hearly⟩ := exists_answers_of_refused henabled hstore hsequence
      quota hlimit hrefused hstate horderly.of_append
    exact refused_of_refused_before henabled hstore hsequence quota hlimit hrefused hstate horderly
      hkey hserved hmore hearly hnow
  · intro now seconds more b hnow hseconds horderly hkey hb hothers
    obtain ⟨told, htold, -, hends⟩ := hwait now hnow
    rw [hseconds, Option.some.injEq] at htold
    rw [hnext more b horderly hkey hothers, hb, htold, hends]
    exact Int.le_max_right _ _

/-- Two hits a minute: the third attempt on `k` is refused until a minute after the first one, and
told to wait for twenty seconds; an attempt on `j` in the meantime changes nothing. -/
theorem reset_tight_two_a_minute :
    let l : Limiter := { Limiter.ofConfig { store := .memory } (some .empty) with nonce := 7 }
    let quota : String → Quota := fun _ => ⟨2, 60⟩
    let past : List Attempt := [⟨"k", none, 1000⟩, ⟨"k", some "a", 1030⟩]
    let a : Attempt := ⟨"k", none, 1040⟩
    Attempt.Orderly (past ++ [a]) ∧ 1 ≤ (quota a.key).requests ∧
      (l.answer quota past a).allowed = false ∧
      (l.answer quota past a).retryAfter 1040 = some 20 ∧
      (l.answer quota (past ++ a :: [⟨"j", none, 1050⟩]) ⟨"k", none, 1059⟩).allowed = false ∧
      (l.answer quota (past ++ a :: [⟨"j", none, 1050⟩]) ⟨"k", none, 1060⟩).allowed = true ∧
      ∃ state, (l.answer quota past a).quota = some state ∧ state.resetAt = 1060 ∧
        l.TightReset quota past a state := by
  intro l quota past a
  have horderly : Attempt.Orderly (past ++ [a]) :=
    .of_length (by decide) (by decide) (by decide)
  have hrefused : (l.answer quota past a).allowed = false := by decide
  obtain ⟨state, hstate, htight⟩ := reset_tight rfl rfl rfl quota horderly (by decide) hrefused
  have htold : (l.answer quota past a).quota = some ⟨2, 0, 1060, 2⟩ := by decide
  obtain rfl : (⟨2, 0, 1060, 2⟩ : QuotaState) = state := Option.some.inj (htold.symm.trans hstate)
  exact ⟨horderly, by decide, hrefused, by decide, by decide, by decide, _, hstate, rfl, htight⟩

end Limiter

end Tollgate
