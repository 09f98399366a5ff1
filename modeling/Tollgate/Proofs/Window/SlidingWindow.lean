import Tollgate.Proofs.Window.Member
import Tollgate.Proofs.Window.Verdict

/-!
# The limiter is an exact sliding window

A limiter over a store of its own, answering one attempt after the other, decides as if it had kept
every admitted attempt forever: an attempt is allowed exactly when fewer than `limit` allowed
attempts on its key lie inside the window before it (`Limiter.serve_exact`). Rejected attempts,
attempts on other keys, the callers' names, deadlines and sweeps leave no trace in the answers.

## Conventions

* The window of an attempt at `now` is `(now - span, now]` over the integers, where `span` is the
  configured window, at most the largest signed word.
* The seconds of a run do not decrease and lie strictly between the two ends of the clock.
* Members of hits are told apart by a sequence number of 64 bits. Two attempts of one second get
  different numbers as long as fewer than `2 ^ 64` attempts lie between them, which is what
  `Attempt.Orderly` asks of a run; runs of any length are covered.

## Main results

* `Limiter.Tracks.answer`, `Limiter.Tracks.check`: what one attempt is answered, and that the ledger
  of admitted attempts is kept.
* `Limiter.serve_exact`: every answer of every run.
-/

namespace Tollgate

/-- A request for a check of a key, on behalf of a caller. -/
structure Attempt where
  key : String
  identifier : Option String := none
  now : Int
deriving DecidableEq, Repr

namespace Attempt

/-- A run of attempts whose clock does not step back or leave its range, and in which no sequence
number comes round within one second. -/
structure Orderly (attempts : List Attempt) : Prop where
  /-- The clock does not step back. -/
  sorted : attempts.Pairwise fun a b => a.now ≤ b.now
  /-- The clock stays strictly between the ends of a signed word. -/
  inRange : ∀ a ∈ attempts, minSigned64 < a.now ∧ a.now < maxSigned64
  /-- Two attempts of one second are fewer than `2 ^ 64` attempts apart. -/
  paced : ∀ i j a b, i < j → attempts[i]? = some a → attempts[j]? = some b → a.now = b.now →
    j - i ≤ maxUnsigned64

/-- The beginning of an orderly run is orderly. -/
theorem Orderly.of_append {attempts later : List Attempt} (h : Orderly (attempts ++ later)) :
    Orderly attempts where
  sorted := (List.pairwise_append.mp h.sorted).1
  inRange := fun a ha => h.inRange a (List.mem_append_left _ ha)
  paced := by
    intro i j a b hij ha hb
    have hj : j < attempts.length := (List.getElem?_eq_some_iff.mp hb).1
    refine h.paced i j a b hij ?_ ?_
    · rw [List.getElem?_append_left (by omega), ha]
    · rw [List.getElem?_append_left hj, hb]

/-- The last attempt of an orderly run is not before the others. -/
theorem Orderly.le_last {attempts : List Attempt} {a : Attempt} (h : Orderly (attempts ++ [a])) :
    ∀ b ∈ attempts, b.now ≤ a.now := fun b hb =>
  (List.pairwise_append.mp h.sorted).2.2 b hb a (List.mem_singleton.mpr rfl)

/-- A run of at most `2 ^ 64` attempts is paced, whatever its seconds. -/
theorem Orderly.of_length {attempts : List Attempt}
    (hsorted : attempts.Pairwise fun a b => a.now ≤ b.now)
    (hrange : ∀ a ∈ attempts, minSigned64 < a.now ∧ a.now < maxSigned64)
    (hlength : attempts.length ≤ maxUnsigned64 + 1) : Orderly attempts where
  sorted := hsorted
  inRange := hrange
  paced := by
    intro i j a b hij _ hb _
    have hj : j < attempts.length := (List.getElem?_eq_some_iff.mp hb).1
    omega

end Attempt

/-- The seconds of the allowed attempts on a key inside the window of `now`, oldest first. -/
def admittedSeconds (span : Int) (key : String) (now : Int) (past : List (Attempt × Decision)) :
    List Int :=
  (past.filter fun x => x.1.key = key ∧ x.2.allowed = true ∧ now - span < x.1.now).map
    fun x => x.1.now

/-- Attempts that come later are later in the window. -/
theorem admittedSeconds_append (span : Int) (key : String) (now : Int)
    (past more : List (Attempt × Decision)) :
    admittedSeconds span key now (past ++ more)
      = admittedSeconds span key now past ++ admittedSeconds span key now more := by
  rw [admittedSeconds, List.filter_append, List.map_append]
  rfl

/-- One attempt is in the window if it is on the key and allowed. -/
theorem admittedSeconds_singleton (span : Int) (key : String) (now : Int)
    (x : Attempt × Decision) :
    admittedSeconds span key now [x]
      = if x.1.key = key ∧ x.2.allowed = true ∧ now - span < x.1.now then [x.1.now] else [] := by
  by_cases h : x.1.key = key ∧ x.2.allowed = true ∧ now - span < x.1.now
  · simp [admittedSeconds, h]
  · simp [admittedSeconds, h]

/-- **A window that moves on** only loses attempts, those that it leaves behind. -/
theorem admittedSeconds_of_le {span now later : Int} (hle : now ≤ later) (key : String)
    (past : List (Attempt × Decision)) :
    admittedSeconds span key later past
      = (admittedSeconds span key now past).filter fun t => later - span < t := by
  rw [admittedSeconds, admittedSeconds, List.filter_map, List.filter_filter]
  refine congrArg (List.map _) (List.filter_congr fun x _ => ?_)
  rw [Function.comp_apply, ← Bool.decide_and, decide_eq_decide]
  constructor
  · rintro ⟨hkey, hallowed, hin⟩
    exact ⟨hin, hkey, hallowed, by omega⟩
  · rintro ⟨hin, hkey, hallowed, -⟩
    exact ⟨hkey, hallowed, hin⟩

/-- **The decision of a sliding window** at `now`, when the allowed attempts inside the window were
made at these seconds. -/
structure SlidingDecision (q : Quota) (now : Int) (seconds : List Int) (d : Decision) : Prop where
  /-- Allowed exactly when the window is not full. -/
  allowed_iff : d.allowed = true ↔ seconds.length < q.requests
  /-- An allowed attempt takes one place of the window, which frees up a window later. -/
  quota_of_allowed : d.allowed = true → d.quota = some
    { limit := q.requests
      remaining := q.requests - seconds.length - 1
      resetAt := Saturating.add64 now q.span
      currentCount := seconds.length + 1 }
  /-- A window is never more than full. -/
  full_of_refused : d.allowed = false → seconds.length = q.requests
  /-- A rejected attempt is told when the oldest attempt in the window leaves it. -/
  quota_of_refused : d.allowed = false → d.quota = some
    { limit := q.requests
      remaining := 0
      resetAt := Saturating.add64 (seconds.min?.getD now) q.span
      currentCount := seconds.length }

namespace Limiter

/-- The answers to attempts made one after the other, oldest first, and the limiter after them. No
call of the store fails, and every key has one quota. -/
def serve (quota : String → Quota) (l : Limiter) (attempts : List Attempt) :
    List (Attempt × Decision) × Limiter :=
  attempts.foldl (fun r a =>
    let checked := r.2.check {} a.key (quota a.key) a.identifier a.now
    (r.1 ++ [(a, checked.decision)], checked.limiter)) ([], l)

/-- Serving one more attempt. -/
theorem serve_append_singleton (quota : String → Quota) (l : Limiter) (attempts : List Attempt)
    (a : Attempt) :
    l.serve quota (attempts ++ [a]) =
      ((l.serve quota attempts).1 ++ [(a, ((l.serve quota attempts).2.check {} a.key
          (quota a.key) a.identifier a.now).decision)],
        ((l.serve quota attempts).2.check {} a.key (quota a.key) a.identifier a.now).limiter) := by
  simp only [serve, List.foldl_append, List.foldl_cons, List.foldl_nil]

/-- Every attempt is answered, in order. -/
theorem map_fst_serve (quota : String → Quota) (l : Limiter) (attempts : List Attempt) :
    (l.serve quota attempts).1.map Prod.fst = attempts := by
  induction attempts using List.reverseRecOn with
  | nil => rfl
  | append_singleton attempts a ih =>
      rw [serve_append_singleton, List.map_append, ih]
      rfl

/-! ### The ledger of admitted attempts -/

/-- The hits of the allowed attempts on a key, oldest first, by a limiter that began to count at
sequence number zero. -/
def ledger (nonce : Nat) (key : String) (past : List (Attempt × Decision)) :
    List (String × Int) :=
  past.zipIdx.filterMap fun x =>
    if x.1.1.key = key ∧ x.1.2.allowed = true then
      some (memberText x.1.1.now (x.1.1.identifier.getD defaultIdentifier) nonce
        (x.2 % (maxUnsigned64 + 1)), x.1.1.now)
    else none

/-- One more answer adds one hit to the ledger of its key, if it was allowed. -/
theorem ledger_append_singleton (nonce : Nat) (key : String) (past : List (Attempt × Decision))
    (a : Attempt) (d : Decision) :
    ledger nonce key (past ++ [(a, d)]) = ledger nonce key past ++
      if a.key = key ∧ d.allowed = true then
        [(memberText a.now (a.identifier.getD defaultIdentifier) nonce
          (past.length % (maxUnsigned64 + 1)), a.now)]
      else [] := by
  rw [ledger, List.zipIdx_append, List.filterMap_append, ← ledger]
  by_cases h : a.key = key ∧ d.allowed = true <;> simp [h]

/-- The ledger inside a window holds the seconds of the allowed attempts there. -/
theorem map_snd_filter_ledger (nonce : Nat) (span : Int) (key : String) (now : Int)
    (past : List (Attempt × Decision)) :
    ((ledger nonce key past).filter fun x => now - span < x.2).map Prod.snd
      = admittedSeconds span key now past := by
  induction past using List.reverseRecOn with
  | nil => rfl
  | append_singleton past x ih =>
      obtain ⟨a, d⟩ := x
      rw [ledger_append_singleton, List.filter_append, List.map_append, ih, admittedSeconds_append,
        admittedSeconds_singleton]
      congr 1
      by_cases hkey : a.key = key ∧ d.allowed = true
      · by_cases hin : now - span < a.now <;> simp [hkey.1, hkey.2, hin]
      · have hout : ¬ (a.key = key ∧ d.allowed = true ∧ now - span < a.now) :=
          fun h => hkey ⟨h.1, h.2.1⟩
        simp [hkey, hout]

/-- As many hits inside a window as allowed attempts. -/
theorem length_filter_ledger (nonce : Nat) (span : Int) (key : String) (now : Int)
    (past : List (Attempt × Decision)) :
    ((ledger nonce key past).filter fun x => now - span < x.2).length
      = (admittedSeconds span key now past).length := by
  rw [← map_snd_filter_ledger nonce, List.length_map]

/-- **The member of the next attempt is new**: an earlier hit with the same member would be of the
same second and have the same sequence number. -/
theorem ne_of_mem_ledger (nonce : Nat) (key : String) {past : List (Attempt × Decision)}
    {a : Attempt} (h : Attempt.Orderly (past.map Prod.fst ++ [a])) :
    ∀ x ∈ ledger nonce key past,
      x.1 ≠ memberText a.now (a.identifier.getD defaultIdentifier) nonce
        (past.length % (maxUnsigned64 + 1)) := by
  intro x hx heq
  obtain ⟨⟨y, i⟩, hy, hsome⟩ := List.mem_filterMap.mp hx
  split at hsome
  · rw [Option.some.injEq] at hsome
    rw [← hsome] at heq
    obtain ⟨hsecond, -, -, hsequence⟩ := memberText_parts heq
    have hget : past[i]? = some y := List.mk_mem_zipIdx_iff_getElem?.mp hy
    have hi : i < past.length := (List.getElem?_eq_some_iff.mp hget).1
    have hold : (past.map Prod.fst ++ [a])[i]? = some y.1 := by
      rw [List.getElem?_append_left (by simpa using hi), List.getElem?_map, hget, Option.map_some]
    have hlast : (past.map Prod.fst ++ [a])[past.length]? = some a := by
      rw [List.getElem?_append_right (by simp)]
      simp
    have := h.paced i past.length _ _ hi hold hlast hsecond
    simp only [maxUnsigned64] at *
    omega
  · exact absurd hsome (by simp)

/-- The sequence number after the `n`-th attempt. -/
theorem nextSequence_mod (n : Nat) :
    nextSequence (n % (maxUnsigned64 + 1)) = (n + 1) % (maxUnsigned64 + 1) := by
  rw [nextSequence, Nat.mod_add_mod]

/-! ### What an attempt is answered, and what it leaves -/

/-- **A limiter that has answered `past`**: its store shows the ledger of the allowed attempts, and
no window holds more of them than the limit of its key. -/
structure Tracks (quota : String → Quota) (l : Limiter) (past : List (Attempt × Decision)) :
    Prop where
  enabled : l.enabled = true
  sequence_eq : l.sequence = past.length % (maxUnsigned64 + 1)
  shows : ∃ s, l.store = some s ∧ ∀ key since, (∀ x ∈ past, x.1.now ≤ since) →
    s.Shows key (quota key).span since (ledger l.nonce key past)
  bounded : ∀ key now, (∀ x ∈ past, x.1.now ≤ now) →
    (admittedSeconds (quota key).span key now past).length ≤ (quota key).requests

/-- **The verdict by the ledger is the decision of the sliding window**, as long as the window was
not more than full. -/
theorem slidingDecision_verdict {c : Check} {s : Store} {nonce : Nat}
    {past : List (Attempt × Decision)}
    (h : s.Shows c.key c.windowLength c.now (ledger nonce c.key past))
    (hmax : c.now < maxSigned64) (hnew : ∀ x ∈ ledger nonce c.key past, x.1 ≠ c.member)
    (hbound : (admittedSeconds c.windowLength c.key c.now past).length ≤ c.limit) :
    SlidingDecision ⟨c.limit, c.window⟩ c.now
      (admittedSeconds c.windowLength c.key c.now past) (c.verdict s).1 := by
  rw [h.verdict_fst le_rfl hmax hnew, length_filter_ledger, map_snd_filter_ledger]
  by_cases hfull : c.limit ≤ (admittedSeconds c.windowLength c.key c.now past).length
  · rw [if_pos hfull]
    exact
      { allowed_iff := by simpa [Check.refusal] using hfull
        quota_of_allowed := fun hallowed => absurd hallowed Bool.false_ne_true
        full_of_refused := fun _ => Nat.le_antisymm hbound hfull
        quota_of_refused := fun _ => rfl }
  · rw [if_neg hfull]
    exact
      { allowed_iff := by simpa [Check.admission] using hfull
        quota_of_allowed := fun _ => rfl
        full_of_refused := fun hrefused => absurd hrefused.symm Bool.false_ne_true
        quota_of_refused := fun hrefused => absurd hrefused.symm Bool.false_ne_true }

namespace Tracks

variable {quota : String → Quota} {l : Limiter} {past : List (Attempt × Decision)} {a : Attempt}

/-- **One answer**: the next attempt of an orderly run gets the decision of the sliding window. -/
theorem answer (h : Tracks quota l past) (ho : Attempt.Orderly (past.map Prod.fst ++ [a])) :
    SlidingDecision (quota a.key) a.now
      (admittedSeconds (quota a.key).span a.key a.now past)
      (l.check {} a.key (quota a.key) a.identifier a.now).decision := by
  obtain ⟨s, hstore, hshows⟩ := h.shows
  have hpast : ∀ x ∈ past, x.1.now ≤ a.now := fun x hx =>
    ho.le_last x.1 (List.mem_map_of_mem hx)
  have hnew := ne_of_mem_ledger l.nonce a.key ho
  rw [← h.sequence_eq] at hnew
  rw [(check_faultless h.enabled hstore _ _ _ _).1]
  exact slidingDecision_verdict (c := l.checkOf a.key (quota a.key) a.identifier a.now)
    (hshows a.key a.now hpast) (ho.inRange a (by simp)).2 hnew (h.bounded a.key a.now hpast)

/-- An answer as the sliding window gives it keeps every window within its limit. -/
theorem bounded_append (h : Tracks quota l past) {d : Decision}
    (hd : SlidingDecision (quota a.key) a.now
      (admittedSeconds (quota a.key).span a.key a.now past) d)
    {key : String} {now : Int} (hnow : ∀ x ∈ past ++ [(a, d)], x.1.now ≤ now) :
    (admittedSeconds (quota key).span key now (past ++ [(a, d)])).length
      ≤ (quota key).requests := by
  have hpast : ∀ x ∈ past, x.1.now ≤ now := fun x hx => hnow x (List.mem_append_left _ hx)
  have hlast : a.now ≤ now := hnow (a, d) (by simp)
  have hbefore := h.bounded key now hpast
  rw [admittedSeconds_append, admittedSeconds_singleton, List.length_append]
  split
  · next hadded =>
      obtain rfl : a.key = key := hadded.1
      -- The windows of later seconds hold fewer of the attempts before `a` than its own window.
      have hnarrow : (admittedSeconds (quota a.key).span a.key now past).length
          ≤ (admittedSeconds (quota a.key).span a.key a.now past).length := by
        rw [admittedSeconds_of_le hlast]
        exact List.length_filter_le _ _
      have hroom := hd.allowed_iff.mp hadded.2.1
      rw [List.length_singleton]
      omega
  · rw [List.length_nil, Nat.add_zero]
    exact hbefore

/-- **One step**: the limiter that has answered one attempt more of an orderly run. -/
theorem check (h : Tracks quota l past) (ho : Attempt.Orderly (past.map Prod.fst ++ [a])) :
    Tracks quota (l.check {} a.key (quota a.key) a.identifier a.now).limiter
      (past ++ [(a, (l.check {} a.key (quota a.key) a.identifier a.now).decision)]) := by
  have hanswer := h.answer ho
  obtain ⟨s, hstore, hshows⟩ := h.shows
  have hrange := ho.inRange a (by simp)
  have hpast : ∀ x ∈ past, x.1.now ≤ a.now := fun x hx =>
    ho.le_last x.1 (List.mem_map_of_mem hx)
  obtain ⟨hdecision, hlimiter⟩ := check_faultless h.enabled hstore a.key (quota a.key)
    a.identifier a.now
  refine
    { enabled := ?_
      sequence_eq := ?_
      shows := ⟨((l.checkOf a.key (quota a.key) a.identifier a.now).verdict s).2, ?_, ?_⟩
      bounded := fun key now hnow => h.bounded_append hanswer hnow }
  · rw [hlimiter]
    exact h.enabled
  · rw [hlimiter, List.length_append, List.length_singleton, ← nextSequence_mod, h.sequence_eq]
  · rw [hlimiter]
  · intro key since hsince
    have hle : a.now ≤ since :=
      hsince (a, _) (List.mem_append_right _ (List.mem_singleton.mpr rfl))
    rw [hdecision, ledger_append_singleton, hlimiter]
    refine Store.Shows.mono ?_ hle
    by_cases hkey : a.key = key
    · subst hkey
      have hnew := ne_of_mem_ledger l.nonce a.key ho
      rw [← h.sequence_eq] at hnew ⊢
      have hshown := (hshows a.key a.now hpast).verdict_snd
        (c := l.checkOf a.key (quota a.key) a.identifier a.now) le_rfl hrange.1 hrange.2 hnew
      split at hshown
      · rename_i hallowed
        rw [if_pos ⟨rfl, hallowed⟩]
        exact hshown
      · rename_i hrefused
        rw [if_neg fun hall => hrefused hall.2, List.append_nil]
        exact hshown
    · rw [if_neg fun hall => hkey hall.1, List.append_nil]
      exact (hshows key a.now hpast).verdict_of_ne
        (c := l.checkOf a.key (quota a.key) a.identifier a.now) (Ne.symm hkey) le_rfl

end Tracks

/-- **A whole run**: the limiter that has answered an orderly run of attempts. -/
theorem tracks_serve {l : Limiter} (henabled : l.enabled = true) (hstore : l.store = some .empty)
    (hsequence : l.sequence = 0) (quota : String → Quota) {attempts : List Attempt}
    (h : Attempt.Orderly attempts) :
    Tracks quota (l.serve quota attempts).2 (l.serve quota attempts).1 := by
  induction attempts using List.reverseRecOn with
  | nil =>
      exact
        { enabled := henabled
          sequence_eq := by rw [serve, List.foldl_nil, hsequence]; rfl
          shows := ⟨.empty, hstore, fun key since _ => .empty key _ since⟩
          bounded := fun key now _ => Nat.zero_le _ }
  | append_singleton attempts a ih =>
      rw [serve_append_singleton]
      refine (ih h.of_append).check ?_
      rw [map_fst_serve]
      exact h

/-- **The limiter is an exact sliding window.** A fresh limiter over an empty store answers every
attempt of an orderly run by the seconds of the earlier allowed attempts on its key that lie inside
its window, and by nothing else. -/
theorem serve_exact {l : Limiter} (henabled : l.enabled = true) (hstore : l.store = some .empty)
    (hsequence : l.sequence = 0) (quota : String → Quota) {attempts : List Attempt}
    (h : Attempt.Orderly attempts) (i : Nat) (hi : i < attempts.length) :
    ∃ d, (l.serve quota attempts).1[i]? = some (attempts[i], d) ∧
      SlidingDecision (quota attempts[i].key) attempts[i].now
        (admittedSeconds (quota attempts[i].key).span attempts[i].key attempts[i].now
          ((l.serve quota attempts).1.take i)) d := by
  induction attempts using List.reverseRecOn with
  | nil => exact absurd hi (Nat.not_lt_zero i)
  | append_singleton attempts a ih =>
      have hlength : (l.serve quota attempts).1.length = attempts.length := by
        rw [← List.length_map (f := Prod.fst), map_fst_serve]
      rw [serve_append_singleton]
      rw [List.length_append, List.length_singleton] at hi
      rcases Nat.lt_succ_iff_lt_or_eq.mp hi with hlt | rfl
      · obtain ⟨d, hd, hexact⟩ := ih h.of_append hlt
        refine ⟨d, ?_, ?_⟩
        · rw [List.getElem?_append_left (by omega), hd, List.getElem_append_left hlt]
        · rw [List.take_append_of_le_length (by omega), List.getElem_append_left hlt]
          exact hexact
      · have hrun : Attempt.Orderly ((l.serve quota attempts).1.map Prod.fst ++ [a]) := by
          rw [map_fst_serve]
          exact h
        refine ⟨((l.serve quota attempts).2.check {} a.key (quota a.key) a.identifier
          a.now).decision, ?_, ?_⟩
        · rw [List.getElem?_append_right (by omega), hlength, Nat.sub_self,
            List.getElem_concat_length rfl]
          rfl
        · rw [List.take_append_of_le_length (by omega), List.take_of_length_le (by omega),
            List.getElem_concat_length rfl]
          exact (tracks_serve henabled hstore hsequence quota h.of_append).answer hrun

/-- Two hits a minute: the third attempt on `k` finds the window full, the attempt on `j` does not,
and a minute after the first hit there is room on `k` again. -/
theorem serve_exact_two_a_minute :
    let l : Limiter := { Limiter.ofConfig { store := .memory } (some .empty) with nonce := 7 }
    let quota : String → Quota := fun _ => ⟨2, 60⟩
    let attempts : List Attempt :=
      [⟨"k", none, 1000⟩, ⟨"k", some "a", 1030⟩, ⟨"k", none, 1040⟩, ⟨"j", none, 1050⟩,
        ⟨"k", none, 1060⟩]
    Attempt.Orderly attempts ∧
      (l.serve quota attempts).1.map (fun x => x.2.allowed) = [true, true, false, true, true] ∧
      ∀ i (hi : i < attempts.length), ∃ d,
        (l.serve quota attempts).1[i]? = some (attempts[i], d) ∧
          SlidingDecision (quota attempts[i].key) attempts[i].now
            (admittedSeconds (quota attempts[i].key).span attempts[i].key attempts[i].now
              ((l.serve quota attempts).1.take i)) d := by
  intro l quota attempts
  have horderly : Attempt.Orderly attempts :=
    .of_length (by decide) (by decide) (by decide)
  exact ⟨horderly, by decide, serve_exact rfl rfl rfl quota horderly⟩

end Limiter

end Tollgate
