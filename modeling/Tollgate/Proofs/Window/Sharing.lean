import Tollgate.Proofs.Window.Interleaving

/-!
# What a shared window admits

Limiters that share a store admit no more than the limit of a key in any window of time, however
their calls interleave, fail or are abandoned (`Traffic.admitted_le_requests`). The argument is the
count of one recorded hit: it meets the hit of every admitted check of the window before it, since
these stay in the store as long as they count.

A check may be turned away without that many admitted checks before it. Between the call that
records a hit behind a full window and the call that removes it, the hit counts against others; when
the admitted hits before it leave the window first, it fills the window in their place.
`Traffic.rejected_iff` is the exact condition: admitted checks and hits waiting for their removal
together reach the limit. `Traffic.rejected_without_admitted` is a run in which the second alone do.

## Main results

* `Traffic.Faithful.count_eq`: a recorded hit is counted against the held hits inside its window.
* `Traffic.admitted_le_requests`: no window admits more than its limit.
* `Traffic.turnedAway_iff`, `Traffic.rejected_iff`: when a check is turned away.
-/

namespace Tollgate

namespace Flight

/-- An admitted check holds its hit. -/
theorem holds_of_admitted {f : Flight} (h : f.admitted = true) : f.holds = true := by
  obtain ⟨ticket, (stage | d) | stage⟩ := f
  · exact absurd h (by simp [admitted, decision?])
  · simp only [admitted, decision?, Bool.and_eq_true] at h
    exact h.1
  · exact absurd h (by simp [admitted, decision?, Decision.unmetered])

/-- What becomes of a check by its count. -/
theorem admitted_counted (f : Flight) (count : Nat) :
    Flight.admitted { f with course := .going (f.check.counted count) }
      = decide (count < f.check.limit) := by
  by_cases h : f.check.limit ≤ count
  · simp [admitted, decision?, Check.counted, h]
  · simp only [admitted, decision?, Check.counted, h, if_false, Check.admission, Bool.true_and,
      Option.isSome_some]
    exact (decide_eq_true (Nat.lt_of_not_le h)).symm

end Flight

namespace Traffic

variable {quota : String → Quota} {s : Traffic}

namespace Faithful

/-- A held hit is not after the last recorded one. -/
theorem now_le_of_holds (h : Faithful quota s) {since : Int} (hsince : ∀ t ∈ s.recorded, t ≤ since)
    {g : Flight} (hg : g ∈ s.flights) (hholds : g.holds = true) : g.check.now ≤ since := by
  obtain ⟨hits, hperm, hshows⟩ := h.ledger g.check.key
  have hheld : g.hit ∈ heldHits g.check.key s.flights := by
    refine List.mem_map_of_mem (List.mem_filter.mpr ⟨hg, ?_⟩)
    simpa using hholds
  exact ((hshows since hsince).scored g.hit (hperm.mem_iff.mpr hheld)).2

/-- **A recorded hit is counted against the held hits inside its window.** -/
theorem count_eq (h : Faithful quota s) {i : Nat} {f : Flight} (hf : s.flights[i]? = some f)
    (ho : (s.answer i f .counting).Orderly) :
    (s.store.recordHit f.check.key f.check.member f.check.now f.check.windowStart f.check.ttl).1
      = s.flights.countP fun g =>
          g.within (quota f.check.key).span f.check.key f.check.now && g.holds := by
  have hlast := ho.le_of_answer
  have hrange := ho.inRange_of_answer
  have hlength := h.windowLength_eq (List.mem_of_getElem? hf)
  obtain ⟨hits, hperm, hshows⟩ := h.ledger f.check.key
  have hshown := hshows f.check.now hlast
  rw [← hlength] at hshown ⊢
  rw [hshown.count_recordHit le_rfl hrange.2, ← List.countP_eq_length_filter, hperm.countP_eq,
    heldHits, List.countP_map, List.countP_filter]
  apply List.countP_congr
  intro g hg
  simp only [Function.comp_apply, Flight.hit, Flight.within, Bool.and_eq_true, decide_eq_true_eq]
  constructor
  · rintro ⟨hin, hkey, hholds⟩
    exact ⟨⟨hkey, of_decide_eq_true hin, h.now_le_of_holds hlast hg hholds⟩, hholds⟩
  · rintro ⟨⟨hkey, hin, -⟩, hholds⟩
    exact ⟨decide_eq_true hin, hkey, hholds⟩

end Faithful

/-! ### No window admits more than its limit -/

/-- How many of the flights were admitted on a key inside the window of `t`. -/
def admittedWithin (span : Int) (key : String) (t : Int) (flights : List Flight) : Nat :=
  flights.countP fun f => f.within span key t && f.admitted

/-- Putting a flight that is not admitted in the place of another such flight changes no count. -/
theorem admittedWithin_set {flights : List Flight} {i : Nat} {f g : Flight}
    (hi : flights[i]? = some f) (hf : f.admitted = false) (hg : g.admitted = false) (span : Int)
    (key : String) (t : Int) :
    admittedWithin span key t (flights.set i g) = admittedWithin span key t flights := by
  obtain ⟨front, back, hsplit, hset⟩ := exists_split_of_getElem? hi
  rw [hset, hsplit]
  simp only [admittedWithin, List.countP_append, List.countP_cons, hf, hg, Bool.and_false]

/-- A flight that is not decided, or is lost, is not admitted. -/
theorem admitted_eq_false {f : Flight} {stage : Stage}
    (h : f.course = .going (.waiting stage) ∨ f.course = .lost stage) : f.admitted = false := by
  rcases h with h | h <;> simp [Flight.admitted, Flight.decision?, h, Decision.unmetered]

/-- **One admission**: the window of a recorded hit has room for it among the admitted checks. -/
theorem admittedWithin_answer_counting (h : Faithful quota s) {i : Nat} {f : Flight}
    (hf : s.flights[i]? = some f) (hc : f.course = .going (.waiting .counting))
    (ho : (s.answer i f .counting).Orderly) {key : String} {t : Int}
    (hbound : admittedWithin (quota key).span key t s.flights ≤ (quota key).requests) :
    admittedWithin (quota key).span key t (s.answer i f .counting).flights
      ≤ (quota key).requests := by
  obtain ⟨front, back, hsplit, hset⟩ := exists_split_of_getElem? hf
  have hlast := ho.le_of_answer
  have hidle : f.admitted = false := admitted_eq_false (.inl hc)
  have hcount := h.count_eq hf ho
  have hlimit := (h.numbered.ofQuota f.toTicket
    (List.mem_map_of_mem (List.mem_of_getElem? hf))).1
  set count := (s.store.recordHit f.check.key f.check.member f.check.now f.check.windowStart
    f.check.ttl).1 with hcountDef
  have hflights : (s.answer i f .counting).flights
      = front ++ { f with course := .going (f.check.counted count) } :: back := hset _
  rw [hflights]
  by_cases hroom : f.within (quota key).span key t = true ∧ count < f.check.limit
  · obtain ⟨hin, hless⟩ := hroom
    simp only [Flight.within, decide_eq_true_eq] at hin
    obtain ⟨rfl, hafter, hbefore⟩ := hin
    -- Everything admitted inside the window of `t` counted against this hit.
    have hmet : admittedWithin (quota f.check.key).span f.check.key t s.flights ≤ count := by
      rw [hcount]
      refine List.countP_mono_left fun g hg hgin => ?_
      simp only [Flight.within, Bool.and_eq_true, decide_eq_true_eq] at hgin ⊢
      have hholds := Flight.holds_of_admitted hgin.2
      exact ⟨⟨hgin.1.1, by omega, h.now_le_of_holds hlast hg hholds⟩, hholds⟩
    rw [hsplit] at hmet
    simp only [admittedWithin, List.countP_append, List.countP_cons, hidle,
      Bool.and_false] at hmet ⊢
    rw [← hlimit]
    split <;> simp at hmet ⊢ <;> omega
  · have hnone : (Flight.within (quota key).span key t
          { f with course := .going (f.check.counted count) } &&
        Flight.admitted { f with course := .going (f.check.counted count) }) = false := by
      rw [Flight.admitted_counted]
      simpa [Flight.within] using hroom
    rw [hsplit] at hbound
    simp only [admittedWithin, List.countP_append, List.countP_cons, hidle, Bool.and_false,
      hnone] at hbound ⊢
    exact hbound

/-- **No over-admission.** However the checks of any number of limiters interleave on a shared
store, fail or are abandoned, the checks on one key that are admitted inside a window, wherever it
ends, are at most its limit. -/
theorem admitted_le_requests {moves : List Move} (h : (run quota moves).Orderly) (key : String)
    (t : Int) :
    ((run quota moves).flights.countP fun f =>
      f.within (quota key).span key t && f.admitted) ≤ (quota key).requests := by
  induction moves using List.reverseRecOn with
  | nil => exact Nat.zero_le _
  | append_singleton moves m ih =>
      rw [run_append_singleton] at h ⊢
      have hbefore := ih h.of_step
      have hfaithful := faithful_run h.of_step
      rw [← admittedWithin] at hbefore ⊢
      rcases step_cases quota (run quota moves) m with ⟨replica, name, identifier, now, -, hstep⟩
        | ⟨i, f, stage, -, hf, hc, hstep⟩ | ⟨i, f, stage, -, hf, hc, hstep⟩ | hstep
      · rw [hstep]
        have hlaunched : ((run quota moves).launch quota replica name identifier now).admitted
            = false := admitted_eq_false (.inl rfl)
        simpa [admittedWithin, hlaunched] using hbefore
      · rw [hstep] at h ⊢
        have hidle : f.admitted = false := admitted_eq_false (.inl hc)
        cases stage with
        | counting => exact admittedWithin_answer_counting hfaithful hf hc h hbefore
        | undoing count =>
            refine le_of_eq_of_le ?_ hbefore
            exact admittedWithin_set hf hidle (by rfl) _ _ _
        | dating count =>
            refine le_of_eq_of_le ?_ hbefore
            exact admittedWithin_set hf hidle (by rfl) _ _ _
      · rw [hstep]
        refine le_of_eq_of_le ?_ hbefore
        have hidle : f.admitted = false := admitted_eq_false (.inl hc)
        exact admittedWithin_set hf hidle (admitted_eq_false (.inr rfl)) _ _ _
      · rw [hstep]
        exact hbefore

/-- One hit a minute, two limiters: the first to record its hit is admitted, the check that began
before it is not, and the one whose second call is lost passes without a quota. -/
theorem admitted_le_requests_one_a_minute :
    let quota : String → Quota := fun _ => ⟨1, 60⟩
    let moves : List Move :=
      [.start 0 "k" none 1000, .start 1 "k" (some "a") 1000, .call 1, .call 0, .call 0, .call 0,
        .start 0 "k" none 1030, .call 2, .lose 2]
    (run quota moves).Orderly ∧
      (run quota moves).flights.map Flight.admitted = [false, true, false] ∧
      ∀ key t, ((run quota moves).flights.countP fun f =>
        f.within (quota key).span key t && f.admitted) ≤ 1 := by
  intro quota moves
  have horderly : (run quota moves).Orderly := ⟨by decide, by decide, by decide⟩
  exact ⟨horderly, by decide, admitted_le_requests horderly⟩

end Traffic

/-! ### When a check is turned away -/

namespace Flight

/-- The check has recorded its hit, or has lost the call that would have. -/
def counted (f : Flight) : Bool :=
  match f.course with
  | .going (.waiting .counting) => false
  | _ => true

/-- No call of the check was lost, and its decision, if there is one, has a quota. -/
def undisturbed (f : Flight) : Bool :=
  match f.course with
  | .going (.waiting _) => true
  | .going (.decided d) => d.quota.isSome
  | .lost _ => false

/-- An undisturbed check holds its hit if it was admitted, or if it has yet to remove it. -/
theorem holds_eq_of_undisturbed {f : Flight} (h : f.undisturbed = true) :
    f.holds = (f.admitted || f.undoing) ∧ (f.admitted && f.undoing) = false := by
  obtain ⟨ticket, ((_ | count | count) | d) | stage⟩ := f
  · exact ⟨rfl, rfl⟩
  · exact ⟨rfl, rfl⟩
  · exact ⟨rfl, rfl⟩
  · simp only [undisturbed] at h
    simp [holds, admitted, decision?, undoing, h]
  · exact absurd h (by simp [undisturbed])

/-- The count turns a check away when it reaches the limit. -/
theorem turnedAway_counted (f : Flight) (count : Nat) :
    Flight.turnedAway { f with course := .going (f.check.counted count) } = true
      ↔ f.check.limit ≤ count := by
  by_cases h : f.check.limit ≤ count
  · simp [turnedAway, Check.counted, h]
  · simp [turnedAway, Check.counted, h, Check.admission]

/-- An undisturbed check with a decision has been counted, and was turned away if it is rejected. -/
theorem turnedAway_of_decision {f : Flight} {d : Decision} (h : f.undisturbed = true)
    (hd : f.decision? = some d) : f.counted = true ∧ f.turnedAway = !d.allowed := by
  obtain ⟨ticket, (stage | e) | stage⟩ := f
  · exact absurd hd (by simp [decision?])
  · obtain rfl : e = d := Option.some.inj hd
    exact ⟨rfl, rfl⟩
  · exact absurd h (by simp [undisturbed])

end Flight

namespace Traffic

variable {quota : String → Quota} {s : Traffic}

/-- How many of the flights on a key, inside the window of `t`, hold a hit they have yet to
remove. -/
def undoingWithin (span : Int) (key : String) (t : Int) (flights : List Flight) : Nat :=
  flights.countP fun f => f.within span key t && f.undoing

/-- The held hits of undisturbed flights: those of the admitted, and those yet to be removed. -/
theorem countP_holds_eq {flights : List Flight} (h : ∀ f ∈ flights, f.undisturbed = true)
    (span : Int) (key : String) (t : Int) :
    (flights.countP fun f => f.within span key t && f.holds)
      = admittedWithin span key t flights + undoingWithin span key t flights := by
  induction flights with
  | nil => rfl
  | cons f flights ih =>
      have hrest := ih fun g hg => h g (List.mem_cons_of_mem _ hg)
      obtain ⟨hholds, hnotBoth⟩ :=
        Flight.holds_eq_of_undisturbed (h f List.mem_cons_self)
      simp only [admittedWithin, undoingWithin, List.countP_cons, hholds] at hrest ⊢
      rw [hrest]
      rcases hw : f.within span key t with _ | _ <;> rcases ha : f.admitted with _ | _ <;>
        rcases hu : f.undoing with _ | _ <;> simp [ha, hu] at hnotBoth ⊢ <;> omega

/-- **Runs without losses**: every flight is undisturbed. -/
theorem undisturbed_run {moves : List Move} (h : ∀ i, Move.lose i ∉ moves) :
    ∀ f ∈ (run quota moves).flights, f.undisturbed = true := by
  induction moves using List.reverseRecOn with
  | nil => intro f hf; exact absurd hf List.not_mem_nil
  | append_singleton moves m ih =>
      have hbefore := ih fun i hi => h i (List.mem_append_left _ hi)
      rw [run_append_singleton]
      rcases step_cases quota (run quota moves) m with ⟨replica, key, identifier, now, -, hstep⟩
        | ⟨i, f, stage, -, hf, hc, hstep⟩ | ⟨i, f, stage, hm, -, -, -⟩ | hstep
      · rw [hstep]
        intro g hg
        rcases List.mem_append.mp hg with hg | hg
        · exact hbefore g hg
        · rw [List.mem_singleton.mp hg]
          rfl
      · rw [hstep]
        intro g hg
        rcases List.mem_or_eq_of_mem_set hg with hg | rfl
        · exact hbefore g hg
        · cases stage with
          | counting =>
              simp only [Check.advance, Check.counted]
              split <;> rfl
          | undoing count => rfl
          | dating count => rfl
      · exact absurd (List.mem_append_right _ (List.mem_singleton.mpr hm.symm)) (h i)
      · rw [hstep]
        exact hbefore

/-- A counted check stays counted, and turned away if it was, whatever moves without loss. -/
theorem getElem?_step_of_counted {m : Move} (hm : ∀ i, m ≠ .lose i) {j : Nat} {g : Flight}
    (hg : s.flights[j]? = some g) (hcounted : g.counted = true) :
    ∃ g', (s.step quota m).flights[j]? = some g' ∧ g'.toTicket = g.toTicket ∧
      g'.counted = true ∧ g'.turnedAway = g.turnedAway := by
  rcases s.step_cases quota m with ⟨replica, key, identifier, now, -, hstep⟩
    | ⟨i, f, stage, -, hf, hc, hstep⟩ | ⟨i, f, stage, hlose, -, -, -⟩ | hstep
  · refine ⟨g, ?_, rfl, hcounted, rfl⟩
    rw [hstep, List.getElem?_append_left (List.getElem?_eq_some_iff.mp hg).1, hg]
  · rw [hstep]
    change ∃ g', (s.flights.set i _)[j]? = some g' ∧ _
    by_cases hij : i = j
    · subst hij
      rw [hg, Option.some.injEq] at hf
      subst hf
      refine ⟨_, List.getElem?_set_self (List.getElem?_eq_some_iff.mp hg).1, rfl, ?_⟩
      cases stage with
      | counting => exact absurd hcounted (by simp [Flight.counted, hc])
      | undoing count => exact ⟨rfl, by simp [Flight.turnedAway, Check.advance, hc]⟩
      | dating count => exact ⟨rfl, by simp [Flight.turnedAway, Check.advance, Check.refusal, hc]⟩
    · exact ⟨g, by rw [List.getElem?_set_ne hij, hg], rfl, hcounted, rfl⟩
  · exact absurd hlose (hm i)
  · exact ⟨g, by rw [hstep, hg], rfl, hcounted, rfl⟩

/-- The same over any number of moves. -/
theorem getElem?_run_append_of_counted {moves later : List Move}
    (hlater : ∀ i, Move.lose i ∉ later) {j : Nat} {g : Flight}
    (hg : (run quota moves).flights[j]? = some g) (hcounted : g.counted = true) :
    ∃ g', (run quota (moves ++ later)).flights[j]? = some g' ∧ g'.toTicket = g.toTicket ∧
      g'.counted = true ∧ g'.turnedAway = g.turnedAway := by
  induction later using List.reverseRecOn with
  | nil => exact ⟨g, by rw [List.append_nil, hg], rfl, hcounted, rfl⟩
  | append_singleton later m ih =>
      obtain ⟨g₁, hg₁, hticket₁, hcounted₁, haway₁⟩ :=
        ih fun i hi => hlater i (List.mem_append_left _ hi)
      rw [← List.append_assoc, run_append_singleton]
      obtain ⟨g₂, hg₂, hticket₂, hcounted₂, haway₂⟩ := getElem?_step_of_counted
        (fun i hi => hlater i (List.mem_append_right _ (List.mem_singleton.mpr hi.symm)))
        hg₁ hcounted₁
      exact ⟨g₂, hg₂, hticket₂.trans hticket₁, hcounted₂, haway₂.trans haway₁⟩

/-- **Every counted check has a moment at which it was counted**: the first of its calls. -/
theorem exists_first_call {moves : List Move} (hmoves : ∀ i, Move.lose i ∉ moves) {j : Nat}
    {g : Flight} (hg : (run quota moves).flights[j]? = some g) (hcounted : g.counted = true) :
    ∃ before after f, moves = before ++ .call j :: after ∧
      (run quota before).flights[j]? = some f ∧ f.course = .going (.waiting .counting) := by
  induction moves using List.reverseRecOn generalizing g with
  | nil => exact absurd hg (by simp [run])
  | append_singleton moves m ih =>
      have hbefore : ∀ i, Move.lose i ∉ moves := fun i hi => hmoves i (List.mem_append_left _ hi)
      -- Either the check was counted before the last move, or that move was its first call.
      have hearlier : ∀ g₀, (run quota moves).flights[j]? = some g₀ → g₀.counted = true →
          ∃ before after f, moves ++ [m] = before ++ .call j :: after ∧
            (run quota before).flights[j]? = some f ∧ f.course = .going (.waiting .counting) := by
        intro g₀ hg₀ hcounted₀
        obtain ⟨before, after, f, rfl, hf, hc⟩ := ih hbefore hg₀ hcounted₀
        exact ⟨before, after ++ [m], f, by simp, hf, hc⟩
      rw [run_append_singleton] at hg
      rcases step_cases quota (run quota moves) m with ⟨replica, key, identifier, now, -, hstep⟩
        | ⟨i, f, stage, hm, hf, hc, hstep⟩ | ⟨i, f, stage, hm, -, -, -⟩ | hstep
      · rw [hstep] at hg
        rcases Nat.lt_or_ge j (run quota moves).flights.length with hj | hj
        · rw [List.getElem?_append_left hj] at hg
          exact hearlier g hg hcounted
        · rw [List.getElem?_append_right hj] at hg
          obtain rfl := List.mem_singleton.mp (List.mem_of_getElem? hg)
          exact absurd hcounted (by simp [launch, Flight.counted])
      · rw [hstep] at hg
        change ((run quota moves).flights.set i _)[j]? = some g at hg
        by_cases hij : i = j
        · subst hij
          cases stage with
          | counting => exact ⟨moves, [], f, by rw [hm], hf, hc⟩
          | undoing count => exact hearlier f hf (by simp [Flight.counted, hc])
          | dating count => exact hearlier f hf (by simp [Flight.counted, hc])
        · rw [List.getElem?_set_ne hij] at hg
          exact hearlier g hg hcounted
      · exact absurd (List.mem_append_right _ (List.mem_singleton.mpr hm.symm)) (hmoves i)
      · rw [hstep] at hg
        exact hearlier g hg hcounted

/-- **What turns a check away**: at its first call, the admitted checks inside its window and the
hits in it that wait for their removal together reach the limit. -/
theorem turnedAway_iff {moves : List Move} (hmoves : ∀ i, Move.lose i ∉ moves)
    (h : (run quota moves).Orderly) {i : Nat} {g : Flight}
    (hg : (run quota moves).flights[i]? = some g) (hcounted : g.counted = true) :
    ∃ before after f, moves = before ++ .call i :: after ∧
      (run quota before).flights[i]? = some f ∧ f.course = .going (.waiting .counting) ∧
      f.toTicket = g.toTicket ∧
      (g.turnedAway = true ↔ (quota g.check.key).requests
        ≤ admittedWithin (quota g.check.key).span g.check.key g.check.now (run quota before).flights
          + undoingWithin (quota g.check.key).span g.check.key g.check.now
              (run quota before).flights) := by
  obtain ⟨before, after, f, rfl, hf, hc⟩ := exists_first_call hmoves hg hcounted
  have hsplit : before ++ .call i :: after = (before ++ [.call i]) ++ after := by simp
  rw [hsplit] at h hg
  have hcall : run quota (before ++ [.call i]) = (run quota before).answer i f .counting := by
    rw [run_append_singleton]
    simp only [step, hf, hc]
  have horderly := h.of_run_append
  rw [hcall] at horderly
  have hbefore : (run quota before).Orderly := by
    rw [← hcall, run_append_singleton] at horderly
    exact horderly.of_step
  have hfaithful := faithful_run hbefore
  have hcount := hfaithful.count_eq hf horderly
  have hlimit := (hfaithful.numbered.ofQuota f.toTicket
    (List.mem_map_of_mem (List.mem_of_getElem? hf))).1
  rw [countP_holds_eq (undisturbed_run fun j hj => hmoves j (List.mem_append_left _ hj))] at hcount
  set count := ((run quota before).store.recordHit f.check.key f.check.member f.check.now
    f.check.windowStart f.check.ttl).1 with hcountDef
  -- The check as its first call left it, which later moves do not turn round.
  have hafter : (run quota (before ++ [.call i])).flights[i]?
      = some { f with course := .going (f.check.counted count) } := by
    rw [hcall]
    exact List.getElem?_set_self (List.getElem?_eq_some_iff.mp hf).1
  have hnow : Flight.counted { f with course := .going (f.check.counted count) } = true := by
    simp only [Check.counted]
    split <;> rfl
  obtain ⟨g', hg', hticket, -, haway⟩ := getElem?_run_append_of_counted
    (fun j hj => hmoves j (List.mem_append_right _ (List.mem_cons_of_mem _ hj))) hafter hnow
  obtain rfl : g' = g := Option.some.inj (hg'.symm.trans hg)
  refine ⟨before, after, f, rfl, hf, hc, hticket.symm, ?_⟩
  have hcheck : g'.check = f.check := congrArg Ticket.check hticket
  rw [haway, hcheck, ← hlimit, ← hcount]
  exact Flight.turnedAway_counted f count

/-- **A check is rejected exactly if**, at its first call, the admitted checks inside its window and
the hits in it of others that are turned away but not removed yet together reach the limit. -/
theorem rejected_iff {moves : List Move} (hmoves : ∀ i, Move.lose i ∉ moves)
    (h : (run quota moves).Orderly) {i : Nat} {g : Flight} {d : Decision}
    (hg : (run quota moves).flights[i]? = some g) (hd : g.decision? = some d) :
    ∃ before after f, moves = before ++ .call i :: after ∧
      (run quota before).flights[i]? = some f ∧ f.course = .going (.waiting .counting) ∧
      f.toTicket = g.toTicket ∧
      (d.allowed = false ↔ (quota g.check.key).requests
        ≤ ((run quota before).flights.countP fun e =>
            e.within (quota g.check.key).span g.check.key g.check.now && e.admitted)
          + (run quota before).flights.countP fun e =>
            e.within (quota g.check.key).span g.check.key g.check.now && e.undoing) := by
  have hundisturbed := undisturbed_run hmoves g (List.mem_of_getElem? hg)
  obtain ⟨hcounted, haway⟩ := Flight.turnedAway_of_decision hundisturbed hd
  rw [← Bool.not_eq_true', ← haway]
  exact turnedAway_iff hmoves h hg hcounted

/-- Of three checks on `k`, one hit a minute, the second is turned away for the first. Its hit is
removed only after the third has been counted, a second later, when the first has left the window. -/
def outlived : List Move :=
  [.start 0 "k" none 1000, .call 0, .start 0 "k" none 1059, .call 1, .start 1 "k" none 1060,
    .call 2, .call 1, .call 1, .call 2, .call 2]

/-- The third of the `outlived` checks was counted against a hit that waited for its removal. -/
theorem rejected_iff_outlived :
    let quota : String → Quota := fun _ => ⟨1, 60⟩
    (∀ i, Move.lose i ∉ outlived) ∧ (run quota outlived).Orderly ∧
      ∃ g d, (run quota outlived).flights[2]? = some g ∧ g.decision? = some d ∧
        ∃ before after f, outlived = before ++ .call 2 :: after ∧
          (run quota before).flights[2]? = some f ∧ f.course = .going (.waiting .counting) ∧
          f.toTicket = g.toTicket ∧
          (d.allowed = false ↔ (quota g.check.key).requests
            ≤ ((run quota before).flights.countP fun e =>
                e.within (quota g.check.key).span g.check.key g.check.now && e.admitted)
              + (run quota before).flights.countP fun e =>
                e.within (quota g.check.key).span g.check.key g.check.now && e.undoing) := by
  have hmoves : ∀ i, Move.lose i ∉ outlived := by simp [outlived]
  have horderly : (run (fun _ => ⟨1, 60⟩) outlived).Orderly := ⟨by decide, by decide, by decide⟩
  exact ⟨hmoves, horderly, _, _, rfl, rfl, rejected_iff hmoves horderly rfl rfl⟩

/-- **Rejected, and nobody admitted**: no call is lost, the window holds no admitted check at all,
and the third of the `outlived` checks is rejected under a limit of one. -/
theorem rejected_without_admitted :
    let quota : String → Quota := fun _ => ⟨1, 60⟩
    (∀ i, Move.lose i ∉ outlived) ∧ (run quota outlived).Orderly ∧
      ∃ g d, (run quota outlived).flights[2]? = some g ∧ g.decision? = some d ∧
        d.allowed = false ∧
        ¬ (quota g.check.key).requests ≤ (run quota outlived).flights.countP fun e =>
          e.within (quota g.check.key).span g.check.key g.check.now && e.admitted := by
  refine ⟨by simp [outlived], ⟨by decide, by decide, by decide⟩, _, _, rfl, rfl, rfl, ?_⟩
  decide

end Traffic

end Tollgate
