import Mathlib.Data.List.Perm.Basic
import Tollgate.Proofs.Window.Member
import Tollgate.Proofs.Window.Verdict

/-!
# Checks that interleave on one store

Several limiters may share a store, and every check makes its calls one at a time, so between two
calls of one check other checks make theirs. `Traffic` is such a store with all checks begun so far,
and a run is a list of moves: a check begins, a check makes its next call, or the next call of a
check comes to nothing, because it failed or because the check was abandoned at its deadline.

The hit of a check is in the store from the call that records it to the call that removes it, if
there is one (`Flight.holds`). `Traffic.Faithful` says that the store holds nothing else: the ledger
of every key is, up to order, the hits of the flights that hold one. It is kept by every move of an
orderly run (`Traffic.faithful_run`), because members are distinct and a check removes its own only.

## Conventions

* Limiters that share a store have distinct nonces, so a limiter is named by its nonce.
* A limiter numbers its checks in the order in which it begins them, by a counter of 64 bits. In an
  orderly run, two checks of one limiter and one second are fewer than `2 ^ 64` checks apart.
* The seconds of the hits do not decrease in the order in which they are recorded. Checks may begin
  in any order.
-/

namespace Tollgate

/-- A place splits a list, and a change there changes nothing else. -/
theorem exists_split_of_getElem? {α : Type} {l : List α} {i : Nat} {a : α} (h : l[i]? = some a) :
    ∃ front back, l = front ++ a :: back ∧ ∀ b, l.set i b = front ++ b :: back := by
  obtain ⟨hi, rfl⟩ := List.getElem?_eq_some_iff.mp h
  refine ⟨l.take i, l.drop (i + 1), ?_, ?_⟩
  · rw [List.getElem_cons_drop, List.take_append_drop]
  · intro b
    rw [List.set_eq_take_append_cons_drop, if_pos hi]

/-- A limiter among those that share a store, named by its nonce of 64 bits. -/
abbrev Nonce := Fin (maxUnsigned64 + 1)

/-- How far a check has come. -/
inductive Course where
  /-- It waits for its next call, or is decided. -/
  | going (progress : Progress)
  /-- The call of this stage came to nothing, and the check ended there. -/
  | lost (stage : Stage)
deriving DecidableEq, Repr

/-- A check as it was begun: by which limiter, and as its check of which number. -/
structure Ticket where
  replica : Nonce
  ordinal : Nat
  check : Check
deriving DecidableEq, Repr

/-- A check on its way. -/
structure Flight extends Ticket where
  course : Course := .going (.waiting .counting)
deriving DecidableEq, Repr

namespace Flight

/-- What the caller is told; a check whose call came to nothing lets it pass without a quota. -/
def decision? (f : Flight) : Option Decision :=
  match f.course with
  | .going (.waiting _) => none
  | .going (.decided d) => some d
  | .lost _ => some .unmetered

/-- Allowed with a quota. -/
def admitted (f : Flight) : Bool :=
  match f.decision? with
  | some d => d.allowed && d.quota.isSome
  | none => false

/-- The hit was recorded behind a full window and is still to be removed. -/
def undoing (f : Flight) : Bool :=
  match f.course with
  | .going (.waiting (.undoing _)) => true
  | _ => false

/-- The window was found full: the check is rejected, or will be if no call of it is lost. -/
def turnedAway (f : Flight) : Bool :=
  match f.course with
  | .going (.waiting .counting) => false
  | .going (.waiting _) => true
  | .going (.decided d) => !d.allowed
  | .lost _ => false

/-- The hit of the check was recorded and has not been removed. -/
def holds (f : Flight) : Bool :=
  match f.course with
  | .going (.waiting (.undoing _)) => true
  | .going (.waiting _) => false
  | .going (.decided d) => d.allowed
  | .lost (.undoing _) => true
  | .lost _ => false

/-- The hit of the check. -/
def hit (f : Flight) : String × Int :=
  (f.check.member, f.check.now)

/-- The check is one of the key, inside the window of `now`. -/
def within (span : Int) (key : String) (now : Int) (f : Flight) : Bool :=
  f.check.key = key ∧ now - span < f.check.now ∧ f.check.now ≤ now

end Flight

/-- What can happen next. -/
inductive Move where
  /-- A limiter begins a check of a key for a caller. -/
  | start (replica : Nonce) (key : String) (identifier : Option String) (now : Int)
  /-- A check makes its next call. -/
  | call (flight : Nat)
  /-- The next call of a check comes to nothing, without effect on the store. -/
  | lose (flight : Nat)
deriving DecidableEq, Repr

/-- A store and the checks begun on it, oldest first, with the seconds of the hits recorded so far,
in the order of their recording. -/
structure Traffic where
  store : Store := .empty
  flights : List Flight := []
  recorded : List Int := []
deriving DecidableEq, Repr

namespace Traffic

/-- The check a limiter begins next. -/
def launch (quota : String → Quota) (s : Traffic) (replica : Nonce) (key : String)
    (identifier : Option String) (now : Int) : Flight :=
  let ordinal := s.flights.countP fun f => f.replica = replica
  { replica
    ordinal
    check :=
      { key
        limit := (quota key).requests
        window := (quota key).windowSeconds
        now
        member := memberText now (identifier.getD Limiter.defaultIdentifier) replica
          (ordinal % (maxUnsigned64 + 1)) } }

/-- A waiting check makes the call of its stage. -/
def answer (s : Traffic) (i : Nat) (f : Flight) (stage : Stage) : Traffic where
  store := (f.check.advance stage s.store).2
  flights := s.flights.set i { f with course := .going (f.check.advance stage s.store).1 }
  recorded := match stage with
    | .counting => s.recorded ++ [f.check.now]
    | _ => s.recorded

/-- One move. A check that does not wait for a call does not move. -/
def step (quota : String → Quota) (s : Traffic) : Move → Traffic
  | .start replica key identifier now =>
    { s with flights := s.flights ++ [s.launch quota replica key identifier now] }
  | .call i =>
    match s.flights[i]? with
    | some f =>
      match f.course with
      | .going (.waiting stage) => s.answer i f stage
      | _ => s
    | none => s
  | .lose i =>
    match s.flights[i]? with
    | some f =>
      match f.course with
      | .going (.waiting stage) =>
        { s with flights := s.flights.set i { f with course := .lost stage } }
      | _ => s
    | none => s

/-- All moves, from an empty store. -/
def run (quota : String → Quota) (moves : List Move) : Traffic :=
  moves.foldl (step quota) {}

/-- One move more. -/
theorem run_append_singleton (quota : String → Quota) (moves : List Move) (m : Move) :
    run quota (moves ++ [m]) = (run quota moves).step quota m := by
  rw [run, List.foldl_append, List.foldl_cons, List.foldl_nil, ← run]

/-! ### What one move does -/

/-- **The moves of a run**, one case each: a check begins, a waiting check makes its call, a waiting
check loses it, or nothing happens. -/
theorem step_cases (quota : String → Quota) (s : Traffic) (m : Move) :
    (∃ replica key identifier now, m = .start replica key identifier now ∧
      s.step quota m =
        { s with flights := s.flights ++ [s.launch quota replica key identifier now] }) ∨
    (∃ i f stage, m = .call i ∧ s.flights[i]? = some f ∧ f.course = .going (.waiting stage) ∧
      s.step quota m = s.answer i f stage) ∨
    (∃ i f stage, m = .lose i ∧ s.flights[i]? = some f ∧ f.course = .going (.waiting stage) ∧
      s.step quota m = { s with flights := s.flights.set i { f with course := .lost stage } }) ∨
    s.step quota m = s := by
  cases m with
  | start replica key identifier now =>
      exact .inl ⟨replica, key, identifier, now, rfl, rfl⟩
  | call i =>
      rcases hf : s.flights[i]? with _ | f
      · exact .inr (.inr (.inr (by simp only [step, hf])))
      · rcases hc : f.course with (stage | d) | stage
        · exact .inr (.inl ⟨i, f, stage, rfl, hf, hc, by simp only [step, hf, hc]⟩)
        · exact .inr (.inr (.inr (by simp only [step, hf, hc])))
        · exact .inr (.inr (.inr (by simp only [step, hf, hc])))
  | lose i =>
      rcases hf : s.flights[i]? with _ | f
      · exact .inr (.inr (.inr (by simp only [step, hf])))
      · rcases hc : f.course with (stage | d) | stage
        · exact .inr (.inr (.inl ⟨i, f, stage, rfl, hf, hc, by simp only [step, hf, hc]⟩))
        · exact .inr (.inr (.inr (by simp only [step, hf, hc])))
        · exact .inr (.inr (.inr (by simp only [step, hf, hc])))

/-- A change of course keeps every place and every ticket. -/
theorem tickets_set {flights : List Flight} {i : Nat} {f : Flight} (hf : flights[i]? = some f)
    (course : Course) :
    (flights.set i { f with course }).map Flight.toTicket = flights.map Flight.toTicket := by
  obtain ⟨front, back, hsplit, hset⟩ := exists_split_of_getElem? hf
  rw [hset, hsplit, List.map_append, List.map_append, List.map_cons, List.map_cons]

/-- A waiting check that makes its call keeps its place and its ticket. -/
theorem tickets_answer {s : Traffic} {i : Nat} {f : Flight} (hf : s.flights[i]? = some f)
    (stage : Stage) :
    (s.answer i f stage).flights.map Flight.toTicket = s.flights.map Flight.toTicket :=
  tickets_set hf _

/-! ### Orderly runs -/

/-- **An orderly run so far**: the clock by which hits are recorded does not step back or leave its
range, and no sequence number comes round within one second. -/
structure Orderly (s : Traffic) : Prop where
  /-- The clock does not step back between two recorded hits. -/
  sorted : s.recorded.Pairwise (· ≤ ·)
  /-- The clock stays strictly between the ends of a signed word. -/
  inRange : ∀ t ∈ s.recorded, minSigned64 < t ∧ t < maxSigned64
  /-- Two checks of one limiter and one second are fewer than `2 ^ 64` checks apart. -/
  paced : ∀ t ∈ s.flights.map Flight.toTicket, ∀ u ∈ s.flights.map Flight.toTicket,
    t.replica = u.replica → t.check.now = u.check.now → u.ordinal - t.ordinal ≤ maxUnsigned64

/-- A run that is orderly was orderly before its last move. -/
theorem Orderly.of_step {quota : String → Quota} {s : Traffic} {m : Move}
    (h : (s.step quota m).Orderly) : s.Orderly := by
  rcases s.step_cases quota m with ⟨replica, key, identifier, now, -, hstep⟩
    | ⟨i, f, stage, -, hf, -, hstep⟩ | ⟨i, f, stage, -, hf, -, hstep⟩ | hstep
  · rw [hstep] at h
    refine ⟨h.sorted, h.inRange, fun t ht u hu => h.paced t ?_ u ?_⟩
    · rw [List.map_append]
      exact List.mem_append_left _ ht
    · rw [List.map_append]
      exact List.mem_append_left _ hu
  · rw [hstep] at h
    have hpaced := h.paced
    rw [tickets_answer hf] at hpaced
    cases stage with
    | counting =>
        exact ⟨(List.pairwise_append.mp h.sorted).1,
          fun t ht => h.inRange t (List.mem_append_left _ ht), hpaced⟩
    | undoing count => exact ⟨h.sorted, h.inRange, hpaced⟩
    | dating count => exact ⟨h.sorted, h.inRange, hpaced⟩
  · rw [hstep] at h
    have hpaced := h.paced
    rw [tickets_set hf] at hpaced
    exact ⟨h.sorted, h.inRange, hpaced⟩
  · rw [hstep] at h
    exact h

/-- A run that is orderly was orderly at every moment before. -/
theorem Orderly.of_run_append {quota : String → Quota} {moves later : List Move}
    (h : (run quota (moves ++ later)).Orderly) : (run quota moves).Orderly := by
  induction later using List.reverseRecOn with
  | nil => rwa [List.append_nil] at h
  | append_singleton later m ih =>
      rw [← List.append_assoc, run_append_singleton] at h
      exact ih h.of_step

/-- The second of a hit that is being recorded is not before those of the others. -/
theorem Orderly.le_of_answer {s : Traffic} {i : Nat} {f : Flight}
    (h : (s.answer i f .counting).Orderly) : ∀ t ∈ s.recorded, t ≤ f.check.now := fun t ht =>
  (List.pairwise_append.mp h.sorted).2.2 t ht _ (List.mem_singleton.mpr rfl)

/-- The second of a hit that is being recorded is in range. -/
theorem Orderly.inRange_of_answer {s : Traffic} {i : Nat} {f : Flight}
    (h : (s.answer i f .counting).Orderly) :
    minSigned64 < f.check.now ∧ f.check.now < maxSigned64 :=
  h.inRange f.check.now (List.mem_append_right _ (List.mem_singleton.mpr rfl))

/-! ### Tickets -/

/-- **How limiters number their checks**: every check is one of its key's quota, its member is made
of its own second and number, and the numbers of one limiter count up. -/
structure Numbered (quota : String → Quota) (tickets : List Ticket) : Prop where
  ofQuota : ∀ t ∈ tickets, t.check.limit = (quota t.check.key).requests ∧
    t.check.window = (quota t.check.key).windowSeconds
  named : ∀ t ∈ tickets, ∃ caller, t.check.member
    = memberText t.check.now caller t.replica (t.ordinal % (maxUnsigned64 + 1))
  ordinal_lt : ∀ t ∈ tickets, t.ordinal < tickets.countP fun u => u.replica = t.replica
  ordered : tickets.Pairwise fun t u => t.replica = u.replica → t.ordinal < u.ordinal

namespace Numbered

variable {quota : String → Quota}

/-- A newly begun check takes the next number of its limiter. -/
theorem launch {s : Traffic} (h : Numbered quota (s.flights.map Flight.toTicket))
    (replica : Nonce) (key : String) (identifier : Option String) (now : Int) :
    Numbered quota
      (s.flights.map Flight.toTicket ++
        [(s.launch quota replica key identifier now).toTicket]) := by
  have hcount : (s.launch quota replica key identifier now).ordinal
      = (s.flights.map Flight.toTicket).countP fun u => u.replica = replica := by
    rw [List.countP_map]
    rfl
  refine
    { ofQuota := ?_
      named := ?_
      ordinal_lt := ?_
      ordered := ?_ }
  · intro t ht
    rcases List.mem_append.mp ht with ht | ht
    · exact h.ofQuota t ht
    · rw [List.mem_singleton.mp ht]
      exact ⟨rfl, rfl⟩
  · intro t ht
    rcases List.mem_append.mp ht with ht | ht
    · exact h.named t ht
    · rw [List.mem_singleton.mp ht]
      exact ⟨_, rfl⟩
  · intro t ht
    rw [List.countP_append]
    rcases List.mem_append.mp ht with ht | ht
    · exact Nat.lt_of_lt_of_le (h.ordinal_lt t ht) (Nat.le_add_right _ _)
    · rw [List.mem_singleton.mp ht, hcount, List.countP_singleton]
      simp only [Traffic.launch, decide_true, if_true]
      exact Nat.lt_succ_self _
  · rw [List.pairwise_append]
    refine ⟨h.ordered, List.pairwise_singleton _ _, ?_⟩
    intro t ht u hu hreplica
    rw [List.mem_singleton.mp hu] at hreplica ⊢
    have hlt := h.ordinal_lt t ht
    rw [hcount, show replica = t.replica from hreplica.symm]
    exact hlt

/-- **No two checks share a member**: the members of one second and one limiter differ in their
numbers, as these are fewer than `2 ^ 64` apart. -/
theorem member_ne {front back : List Ticket} {t : Ticket}
    (h : Numbered quota (front ++ t :: back))
    (hpaced : ∀ x ∈ front ++ t :: back, ∀ y ∈ front ++ t :: back, x.replica = y.replica →
      x.check.now = y.check.now → y.ordinal - x.ordinal ≤ maxUnsigned64) :
    ∀ u ∈ front ++ back, u.check.member ≠ t.check.member := by
  intro u hu heq
  have ht : t ∈ front ++ t :: back := List.mem_append_right _ List.mem_cons_self
  have hu' : u ∈ front ++ t :: back := by
    rcases List.mem_append.mp hu with hu | hu
    · exact List.mem_append_left _ hu
    · exact List.mem_append_right _ (List.mem_cons_of_mem _ hu)
  obtain ⟨callerU, hmemberU⟩ := h.named u hu'
  obtain ⟨callerT, hmemberT⟩ := h.named t ht
  rw [hmemberU, hmemberT] at heq
  obtain ⟨hnow, -, hnonce, hnumber⟩ := memberText_inj (Nat.le_of_lt_succ u.replica.isLt)
    (Nat.le_of_lt_succ t.replica.isLt) heq
  have hreplica : u.replica = t.replica := Fin.ext hnonce
  have hforth := hpaced u hu' t ht hreplica hnow
  have hback := hpaced t ht u hu' hreplica.symm hnow.symm
  have hapart : u.ordinal < t.ordinal ∨ t.ordinal < u.ordinal := by
    obtain ⟨-, hlater, hacross⟩ := List.pairwise_append.mp h.ordered
    rcases List.mem_append.mp hu with hu | hu
    · exact .inl (hacross u hu t List.mem_cons_self hreplica)
    · exact .inr ((List.pairwise_cons.mp hlater).1 u hu hreplica.symm)
  simp only [maxUnsigned64] at *
  omega

end Numbered

/-! ### The hits in the store -/

/-- The hits that flights on a key hold. -/
def heldHits (key : String) (flights : List Flight) : List (String × Int) :=
  (flights.filter fun f => f.check.key = key ∧ f.holds = true).map Flight.hit

/-- The held hits of two runs of flights are those of the first and those of the second. -/
theorem heldHits_append (key : String) (flights later : List Flight) :
    heldHits key (flights ++ later) = heldHits key flights ++ heldHits key later := by
  rw [heldHits, List.filter_append, List.map_append, ← heldHits, ← heldHits]

/-- A flight on another key, or one that holds nothing, adds no hit. -/
theorem heldHits_cons_of_not {key : String} {f : Flight}
    (h : ¬ (f.check.key = key ∧ f.holds = true)) (flights : List Flight) :
    heldHits key (f :: flights) = heldHits key flights := by
  rw [heldHits, List.filter_cons_of_neg (by simpa using h), ← heldHits]

/-- A flight that holds its hit adds it to its key. -/
theorem heldHits_cons_of_holds {f : Flight} (h : f.holds = true) (flights : List Flight) :
    heldHits f.check.key (f :: flights) = f.hit :: heldHits f.check.key flights := by
  rw [heldHits, List.filter_cons_of_pos (by simpa using h), List.map_cons, ← heldHits]

/-- Changing the course of a flight without its hit changes no held hits. -/
theorem heldHits_congr {f g : Flight} (hcheck : g.check = f.check) (hholds : g.holds = f.holds)
    (key : String) (front back : List Flight) :
    heldHits key (front ++ g :: back) = heldHits key (front ++ f :: back) := by
  have hhit : g.hit = f.hit := by rw [Flight.hit, Flight.hit, hcheck]
  rw [heldHits_append, heldHits_append]
  by_cases hf : f.check.key = key ∧ f.holds = true
  · obtain ⟨rfl, hheld⟩ := hf
    rw [heldHits_cons_of_holds hheld, ← hcheck, heldHits_cons_of_holds (hholds.trans hheld), hhit]
  · rw [heldHits_cons_of_not hf, heldHits_cons_of_not (by rw [hcheck, hholds]; exact hf)]

/-- A held hit carries the member of a flight. -/
theorem exists_of_mem_heldHits {key : String} {flights : List Flight} {x : String × Int}
    (h : x ∈ heldHits key flights) : ∃ f ∈ flights, f.check.member = x.1 := by
  obtain ⟨f, hf, rfl⟩ := List.mem_map.mp h
  exact ⟨f, (List.mem_filter.mp hf).1, rfl⟩

/-- **The store holds the hits of the flights and nothing else**: whenever later the hits of a key
are counted, they are up to order the held ones inside the window. -/
structure Faithful (quota : String → Quota) (s : Traffic) : Prop where
  numbered : Numbered quota (s.flights.map Flight.toTicket)
  ledger : ∀ key, ∃ hits, hits.Perm (heldHits key s.flights) ∧
    ∀ since, (∀ t ∈ s.recorded, t ≤ since) → s.store.Shows key (quota key).span since hits

namespace Faithful

variable {quota : String → Quota} {s : Traffic}

/-- An empty store holds no hits, and there are no flights. -/
theorem init (quota : String → Quota) : Faithful quota {} where
  numbered :=
    { ofQuota := by simp
      named := by simp
      ordinal_lt := by simp
      ordered := List.Pairwise.nil }
  ledger := fun key => ⟨[], List.Perm.refl _, fun since _ => .empty key _ since⟩

/-- The window of a flight is that of its key's quota. -/
theorem windowLength_eq (h : Faithful quota s) {f : Flight} (hf : f ∈ s.flights) :
    f.check.windowLength = (quota f.check.key).span := by
  rw [Check.windowLength, (h.numbered.ofQuota f.toTicket (List.mem_map_of_mem hf)).2, Quota.span]

/-- The hits of other flights have other members. -/
theorem member_ne (h : Faithful quota s) (ho : s.Orderly) {front back : List Flight} {f : Flight}
    (hsplit : s.flights = front ++ f :: back) (key : String) :
    ∀ x ∈ heldHits key front ++ heldHits key back, x.1 ≠ f.check.member := by
  have hnumbered := h.numbered
  have hpaced := ho.paced
  rw [hsplit, List.map_append, List.map_cons] at hnumbered hpaced
  intro x hx
  rw [← heldHits_append] at hx
  obtain ⟨g, hg, hmember⟩ := exists_of_mem_heldHits hx
  rw [← hmember]
  refine hnumbered.member_ne hpaced g.toTicket ?_
  rw [← List.map_append]
  exact List.mem_map_of_mem hg

/-- **Recording a hit**: it joins the ledger of its key, and no other ledger changes. -/
theorem answer_counting (h : Faithful quota s) {i : Nat} {f : Flight}
    (hf : s.flights[i]? = some f) (hc : f.course = .going (.waiting .counting))
    (ho : (s.answer i f .counting).Orderly) (hs : s.Orderly) :
    Faithful quota (s.answer i f .counting) := by
  obtain ⟨front, back, hsplit, hset⟩ := exists_split_of_getElem? hf
  have hrange := ho.inRange_of_answer
  have hlength := h.windowLength_eq (List.mem_of_getElem? hf)
  have hidle : f.holds = false := by rw [Flight.holds, hc]
  have hbefore : ∀ key, heldHits key s.flights = heldHits key front ++ heldHits key back := by
    intro key
    rw [hsplit, heldHits_append, heldHits_cons_of_not (by rw [hidle]; simp)]
  refine ⟨?_, fun key => ?_⟩
  · rw [tickets_answer hf]
    exact h.numbered
  · have hflights : (s.answer i f .counting).flights
        = front ++ { f with course := .going (f.check.advance .counting s.store).1 } :: back :=
      hset _
    obtain ⟨hits, hperm, hshows⟩ := h.ledger key
    rw [hbefore] at hperm
    by_cases hkey : f.check.key = key
    · subst hkey
      have hheld : Flight.holds
          { f with course := .going (f.check.advance .counting s.store).1 } = true := by
        simp only [Check.advance, Check.counted]
        split <;> rfl
      refine ⟨hits ++ [f.hit], ?_, fun since hsince => ?_⟩
      · rw [hflights, heldHits_append, heldHits_cons_of_holds hheld]
        exact ((hperm.append_right _).trans (List.perm_append_singleton _ _)).trans
          List.perm_middle.symm
      · have hnew : ∀ x ∈ hits, x.1 ≠ f.check.member := fun x hx =>
          h.member_ne hs hsplit f.check.key x (hperm.mem_iff.mp hx)
        have hshown := hshows f.check.now ho.le_of_answer
        rw [← hlength] at hshown ⊢
        exact (hshown.recordHit_self le_rfl hrange.1 hrange.2 hnew).mono
          (hsince _ (List.mem_append_right _ (List.mem_singleton.mpr rfl)))
    · refine ⟨hits, ?_, fun since hsince => ?_⟩
      · rw [hflights, heldHits_append, heldHits_cons_of_not (by exact fun hall => hkey hall.1)]
        exact hperm
      · have hshown := hshows f.check.now ho.le_of_answer
        exact (hshown.recordHit_of_ne (Ne.symm hkey) le_rfl _ _ _).mono
          (hsince _ (List.mem_append_right _ (List.mem_singleton.mpr rfl)))

/-- **Removing a hit**: the check takes its own hit out of the ledger, and no other. -/
theorem answer_undoing (h : Faithful quota s) {i : Nat} {f : Flight} {count : Nat}
    (hf : s.flights[i]? = some f) (hc : f.course = .going (.waiting (.undoing count)))
    (hs : s.Orderly) : Faithful quota (s.answer i f (.undoing count)) := by
  obtain ⟨front, back, hsplit, hset⟩ := exists_split_of_getElem? hf
  have hheld : f.holds = true := by rw [Flight.holds, hc]
  refine ⟨?_, fun key => ?_⟩
  · rw [tickets_answer hf]
    exact h.numbered
  · have hflights : (s.answer i f (.undoing count)).flights
        = front ++ { f with course := .going (.waiting (.dating count)) } :: back := hset _
    have hafter : heldHits key (s.answer i f (.undoing count)).flights
        = heldHits key front ++ heldHits key back := by
      rw [hflights, heldHits_append, heldHits_cons_of_not (by simp [Flight.holds])]
    obtain ⟨hits, hperm, hshows⟩ := h.ledger key
    by_cases hkey : f.check.key = key
    · subst hkey
      rw [hsplit, heldHits_append, heldHits_cons_of_holds hheld] at hperm
      refine ⟨Keyed.erase f.check.member hits, ?_, fun since hsince => ?_⟩
      · have hothers := Keyed.erase_of_not_mem (h.member_ne hs hsplit f.check.key)
        have herased := (hperm.trans List.perm_middle).filter fun e => e.1 ≠ f.check.member
        rw [List.filter_cons_of_neg (by simp [Flight.hit])] at herased
        rw [hafter, ← hothers]
        exact herased
      · exact (hshows since hsince).removeMember_self f.check.member
    · refine ⟨hits, ?_, fun since hsince => ?_⟩
      · rw [hsplit, heldHits_append, heldHits_cons_of_not fun hall => hkey hall.1] at hperm
        rw [hafter]
        exact hperm
      · exact (hshows since hsince).removeMember_of_ne (Ne.symm hkey) f.check.member

/-- A change of course that changes no store and no hit. -/
theorem set_course (h : Faithful quota s) {i : Nat} {f : Flight} (hf : s.flights[i]? = some f)
    {course : Course} (hholds : Flight.holds { f with course } = f.holds) :
    Faithful quota { s with flights := s.flights.set i { f with course } } := by
  obtain ⟨front, back, hsplit, hset⟩ := exists_split_of_getElem? hf
  refine ⟨?_, fun key => ?_⟩
  · rw [tickets_set hf]
    exact h.numbered
  · obtain ⟨hits, hperm, hshows⟩ := h.ledger key
    refine ⟨hits, ?_, hshows⟩
    rw [hset, heldHits_congr (by rfl) hholds, ← hsplit]
    exact hperm

/-- **One move** of an orderly run keeps the store faithful. -/
theorem step {m : Move} (h : Faithful quota s) (ho : (s.step quota m).Orderly) :
    Faithful quota (s.step quota m) := by
  have hs := ho.of_step
  rcases s.step_cases quota m with ⟨replica, key, identifier, now, -, hstep⟩
    | ⟨i, f, stage, -, hf, hc, hstep⟩ | ⟨i, f, stage, -, hf, hc, hstep⟩ | hstep
  · rw [hstep]
    refine ⟨?_, fun other => ?_⟩
    · rw [List.map_append]
      exact h.numbered.launch replica key identifier now
    · obtain ⟨hits, hperm, hshows⟩ := h.ledger other
      refine ⟨hits, ?_, hshows⟩
      rw [heldHits_append, heldHits_cons_of_not (by simp [launch, Flight.holds])]
      simpa [heldHits] using hperm
  · rw [hstep] at ho ⊢
    cases stage with
    | counting => exact h.answer_counting hf hc ho hs
    | undoing count => exact h.answer_undoing hf hc hs
    | dating count =>
        refine h.set_course hf ?_
        rw [Flight.holds, Flight.holds, hc]
        rfl
  · rw [hstep]
    refine h.set_course hf ?_
    rw [Flight.holds, Flight.holds, hc]
    cases stage <;> rfl
  · rw [hstep]
    exact h

end Faithful

/-- **A whole run** that is orderly leaves a faithful store. -/
theorem faithful_run {quota : String → Quota} {moves : List Move}
    (h : (run quota moves).Orderly) : Faithful quota (run quota moves) := by
  induction moves using List.reverseRecOn with
  | nil => exact .init quota
  | append_singleton moves m ih =>
      rw [run_append_singleton] at h ⊢
      exact (ih h.of_step).step h

end Traffic

end Tollgate
