import Mathlib.Data.List.Pairwise
import Tollgate.Admission
import Tollgate.Proofs.Window.SlidingWindow

/-!
# Two scopes on one store

Admission checks the window of an address, and then the window of a user. Both are kept in one store,
under keys that never meet, whatever texts the addresses and the users are (`Limiter.globalKey_ne`),
so that every key has one quota (`Limiter.quotaOf`), and a run of admissions is a run of checks. What
admission does for one caller is one of three things (`Admission.Outcome`), and all that is said about
its checks, its verdict and the limiter afterwards is said by these cases.

## Main results

* `Attempt.Orderly.of_count`: a run is orderly if no second has too many attempts.
* `Admission.outcome_check`: what admission does for a caller.
* `Admission.admittedSeconds_globalKey`, `Admission.admittedSeconds_userKey`: what a caller adds to
  the windows of addresses and users.
* `Admission.tracks_check`: the checks of a caller are answered by the sliding windows.
* `Admission.live_check_of_refused`: a caller refused for its address leaves the windows of all users
  as they are.

## Conventions

* The store answers all calls, without delay.
-/

namespace Tollgate

/-! ### Pace -/

/-- **A run is orderly** if its seconds are sorted and in range, and no second has more attempts than
there are sequence numbers. -/
theorem Attempt.Orderly.of_count {attempts : List Attempt}
    (hsorted : attempts.Pairwise fun a b => a.now ≤ b.now)
    (hrange : ∀ a ∈ attempts, minSigned64 < a.now ∧ a.now < maxSigned64)
    (hcount : ∀ t, (attempts.countP fun a => a.now = t) ≤ maxUnsigned64 + 1) :
    Orderly attempts where
  sorted := hsorted
  inRange := hrange
  paced := by
    intro i j a b hij ha hb hsame
    obtain ⟨hi, rfl⟩ := List.getElem?_eq_some_iff.mp ha
    obtain ⟨hj, rfl⟩ := List.getElem?_eq_some_iff.mp hb
    have hle := List.pairwise_iff_getElem.mp hsorted
    -- all attempts from the one to the other are of their second
    have hall : ((attempts.drop i).take (j - i + 1)).countP (fun c => c.now = attempts[i].now)
        = j - i + 1 := by
      rw [List.countP_eq_length.mpr, List.length_take, List.length_drop]
      · omega
      · intro c hc
        obtain ⟨k, hk, rfl⟩ := List.getElem_of_mem hc
        simp only [List.length_take, List.length_drop] at hk
        simp only [List.getElem_take, List.getElem_drop, decide_eq_true_eq]
        have hlow : attempts[i].now ≤ attempts[i + k].now := by
          rcases Nat.eq_zero_or_pos k with rfl | hpos
          · exact Int.le_refl _
          · exact hle i (i + k) _ _ (by omega)
        have hhigh : attempts[i + k].now ≤ attempts[j].now := by
          rcases Nat.lt_or_ge (i + k) j with hlt | hge
          · exact hle (i + k) j _ _ hlt
          · obtain rfl : i + k = j := by omega
            exact Int.le_refl _
        omega
    have hsub : ((attempts.drop i).take (j - i + 1)).Sublist attempts :=
      (List.take_sublist _ _).trans (List.drop_sublist _ _)
    have hfew := hcount attempts[i].now
    have hmore : j - i + 1 ≤ attempts.countP fun c => c.now = attempts[i].now :=
      hall ▸ hsub.countP_le
    omega

namespace Limiter

/-! ### Keys -/

/-- The key is one of a user. -/
def isUserKey (key : String) : Bool :=
  "ratelimit:user:".toList.isPrefixOf key.toList

/-- The quota of a key. -/
def quotaOf (l : Limiter) (key : String) : Quota :=
  if isUserKey key then l.perUser else l.global

/-- The keys of users are keys of users. -/
theorem isUserKey_userKey (user : String) : isUserKey (userKey user) = true := by
  -- the equation lemmas of the keys take long to make
  delta userKey
  rw [isUserKey, String.toList_append]
  exact List.isPrefixOf_iff_prefix.mpr (List.prefix_append ..)

/-- **The keys of addresses are no keys of users**, whatever the texts are. -/
theorem isUserKey_globalKey (address : String) : isUserKey (globalKey address) = false := by
  delta globalKey
  rw [isUserKey, String.toList_append]
  rfl

/-- The key of an address is none of a user. -/
theorem globalKey_ne (address user : String) : globalKey address ≠ userKey user := by
  intro hsame
  have huser := isUserKey_userKey user
  rw [← hsame, isUserKey_globalKey] at huser
  cases huser

/-- Different addresses have different keys. -/
theorem globalKey_injective {address address' : String}
    (h : globalKey address = globalKey address') : address = address' := by
  delta globalKey at h
  exact (String.append_right_inj _).mp h

/-- Different users have different keys. -/
theorem userKey_injective {user user' : String} (h : userKey user = userKey user') :
    user = user' := by
  delta userKey at h
  exact (String.append_right_inj _).mp h

/-- The quota of an address. -/
theorem quotaOf_globalKey (l : Limiter) (address : String) :
    l.quotaOf (globalKey address) = l.global := by
  rw [quotaOf, isUserKey_globalKey, if_neg Bool.false_ne_true]

/-- The quota of a user. -/
theorem quotaOf_userKey (l : Limiter) (user : String) : l.quotaOf (userKey user) = l.perUser := by
  rw [quotaOf, isUserKey_userKey, if_pos rfl]

/-- A check keeps the quotas. -/
theorem quotas_check (l : Limiter) (faults : Faults) (key : String) (quota : Quota)
    (identifier : Option String) (now : Int) :
    (l.check faults key quota identifier now).limiter.global = l.global ∧
      (l.check faults key quota identifier now).limiter.perUser = l.perUser := by
  rw [check]
  split
  · simp only
    split <;> exact ⟨rfl, rfl⟩
  · exact ⟨rfl, rfl⟩

/-- A check keeps the quotas of all keys. -/
theorem quotaOf_check (l : Limiter) (faults : Faults) (key : String) (quota : Quota)
    (identifier : Option String) (now : Int) :
    (l.check faults key quota identifier now).limiter.quotaOf = l.quotaOf := by
  obtain ⟨hglobal, huser⟩ := l.quotas_check faults key quota identifier now
  funext other
  rw [quotaOf, quotaOf, hglobal, huser]

end Limiter

/-! ### Calls of one check -/

/-- The key that a call records a hit on. -/
def StoreCall.recorded? : StoreCall → Option String
  | recordHit key _ _ _ _ => some key
  | removeMember _ _ | oldestScore _ => none

/-- A check without faults records one hit, on its key. -/
theorem Check.recorded_run_faultless (c : Check) (deadlineMillis : Nat) (s : Store) :
    (c.run {} deadlineMillis s).2.calls.filterMap StoreCall.recorded? = [c.key] := by
  by_cases hfull : c.limit ≤ (s.recordHit c.key c.member c.now c.windowStart c.ttl).1
  · simp [run, runFrom, CheckRun.step, Faults.ofStage, advance, counted, hfull, call,
      StoreCall.recorded?]
  · simp [run, runFrom, CheckRun.step, Faults.ofStage, advance, counted, hfull, call,
      StoreCall.recorded?]

/-- A check of one key leaves what counts for the others, now and later. -/
theorem Check.live_verdict_of_ne {c : Check} {s : Store} (h : (Keyed.keys s.sets).Nodup)
    {key : String} (hne : key ≠ c.key) {later : Int} (hle : c.now ≤ later) (windowStart : Int) :
    ((c.verdict s).2.hitSet key).live later windowStart
      = (s.hitSet key).live later windowStart := by
  have hrecorded : ((s.recordHit c.key c.member c.now c.windowStart c.ttl).2.hitSet key).live later
      windowStart = (s.hitSet key).live later windowStart := by
    rw [Store.hitSet_recordHit_of_ne hne, Store.live_sweep h key hle]
  simp only [verdict]
  split
  · rw [Store.hitSet_removeMember_of_ne _ hne, hrecorded]
  · exact hrecorded

namespace Limiter

/-- The hits of a key that count at `now` for a window that starts after `windowStart`. -/
def live (l : Limiter) (key : String) (now windowStart : Int) : List (String × Int) :=
  l.store.elim [] fun s => (s.hitSet key).live now windowStart

/-- A check of one key leaves what counts for the others, now and later. -/
theorem live_check_of_ne {quota : String → Quota} {l : Limiter} {past : List (Attempt × Decision)}
    (h : Tracks quota l past) {now : Int} (hpast : ∀ x ∈ past, x.1.now ≤ now) {key other : String}
    (hne : other ≠ key) (q : Quota) (identifier : Option String) {later : Int} (hle : now ≤ later)
    (windowStart : Int) :
    (l.check {} key q identifier now).limiter.live other later windowStart
      = l.live other later windowStart := by
  obtain ⟨s, hstore, hshows⟩ := h.shows
  obtain ⟨-, hlimiter⟩ := check_faultless h.enabled hstore key q identifier now
  have hdistinct : (Keyed.keys s.sets).Nodup := (hshows key now hpast).distinct
  rw [hlimiter, live, live, hstore]
  exact Check.live_verdict_of_ne (c := l.checkOf key q identifier now) hdistinct hne hle windowStart

/-- A check without faults records one hit, on its key. -/
theorem recorded_check {l : Limiter} {s : Store} (henabled : l.enabled = true)
    (hstore : l.store = some s) (key : String) (quota : Quota) (identifier : Option String)
    (now : Int) :
    (l.check {} key quota identifier now).calls.filterMap StoreCall.recorded? = [key] := by
  have hrecorded := (l.checkOf key quota identifier now).recorded_run_faultless l.timeoutMillis s
  simp only [checkOf] at hrecorded
  simp only [check, henabled, hstore]
  split
  · next hrun => rwa [hrun] at hrecorded
  · next hrun => rwa [hrun] at hrecorded

end Limiter

/-! ### One caller -/

namespace Admission

/-- The check of the window of a caller's address. -/
def globalCheck (l : Limiter) (caller : Caller) (seconds : Scope → Int) : Attempt × Decision :=
  (⟨Limiter.globalKey caller.address, some caller.address, seconds .global⟩,
    (l.checkGlobal {} caller.address (seconds .global)).decision)

/-- The check of the window of a user, behind that of the address. -/
def userCheck (l : Limiter) (caller : Caller) (seconds : Scope → Int) (user : String) :
    Attempt × Decision :=
  (⟨Limiter.userKey user, some user, seconds .user⟩,
    ((l.checkGlobal {} caller.address (seconds .global)).limiter.checkUser {} user
      (seconds .user)).decision)

/-- The checks that are made of a caller: of the address, and if that is allowed of the user as well,
if there is one. -/
def checks (l : Limiter) (caller : Caller) (seconds : Scope → Int) : List (Attempt × Decision) :=
  globalCheck l caller seconds ::
    if (globalCheck l caller seconds).2.allowed then
      (caller.user.map (userCheck l caller seconds)).toList
    else []

/-- The check of the user is made if the address is allowed. -/
theorem userCheck_mem_checks {l : Limiter} {caller : Caller} {seconds : Scope → Int} {user : String}
    (h : (globalCheck l caller seconds).2.allowed = true) (huser : caller.user = some user) :
    userCheck l caller seconds user ∈ checks l caller seconds := by
  rw [checks, if_pos h, huser]
  exact List.mem_cons_of_mem _ (List.mem_singleton.mpr rfl)

/-- The keys that are checked. -/
theorem map_key_checks (l : Limiter) (caller : Caller) (seconds : Scope → Int) :
    (checks l caller seconds).map (fun c => c.1.key) = Limiter.globalKey caller.address ::
      if (globalCheck l caller seconds).2.allowed then (caller.user.map Limiter.userKey).toList
      else [] := by
  rw [checks, List.map_cons]
  split
  · cases caller.user <;> rfl
  · rfl

/-- **What admission does for a caller.** -/
inductive Outcome (l : Limiter) (caller : Caller) (seconds : Scope → Int) (a : Admitted) : Prop where
  /-- The caller is refused for its address, and no other window is looked at. -/
  | crowded (refused : (globalCheck l caller seconds).2.allowed = false)
      (made : checks l caller seconds = [globalCheck l caller seconds])
      (verdict : a.verdict = .refused .global (globalCheck l caller seconds).2)
      (after : a.limiter = (l.checkGlobal {} caller.address (seconds .global)).limiter)
      (calls : a.calls = (l.checkGlobal {} caller.address (seconds .global)).calls)
  /-- The caller is let in, and names no user. -/
  | anonymous (unnamed : caller.user = none)
      (allowed : (globalCheck l caller seconds).2.allowed = true)
      (made : checks l caller seconds = [globalCheck l caller seconds])
      (verdict : a.verdict = .admitted caller (globalCheck l caller seconds).2.quota)
      (after : a.limiter = (l.checkGlobal {} caller.address (seconds .global)).limiter)
      (calls : a.calls = (l.checkGlobal {} caller.address (seconds .global)).calls)
  /-- The user is checked, and decides. -/
  | known (user : String) (named : caller.user = some user)
      (allowed : (globalCheck l caller seconds).2.allowed = true)
      (made : checks l caller seconds
        = [globalCheck l caller seconds, userCheck l caller seconds user])
      (verdict : a.verdict = if (userCheck l caller seconds user).2.allowed
        then .admitted caller (globalCheck l caller seconds).2.quota
        else .refused .user (userCheck l caller seconds user).2)
      (after : a.limiter
        = ((l.checkGlobal {} caller.address (seconds .global)).limiter.checkUser {} user
          (seconds .user)).limiter)
      (calls : a.calls = (l.checkGlobal {} caller.address (seconds .global)).calls
        ++ ((l.checkGlobal {} caller.address (seconds .global)).limiter.checkUser {} user
          (seconds .user)).calls)

/-- **Admission does one of these.** -/
theorem outcome_check (l : Limiter) (caller : Caller) (seconds : Scope → Int) :
    Outcome l caller seconds (check l {} caller seconds) := by
  rcases hallowed : (globalCheck l caller seconds).2.allowed with _ | _
  · have hfirst : ¬ (l.checkGlobal {} caller.address (seconds .global)).decision.allowed = true :=
      Bool.not_eq_true _ |>.mpr hallowed
    have hmade : checks l caller seconds = [globalCheck l caller seconds] := by
      rw [checks, hallowed]
      rfl
    rw [check, if_pos hfirst]
    exact .crowded hallowed hmade rfl rfl rfl
  · have hfirst : (l.checkGlobal {} caller.address (seconds .global)).decision.allowed = true :=
      hallowed
    have hmade : checks l caller seconds = globalCheck l caller seconds ::
        (caller.user.map (userCheck l caller seconds)).toList := by
      rw [checks, if_pos hallowed]
    rw [check, if_neg (not_not_intro hfirst)]
    rcases huser : caller.user with _ | user
    · rw [huser] at hmade
      exact .anonymous huser hallowed hmade rfl rfl rfl
    · rw [huser] at hmade
      exact .known user huser hallowed hmade rfl rfl rfl

/-- A caller is refused for its address. -/
theorem verdict_of_crowded {l : Limiter} {caller : Caller} {seconds : Scope → Int}
    (h : (globalCheck l caller seconds).2.allowed = false) :
    (check l {} caller seconds).verdict = .refused .global (globalCheck l caller seconds).2 := by
  cases outcome_check l caller seconds with
  | crowded _ _ verdict => exact verdict
  | anonymous _ allowed => simp [h] at allowed
  | known _ _ allowed => simp [h] at allowed

/-- A caller is refused for the user that it names. -/
theorem verdict_of_exceeded {l : Limiter} {caller : Caller} {seconds : Scope → Int} {user : String}
    (hallowed : (globalCheck l caller seconds).2.allowed = true) (huser : caller.user = some user)
    (h : (userCheck l caller seconds user).2.allowed = false) :
    (check l {} caller seconds).verdict = .refused .user (userCheck l caller seconds user).2 := by
  cases outcome_check l caller seconds with
  | crowded refused => simp [hallowed] at refused
  | anonymous unnamed => simp [huser] at unnamed
  | known user' named _ _ verdict =>
      obtain rfl : user = user' := Option.some.inj (huser.symm.trans named)
      rw [verdict, h, if_neg Bool.false_ne_true]

/-- A caller is admitted if all checks that are made of it are allowed. -/
theorem verdict_of_allowed {l : Limiter} {caller : Caller} {seconds : Scope → Int}
    (hallowed : (globalCheck l caller seconds).2.allowed = true)
    (h : ∀ user, caller.user = some user → (userCheck l caller seconds user).2.allowed = true) :
    (check l {} caller seconds).verdict = .admitted caller (globalCheck l caller seconds).2.quota := by
  cases outcome_check l caller seconds with
  | crowded refused => simp [hallowed] at refused
  | anonymous _ _ _ verdict => exact verdict
  | known user named _ _ verdict => rw [verdict, if_pos (h user named)]

/-- **What the checks of a caller add to the window of an address**: the check of that address, if it
is allowed. -/
theorem admittedSeconds_globalKey (l : Limiter) (caller : Caller) (seconds : Scope → Int)
    (span : Int) (address : String) (t : Int) :
    admittedSeconds span (Limiter.globalKey address) t (checks l caller seconds)
      = if caller.address = address ∧ (globalCheck l caller seconds).2.allowed = true ∧
          t - span < seconds .global
        then [seconds .global] else [] := by
  have hkey : (globalCheck l caller seconds).1.key = Limiter.globalKey address
      ↔ caller.address = address :=
    ⟨Limiter.globalKey_injective, congrArg Limiter.globalKey⟩
  have hglobal := admittedSeconds_singleton span (Limiter.globalKey address) t
    (globalCheck l caller seconds)
  simp only [hkey] at hglobal
  cases outcome_check l caller seconds with
  | crowded _ made => exact made ▸ hglobal
  | anonymous _ _ made => exact made ▸ hglobal
  | known user _ _ made =>
      have huser : admittedSeconds span (Limiter.globalKey address) t [userCheck l caller seconds user]
          = [] := by
        rw [admittedSeconds_singleton, if_neg fun h => (Limiter.globalKey_ne _ _).symm h.1]
      rw [made, ← List.singleton_append, admittedSeconds_append, huser, List.append_nil]
      exact hglobal

/-- **What the checks of a caller add to the window of a user**: the check of that user, if it is made
and allowed. -/
theorem admittedSeconds_userKey (l : Limiter) (caller : Caller) (seconds : Scope → Int)
    (span : Int) (user : String) (t : Int) :
    admittedSeconds span (Limiter.userKey user) t (checks l caller seconds)
      = if caller.user = some user ∧ (globalCheck l caller seconds).2.allowed = true ∧
          (userCheck l caller seconds user).2.allowed = true ∧ t - span < seconds .user
        then [seconds .user] else [] := by
  have hglobal : admittedSeconds span (Limiter.userKey user) t [globalCheck l caller seconds]
      = [] := by
    rw [admittedSeconds_singleton, if_neg fun h => Limiter.globalKey_ne _ _ h.1]
  cases outcome_check l caller seconds with
  | crowded refused made => rw [made, hglobal, if_neg (by simp [refused])]
  | anonymous unnamed _ made => rw [made, hglobal, if_neg (by simp [unnamed])]
  | known user' named allowed made =>
      rw [made, ← List.singleton_append, admittedSeconds_append, hglobal, List.nil_append,
        admittedSeconds_singleton]
      by_cases huser : user' = user
      · subst huser
        simp [named, allowed, userCheck]
      · rw [if_neg fun h => huser (Limiter.userKey_injective h.1),
          if_neg fun h => huser (Option.some.inj (named.symm.trans h.1))]

/-- Admission keeps the quotas of all keys. -/
theorem quotaOf_check (l : Limiter) (caller : Caller) (seconds : Scope → Int) :
    (check l {} caller seconds).limiter.quotaOf = l.quotaOf := by
  have hglobal : (l.checkGlobal {} caller.address (seconds .global)).limiter.quotaOf = l.quotaOf :=
    l.quotaOf_check ..
  cases outcome_check l caller seconds with
  | crowded _ _ _ after => rw [after, hglobal]
  | anonymous _ _ _ _ after => rw [after, hglobal]
  | known user _ _ _ _ after => rw [after, Limiter.checkUser, Limiter.quotaOf_check, hglobal]

variable {l : Limiter} {past : List (Attempt × Decision)} {caller : Caller} {seconds : Scope → Int}

/-- The check of an address is answered by its window, and then tracked. -/
theorem tracks_globalCheck (h : l.Tracks l.quotaOf past)
    (ho : Attempt.Orderly (past.map Prod.fst ++ [(globalCheck l caller seconds).1])) :
    (l.checkGlobal {} caller.address (seconds .global)).limiter.Tracks l.quotaOf
        (past ++ [globalCheck l caller seconds]) ∧
      SlidingDecision l.global (seconds .global)
        (admittedSeconds l.global.span (Limiter.globalKey caller.address) (seconds .global) past)
        (globalCheck l caller seconds).2 := by
  have htracks := h.check ho
  have hanswer := h.answer ho
  simp only [globalCheck, Limiter.quotaOf_globalKey] at htracks hanswer
  exact ⟨htracks, hanswer⟩

/-- The check of a user is answered by its window, and then tracked. -/
theorem tracks_userCheck {user : String} (h : l.Tracks l.quotaOf past)
    (ho : Attempt.Orderly (past.map Prod.fst ++
      [(globalCheck l caller seconds).1, (userCheck l caller seconds user).1])) :
    ((l.checkGlobal {} caller.address (seconds .global)).limiter.checkUser {} user
        (seconds .user)).limiter.Tracks l.quotaOf
          (past ++ [globalCheck l caller seconds, userCheck l caller seconds user]) ∧
      SlidingDecision l.perUser (seconds .user)
        (admittedSeconds l.perUser.span (Limiter.userKey user) (seconds .user) past)
        (userCheck l caller seconds user).2 := by
  have hsplit :
      past.map Prod.fst ++ [(globalCheck l caller seconds).1, (userCheck l caller seconds user).1]
        = (past ++ [globalCheck l caller seconds]).map Prod.fst
          ++ [(userCheck l caller seconds user).1] := by
    simp
  rw [hsplit] at ho
  have hglobal := (tracks_globalCheck h (by simpa using ho.of_append)).1
  have htracks := hglobal.check ho
  have hanswer := hglobal.answer ho
  have hperUser : (l.checkGlobal {} caller.address (seconds .global)).limiter.perUser = l.perUser :=
    (l.quotas_check ..).2
  rw [userCheck, Limiter.checkUser, hperUser]
  simp only [userCheck, Limiter.quotaOf_userKey] at htracks hanswer
  -- the check of the address is no attempt on the user's key
  have hother : admittedSeconds l.perUser.span (Limiter.userKey user) (seconds .user)
      (past ++ [globalCheck l caller seconds])
        = admittedSeconds l.perUser.span (Limiter.userKey user) (seconds .user) past := by
    simp [admittedSeconds, globalCheck, Limiter.globalKey_ne]
  rw [hother] at hanswer
  rw [List.append_assoc] at htracks
  exact ⟨htracks, hanswer⟩

/-- **The checks of a caller are answered by the sliding windows**, and the limiter afterwards has
answered them as well. -/
theorem tracks_check (h : l.Tracks l.quotaOf past)
    (ho : Attempt.Orderly (past.map Prod.fst ++ (checks l caller seconds).map Prod.fst)) :
    (check l {} caller seconds).limiter.Tracks l.quotaOf (past ++ checks l caller seconds) ∧
      ∀ x ∈ checks l caller seconds, SlidingDecision (l.quotaOf x.1.key) x.1.now
        (admittedSeconds (l.quotaOf x.1.key).span x.1.key x.1.now past) x.2 := by
  have hfirst : Attempt.Orderly (past.map Prod.fst ++ [(globalCheck l caller seconds).1]) := by
    rw [checks, List.map_cons, ← List.singleton_append, ← List.append_assoc] at ho
    exact ho.of_append
  obtain ⟨htracks, hanswer⟩ := tracks_globalCheck h hfirst
  have hglobal : SlidingDecision (l.quotaOf (globalCheck l caller seconds).1.key) (seconds .global)
      (admittedSeconds (l.quotaOf (globalCheck l caller seconds).1.key).span
        (globalCheck l caller seconds).1.key (seconds .global) past)
      (globalCheck l caller seconds).2 := by
    simpa only [globalCheck, Limiter.quotaOf_globalKey] using hanswer
  cases outcome_check l caller seconds with
  | crowded _ made _ after _ =>
      rw [made, after]
      exact ⟨htracks, List.forall_mem_singleton.mpr hglobal⟩
  | anonymous _ _ made _ after _ =>
      rw [made, after]
      exact ⟨htracks, List.forall_mem_singleton.mpr hglobal⟩
  | known user _ _ made _ after _ =>
      rw [made] at ho
      obtain ⟨hboth, huser⟩ := tracks_userCheck h ho
      rw [made, after]
      refine ⟨hboth, List.forall_mem_cons.mpr ⟨hglobal, List.forall_mem_singleton.mpr ?_⟩⟩
      simpa only [userCheck, Limiter.quotaOf_userKey] using huser

/-- **One hit is recorded for every check** of a caller, on its key. -/
theorem recorded_check {s : Store} (henabled : l.enabled = true) (hstore : l.store = some s) :
    (check l {} caller seconds).calls.filterMap StoreCall.recorded?
      = (checks l caller seconds).map fun x => x.1.key := by
  have hglobal :
      (l.checkGlobal {} caller.address (seconds .global)).calls.filterMap StoreCall.recorded?
        = [(globalCheck l caller seconds).1.key] :=
    Limiter.recorded_check henabled hstore _ _ _ _
  cases outcome_check l caller seconds with
  | crowded _ made _ _ calls => rw [calls, made, hglobal, List.map_singleton]
  | anonymous _ _ made _ _ calls => rw [calls, made, hglobal, List.map_singleton]
  | known user _ _ made _ _ calls =>
      obtain ⟨-, hafter⟩ := Limiter.check_faultless henabled hstore
        (Limiter.globalKey caller.address) l.global (some caller.address) (seconds .global)
      have huser : (((l.checkGlobal {} caller.address (seconds .global)).limiter.checkUser {} user
          (seconds .user)).calls).filterMap StoreCall.recorded?
            = [(userCheck l caller seconds user).1.key] := by
        rw [Limiter.checkGlobal, hafter]
        refine Limiter.recorded_check ?_ rfl _ _ _ _
        exact henabled
      rw [calls, made, List.filterMap_append, hglobal, huser]
      rfl

/-- **A caller refused for its address** leaves the windows of all users as they are. -/
theorem live_check_of_refused (h : l.Tracks l.quotaOf past)
    (hpast : ∀ x ∈ past, x.1.now ≤ seconds .global)
    (hrefused : (globalCheck l caller seconds).2.allowed = false) (user : String) {later : Int}
    (hle : seconds .global ≤ later) (windowStart : Int) :
    (check l {} caller seconds).limiter.live (Limiter.userKey user) later windowStart
      = l.live (Limiter.userKey user) later windowStart := by
  cases outcome_check l caller seconds with
  | crowded _ _ _ after _ =>
      rw [after]
      exact Limiter.live_check_of_ne h hpast (Limiter.globalKey_ne _ _).symm _ _ hle windowStart
  | anonymous _ allowed => simp [hrefused] at allowed
  | known _ _ allowed => simp [hrefused] at allowed

end Admission

end Tollgate
