import Tollgate.Proofs.Http.Fields
import Tollgate.Proofs.Server.Triage
import Tollgate.Proofs.Window.Scopes

/-!
# Two scopes of admission

A request that comes to admission on a path that is not exempt has to pass the window of its address,
and then, if it names a user, the window of that user. What is promised of one such visit
(`Reception.Scoped`) is promised in terms of the visits before it: the window of an address holds the
visits from that address that were allowed for it, the window of a user those of that user, and the
two decide whether the request is passed on and what its caller is told. From this follows how much
any address and any user gets through in a window, whatever others do.

## Main results

* `Reception.tracks_served`, `Server.tracks_meetAll`: the limiter has answered the checks of a visit,
  and of the visits of a life.
* `Steady.orderly`: the checks of steady visits are orderly attempts.
* `Reception.Behind.scoped`: what is promised of a visit behind others.
* `Server.two_scopes`: what is promised of every visit, and of what is passed on in a window, for
  every life of a server that begins to count on an empty store.

## Conventions

* The handler behind admission is `Server.answer`; a request that says that it is too large never
  comes to admission.
* A visit reads the clock for each of its checks, and once more to tell a refused caller how long to
  wait (`Reception.second`, `Reception.refusalSecond`).
* The window at `t` is `(t - n, t]`, where `n` is the configured number of seconds, and `t` any
  second.
* The fields about a quota are the three that are set with one (`QuotaState.field?`); all others are
  those of the handler.
-/

namespace Tollgate

/-! ### Fields about a quota -/

/-- The value of a field, if it is one of those about a quota. -/
def QuotaState.field? (q : QuotaState) (name : HeaderName) : Option Bytes :=
  if name = .rateLimit then some (Bytes.ofText (toString q.limit))
  else if name = .rateRemaining then some (Bytes.ofText (toString q.remaining))
  else if name = .rateReset then some (Bytes.ofText (toString q.resetAt))
  else none

/-- **The fields about a quota** have one value each, whatever values there were, and all others keep
theirs. -/
theorem Headers.getAll_setQuota (h : Headers) (q : QuotaState) (name : HeaderName) :
    (h.setQuota q).getAll name = (q.field? name).elim (h.getAll name) fun value => [value] := by
  rw [setQuota, getAll_set, getAll_set, getAll_set, QuotaState.field?]
  by_cases hlimit : name = .rateLimit
  · subst hlimit
    rfl
  · by_cases hremaining : name = .rateRemaining
    · subst hremaining
      rfl
    · by_cases hreset : name = .rateReset
      · subst hreset
        rfl
      · simp [hlimit, hremaining, hreset]

/-- What a refused caller is told. -/
theorem Response.getAll_refusal {scope : Scope} {d : Decision} {q : QuotaState} {now : Int}
    (h : d.quota = some q) (name : HeaderName) :
    (Response.refusal scope d now).headers.getAll name
      = if name = .retryAfter then
          [Bytes.ofText (toString (max 1 (Saturating.sub64 q.resetAt now).toNat))]
        else (q.field? name).elim
          (if name = .contentType then [Bytes.ofText "application/json"] else [])
          fun value => [value] := by
  have hretry : d.retryAfter now = some (max 1 (Saturating.sub64 q.resetAt now).toNat) := by
    rw [Decision.retryAfter, h, Option.map_some]
  simp only [refusal, hretry, h]
  rw [Headers.getAll_set]
  split
  · rfl
  · simp only [withQuota, Headers.getAll_setQuota]
    congr 1
    by_cases htype : name = .contentType
    · subst htype
      rfl
    · rw [if_neg htype]
      simp [ofJson, Headers.getAll, Ne.symm htype]

/-- The body of a refusal says what for. -/
theorem Response.body_refusal (scope : Scope) (d : Decision) (now : Int) :
    (Response.refusal scope d now).body
      = Bytes.ofText (GatewayError.detail scope.refusal).text := by
  have htold : ((Response.ofJson 429 (GatewayError.detail scope.refusal)).withQuota d.quota).body
      = Bytes.ofText (GatewayError.detail scope.refusal).text := by
    cases d.quota <;> rfl
  rw [Response.refusal]
  split
  · exact htold
  · exact htold

/-! ### One visit -/

/-- Answering a request leaves the limiter. -/
theorem Server.limiter_answer (s : Server) (times : VisitTimes) (backend : Backend) (i : Inbound)
    (caller : Option Caller) : (s.answer times backend i caller).server.limiter = s.limiter := by
  rw [answer]
  split
  · rfl
  · rw [proxy]
    split
    · rfl
    · simp only
      split <;> rfl
  · rfl

namespace Reception

/-- The second at which a window is checked. -/
def second (x : Reception) : Scope → Int :=
  x.visit.times.checkSeconds

/-- The second at which a refused caller is told how long to wait. -/
def refusalSecond (x : Reception) : Int :=
  x.visit.times.refusal.seconds

/-- The request says that it is too large, and does not come to admission. -/
def isTooLarge (x : Reception) : Bool :=
  x.visit.inbound.isTooLarge x.server.maxBodySize

/-- The path is exempt. -/
def isExempt (x : Reception) : Bool :=
  x.server.admission.isExempt x.visit.inbound.uri.path

/-- The request comes to admission, and its path is not exempt. -/
def isMetered (x : Reception) : Bool :=
  !x.isTooLarge && !x.isExempt

/-- The caller, by the fields of the request and the address that it came from. -/
def caller (x : Reception) : Caller :=
  x.server.admission.callerOf x.visit.inbound.headers x.visit.inbound.peer

/-- What is decided about the caller's address. -/
def globalDecision (x : Reception) : Decision :=
  (Admission.globalCheck x.server.limiter x.caller x.second).2

/-- What is decided about the user behind that. -/
def userDecision (x : Reception) (user : String) : Decision :=
  (Admission.userCheck x.server.limiter x.caller x.second user).2

/-- The checks that are made of the visit. -/
def checks (x : Reception) : List (Attempt × Decision) :=
  if x.isMetered then Admission.checks x.server.limiter x.caller x.second else []

/-- The seconds, inside the window of `now`, at which an address was checked and allowed. -/
def addressSeconds (past : List Reception) (span : Int) (address : String) (now : Int) : List Int :=
  (past.filter fun y => y.isMetered = true ∧ y.caller.address = address ∧
    y.globalDecision.allowed = true ∧ now - span < y.second .global).map (second · .global)

/-- The seconds, inside the window of `now`, at which a user was checked and allowed. -/
def userSeconds (past : List Reception) (span : Int) (user : String) (now : Int) : List Int :=
  (past.filter fun y => y.isMetered = true ∧ y.caller.user = some user ∧
    y.globalDecision.allowed = true ∧ (y.userDecision user).allowed = true ∧
      now - span < y.second .user).map (second · .user)

/-- The request is passed on. -/
def passes (x : Reception) : Bool :=
  (x.server.pass? x.visit.times x.visit.faults x.visit.inbound).isSome

/-- What the handler behind admission makes of a request by `caller`. -/
def inner (x : Reception) (caller : Option Caller) : Server.Served :=
  (x.server.afterAdmission (x.server.judged x.visit.times x.visit.faults x.visit.inbound)).answer
    x.visit.times x.visit.backend x.visit.inbound caller

variable {x : Reception}

/-- A request is metered if it is not too large and its path is not exempt. -/
theorem isMetered_iff : x.isMetered = true ↔ x.isTooLarge = false ∧ x.isExempt = false := by
  rw [isMetered, Bool.and_eq_true, Bool.not_eq_true', Bool.not_eq_true']

/-- Two or fewer checks are made of a visit, each at the second of its scope, and that of the address
first. -/
theorem checks_sublist (x : Reception) :
    (x.checks.map fun c => c.1.now).Sublist [x.second .global, x.second .user] := by
  rw [checks]
  split
  · cases Admission.outcome_check x.server.limiter x.caller x.second with
    | crowded _ made =>
        rw [made]
        exact .cons_cons _ (List.nil_sublist _)
    | anonymous _ _ made =>
        rw [made]
        exact .cons_cons _ (List.nil_sublist _)
    | known user _ _ made =>
        rw [made]
        exact .refl _
  · exact List.nil_sublist _

/-- The checks of visits in a window, where each visit has one check in it or none. -/
theorem admittedSeconds_flatMap_checks {span : Int} {key : String} {now : Int} {p : Reception → Bool}
    {scope : Scope}
    (h : ∀ y : Reception,
      admittedSeconds span key now y.checks = if p y then [y.second scope] else [])
    (past : List Reception) :
    admittedSeconds span key now (past.flatMap checks) = (past.filter p).map (second · scope) := by
  induction past with
  | nil => rfl
  | cons y rest ih =>
      rw [List.flatMap_cons, admittedSeconds_append, h, ih, List.filter_cons]
      split <;> rfl

/-- **The window of an address** holds the visits from that address. -/
theorem admittedSeconds_address (past : List Reception) (span : Int) (address : String)
    (now : Int) :
    admittedSeconds span (Limiter.globalKey address) now (past.flatMap checks)
      = addressSeconds past span address now := by
  refine admittedSeconds_flatMap_checks (fun y => ?_) past
  simp only [decide_eq_true_eq, checks]
  by_cases h : y.isMetered = true
  · rw [if_pos h, Admission.admittedSeconds_globalKey]
    simp only [h, true_and, globalDecision]
  · rw [if_neg h, if_neg fun hall => h hall.1]
    rfl

/-- **The window of a user** holds the visits of that user. -/
theorem admittedSeconds_user (past : List Reception) (span : Int) (user : String) (now : Int) :
    admittedSeconds span (Limiter.userKey user) now (past.flatMap checks)
      = userSeconds past span user now := by
  refine admittedSeconds_flatMap_checks (fun y => ?_) past
  simp only [decide_eq_true_eq, checks]
  by_cases h : y.isMetered = true
  · rw [if_pos h, Admission.admittedSeconds_userKey]
    simp only [h, true_and, globalDecision, userDecision]
  · rw [if_neg h, if_neg fun hall => h hall.1]
    rfl

/-- A request that is metered comes to admission, which checks its caller. -/
theorem judged_of_isMetered (h : x.isMetered = true) (hfaults : x.visit.faults = {}) :
    x.visit.inbound.isTooLarge x.server.maxBodySize = false ∧
      x.server.judged x.visit.times x.visit.faults x.visit.inbound
        = Admission.check x.server.limiter {} x.caller x.second := by
  obtain ⟨hsize, hexempt⟩ := isMetered_iff.mp h
  refine ⟨hsize, ?_⟩
  rw [hfaults]
  exact Admission.judge_of_not_isExempt hexempt

/-- A request on an exempt path is let in unseen. -/
theorem judged_of_isExempt (h : x.isExempt = true) :
    x.server.judged x.visit.times x.visit.faults x.visit.inbound
      = ⟨.exempt, [], 0, x.server.limiter⟩ :=
  Admission.judge_of_isExempt h

/-- A request on an exempt path is passed on unseen. -/
theorem served_of_isExempt (hsize : x.isTooLarge = false) (h : x.isExempt = true) :
    x.passes = true ∧ x.served = x.inner none := by
  have hpass : x.server.pass? x.visit.times x.visit.faults x.visit.inbound = some (none, none) := by
    rw [Server.pass?, judged_of_isExempt h]
    exact if_neg (Bool.not_eq_true _ |>.mpr hsize)
  have hserved := @Server.handle_of_pass? _ _ _ x.visit.backend _ _ _ hpass
  refine ⟨by rw [passes, hpass, Option.isSome_some], hserved.trans ?_⟩
  have hcalls : (x.server.judged x.visit.times x.visit.faults x.visit.inbound).calls
      = (x.inner none).calls := by
    rw [judged_of_isExempt h, inner, Server.calls_answer]
  rw [hcalls]
  rfl

/-- A request whose caller is admitted is passed on with its caller, who is told about the quota. -/
theorem served_of_admitted (h : x.isMetered = true) (hfaults : x.visit.faults = {})
    {caller : Caller} {quota : Option QuotaState}
    (hverdict : (Admission.check x.server.limiter {} x.caller x.second).verdict
      = .admitted caller quota) :
    x.passes = true ∧ x.served = { x.inner (some caller) with
      response := (x.inner (some caller)).response.withQuota quota
      calls := (Admission.check x.server.limiter {} x.caller x.second).calls } := by
  obtain ⟨hsize, hjudged⟩ := judged_of_isMetered h hfaults
  have hpass : x.server.pass? x.visit.times x.visit.faults x.visit.inbound
      = some (some caller, quota) := by
    rw [Server.pass?, hjudged, hverdict]
    exact if_neg (Bool.not_eq_true _ |>.mpr hsize)
  have hserved := @Server.handle_of_pass? _ _ _ x.visit.backend _ _ _ hpass
  refine ⟨by rw [passes, hpass, Option.isSome_some], hserved.trans ?_⟩
  rw [hjudged, inner, hjudged]

/-- A request whose caller is refused is not passed on. -/
theorem served_of_refused (h : x.isMetered = true) (hfaults : x.visit.faults = {}) {scope : Scope}
    {d : Decision}
    (hverdict : (Admission.check x.server.limiter {} x.caller x.second).verdict
      = .refused scope d) :
    x.passes = false ∧ x.server.Untouched x.served ∧ x.served =
      { response := .refusal scope d x.refusalSecond
        calls := (Admission.check x.server.limiter {} x.caller x.second).calls
        server := (x.server.afterAdmission
          (Admission.check x.server.limiter {} x.caller x.second)).noteRefusal scope } := by
  obtain ⟨hsize, hjudged⟩ := judged_of_isMetered h hfaults
  rw [← hjudged] at hverdict ⊢
  have hpass : x.server.pass? x.visit.times x.visit.faults x.visit.inbound = none := by
    rw [Server.pass?, hverdict]
    exact ite_self _
  refine ⟨by rw [passes, hpass, Option.isSome_none], ?_, Server.handle_of_refused hsize hverdict⟩
  exact Server.untouched_of_admittedDelivery?_eq_none (Server.admittedDelivery?_of_refused hverdict)

/-- **What a visit makes of the limiter**: its checks, if it is metered. -/
theorem limiter_served (hfaults : x.visit.faults = {}) :
    x.served.server.limiter
      = if x.isMetered then (Admission.check x.server.limiter {} x.caller x.second).limiter
        else x.server.limiter := by
  rcases hmetered : x.isMetered with _ | _
  · rcases hsize : x.isTooLarge with _ | _
    · have hexempt : x.isExempt = true := by
        rw [isMetered, hsize] at hmetered
        simpa using hmetered
      rw [(served_of_isExempt hsize hexempt).2, inner, Server.limiter_answer,
        judged_of_isExempt hexempt, Server.afterAdmission, if_neg Bool.false_ne_true]
    · have hserved : x.served = { response := .tooLarge, server := x.server } :=
        Server.handle_of_isTooLarge hsize
      rw [hserved, if_neg Bool.false_ne_true]
  · rcases Admission.verdict_check x.server.limiter {} x.caller x.second with
      ⟨quota, hverdict⟩ | ⟨scope, d, hverdict⟩
    · rw [(served_of_admitted hmetered hfaults hverdict).2, if_pos rfl]
      rw [inner, Server.limiter_answer, (judged_of_isMetered hmetered hfaults).2]
      rfl
    · rw [(served_of_refused hmetered hfaults hverdict).2.2, if_pos rfl]
      rfl

/-- The quotas are the same after a visit. -/
theorem quotaOf_served (hfaults : x.visit.faults = {}) :
    x.served.server.limiter.quotaOf = x.server.limiter.quotaOf := by
  rw [limiter_served hfaults]
  split
  · exact Admission.quotaOf_check ..
  · rfl

/-- **A visit**: the limiter has answered its checks as well. -/
theorem tracks_served (hfaults : x.visit.faults = {}) {past : List (Attempt × Decision)}
    (h : x.server.limiter.Tracks x.server.limiter.quotaOf past)
    (ho : Attempt.Orderly ((past ++ x.checks).map Prod.fst)) :
    x.served.server.limiter.Tracks x.server.limiter.quotaOf (past ++ x.checks) := by
  rw [limiter_served hfaults]
  rw [checks] at ho ⊢
  by_cases hmetered : x.isMetered = true
  · rw [if_pos hmetered, List.map_append] at ho
    rw [if_pos hmetered, if_pos hmetered]
    exact (Admission.tracks_check h ho).1
  · rwa [if_neg hmetered, if_neg hmetered, List.append_nil]

end Reception

/-! ### Steady visits -/

/-- The seconds at which the windows are checked in some visits, in order. -/
def checkSeconds (visits : List Visit) : List Int :=
  visits.flatMap fun v => [v.times.checkSeconds .global, v.times.checkSeconds .user]

/-- **Visits at a steady pace**: the store of the limiter is faultless, the clock does not step back
from check to check or leave its range, and no more checks come in one second than there are sequence
numbers. -/
structure Steady (visits : List Visit) : Prop where
  faultless : ∀ v ∈ visits, v.faults = {}
  sorted : (checkSeconds visits).Pairwise (· ≤ ·)
  inRange : ∀ t ∈ checkSeconds visits, minSigned64 < t ∧ t < maxSigned64
  /-- All visits together do not take longer than a signed word of seconds. -/
  short : ∀ t ∈ checkSeconds visits, ∀ u ∈ checkSeconds visits, u - t < maxSigned64
  paced : ∀ t, (checkSeconds visits).count t ≤ maxUnsigned64 + 1

/-- Earlier visits are checked earlier. -/
theorem checkSeconds_append (visits later : List Visit) :
    checkSeconds (visits ++ later) = checkSeconds visits ++ checkSeconds later :=
  List.flatMap_append

/-- The beginning of a steady run is steady. -/
theorem Steady.of_append {visits later : List Visit} (h : Steady (visits ++ later)) :
    Steady visits := by
  obtain ⟨hfaultless, hsorted, hrange, hshort, hpaced⟩ := h
  rw [checkSeconds_append] at hsorted hrange hshort hpaced
  refine
    { faultless := fun v hv => hfaultless v (List.mem_append_left _ hv)
      sorted := (List.pairwise_append.mp hsorted).1
      inRange := fun t ht => hrange t (List.mem_append_left _ ht)
      short := fun t ht u hu => hshort t (List.mem_append_left _ ht) u (List.mem_append_left _ hu)
      paced := fun t => ?_ }
  have hmore := hpaced t
  rw [List.count_append] at hmore
  omega

/-- What is made of every part of a list is made of the list, in order. -/
theorem flatMap_sublist_flatMap {α β : Type} {f g : α → List β} (h : ∀ a, (f a).Sublist (g a))
    (l : List α) : (l.flatMap f).Sublist (l.flatMap g) := by
  induction l with
  | nil => exact .refl _
  | cons a rest ih =>
      rw [List.flatMap_cons, List.flatMap_cons]
      exact (h a).append ih

/-- The checks that are made in some visits are at the seconds of their checks, in order. -/
theorem Reception.now_checks_sublist (record : List Reception) :
    ((record.flatMap checks).map fun c => c.1.now).Sublist (checkSeconds (record.map visit)) := by
  rw [List.map_flatMap, checkSeconds, List.flatMap_map]
  exact flatMap_sublist_flatMap checks_sublist record

/-- The windows of a visit are checked at the seconds of its checks. -/
theorem Reception.second_mem_checkSeconds {record : List Reception} {x : Reception}
    (h : x ∈ record) (scope : Scope) : x.second scope ∈ checkSeconds (record.map visit) := by
  refine List.mem_flatMap.mpr ⟨x.visit, List.mem_map_of_mem h, ?_⟩
  cases scope <;> simp [second]

/-- **The checks of steady visits are orderly attempts.** -/
theorem Steady.orderly {record : List Reception} (h : Steady (record.map Reception.visit)) :
    Attempt.Orderly ((record.flatMap Reception.checks).map Prod.fst) := by
  have hmade := Reception.now_checks_sublist record
  refine .of_count ?_ (fun a ha => ?_) fun t => ?_
  · rw [List.pairwise_map, ← List.pairwise_map (f := fun c : Attempt × Decision => c.1.now)]
    exact h.sorted.sublist hmade
  · obtain ⟨c, hc, rfl⟩ := List.mem_map.mp ha
    exact h.inRange _ (hmade.subset (List.mem_map_of_mem hc))
  · refine Nat.le_trans ?_ (h.paced t)
    refine Nat.le_trans (Nat.le_of_eq ?_) (hmade.count_le t)
    rw [List.count, List.countP_map, List.countP_map]
    exact List.countP_congr fun c _ => by simp

namespace Server

variable {s : Server} {events : List Event}

/-- The visits of a life are those of its record. -/
theorem steady_record (h : Steady (events.filterMap Event.visit?)) :
    Steady ((s.record events).map Reception.visit) := by
  rwa [map_visit_record]

/-- The visit of an event is the one that the server meets. -/
theorem visit?_of_reception? {event : Event} {x : Reception} (h : s.reception? event = some x) :
    event.visit? = some x.visit := by
  cases event with
  | visit v => rw [← Option.some.inj h]; rfl
  | start doneAt backend => cases h
  | advance by_ doneAt backend => cases h
  | registry event => cases h

/-- **The limiter tracks the checks of a life**, and keeps its quotas. -/
theorem tracks_meetAll (henabled : s.limiter.enabled = true) (hstore : s.limiter.store = some .empty)
    (hsequence : s.limiter.sequence = 0) (h : Steady (events.filterMap Event.visit?)) :
    (s.meetAll events).limiter.quotaOf = s.limiter.quotaOf ∧
      (s.meetAll events).limiter.Tracks s.limiter.quotaOf
        ((s.record events).flatMap Reception.checks) := by
  induction events using List.reverseRecOn with
  | nil =>
      exact ⟨rfl, @Limiter.tracks_serve s.limiter henabled hstore hsequence s.limiter.quotaOf []
        ⟨.nil, nofun, nofun⟩⟩
  | append_singleton rest event ih =>
      have horderly := (steady_record (s := s) h).orderly
      rw [List.filterMap_append] at h
      obtain ⟨hquota, htracks⟩ := ih h.of_append
      rw [record_append_singleton, List.flatMap_append] at horderly ⊢
      rw [meetAll_append_singleton]
      rcases hvisit : (s.meetAll rest).reception? event with _ | x
      · rw [(meet_of_reception?_eq_none hvisit).1, Option.toList_none, List.flatMap_nil,
          List.append_nil]
        exact ⟨hquota, htracks⟩
      · obtain ⟨hmeet, hserver⟩ := meet_of_reception?_eq_some hvisit
        have hfaults : x.visit.faults = {} := h.faultless x.visit (List.mem_append_right _
          (List.mem_filterMap.mpr ⟨event, List.mem_singleton.mpr rfl, visit?_of_reception? hvisit⟩))
        rw [← hserver] at hquota htracks
        rw [hvisit, Option.toList_some, List.flatMap_singleton] at horderly
        rw [hmeet, Option.toList_some, List.flatMap_singleton, Reception.quotaOf_served hfaults]
        rw [← hquota] at htracks ⊢
        exact ⟨rfl, Reception.tracks_served hfaults htracks horderly⟩

end Server

/-! ### What is promised of one visit -/

namespace Reception

/-- **A request that is passed on** with its caller, whose address has this quota. -/
structure Forwarded (x : Reception) (q : QuotaState) : Prop where
  /-- The handler behind admission answers the request as one by the caller. -/
  status : x.served.response.status = (x.inner (some x.caller)).response.status
  body : x.served.response.body = (x.inner (some x.caller)).response.body
  /-- Its response has the fields about the quota, whatever values the handler gave them. -/
  fields : ∀ name, x.served.response.headers.getAll name
    = (q.field? name).elim ((x.inner (some x.caller)).response.headers.getAll name)
        fun value => [value]
  sent : x.served.sent = (x.inner (some x.caller)).sent
  server : x.served.server = (x.inner (some x.caller)).server
  /-- What is delivered to a service has the caller with it. -/
  attached : ∀ d, x.delivery? = some d → d.errand.request.caller = some x.caller

/-- **A request that is refused** for a scope with this quota. -/
structure Refused (x : Reception) (scope : Scope) (q : QuotaState) : Prop where
  status : x.served.response.status = 429
  body : x.served.response.body = Bytes.ofText (GatewayError.detail scope.refusal).text
  /-- The caller is told the quota, and to wait until the window frees up, a second at least. -/
  fields : ∀ name, x.served.response.headers.getAll name
    = if name = .retryAfter then
        [Bytes.ofText (toString (max 1 (Saturating.sub64 q.resetAt x.refusalSecond).toNat))]
      else (q.field? name).elim
        (if name = .contentType then [Bytes.ofText "application/json"] else [])
        fun value => [value]
  untouched : x.server.Untouched x.served
  noted : x.served.server.requestLog
    = x.server.requestLog ++ [.increment (Metrics.rateLimited scope.text)]

/-- **What is promised of a visit** behind those of `past`, if the limiter has the quotas of `l`. -/
structure Scoped (l : Limiter) (past : List Reception) (x : Reception) : Prop where
  /-- On an exempt path no check is made, and everybody is passed on. -/
  exempt : x.isTooLarge = false → x.isExempt = true →
    x.checks = [] ∧ x.passes = true ∧ x.served = x.inner none ∧ x.served.calls = [] ∧
      x.served.server.limiter = x.server.limiter
  /-- On any other path one check is made of the caller's address, and behind it one of the user, if
  there is one and the address is allowed. -/
  checked : x.isMetered = true →
    x.served.calls.filterMap StoreCall.recorded? = x.checks.map (fun c => c.1.key) ∧
      x.checks.map (fun c => c.1.key) = Limiter.globalKey x.caller.address ::
        if x.globalDecision.allowed then (x.caller.user.map Limiter.userKey).toList else []
  /-- The window of the address decides about the address. -/
  global : x.isMetered = true → SlidingDecision l.global (x.second .global)
    (addressSeconds past l.global.span x.caller.address (x.second .global)) x.globalDecision
  /-- The window of the user decides about the user. -/
  user : x.isMetered = true → x.globalDecision.allowed = true →
    ∀ user, x.caller.user = some user → SlidingDecision l.perUser (x.second .user)
      (userSeconds past l.perUser.span user (x.second .user)) (x.userDecision user)
  /-- The request is passed on exactly if all checks are allowed. -/
  passes_iff : x.isMetered = true → (x.passes = true ↔ x.globalDecision.allowed = true ∧
    ∀ user, x.caller.user = some user → (x.userDecision user).allowed = true)
  /-- Its caller is told about the quota of the address then. -/
  forwarded : x.isMetered = true → x.passes = true →
    ∃ q, x.globalDecision.quota = some q ∧ x.Forwarded q
  /-- A caller refused for its address is told so, and no window of any user is touched. -/
  crowded : x.isMetered = true → x.globalDecision.allowed = false →
    (∃ q, x.globalDecision.quota = some q ∧ q.remaining = 0 ∧ x.Refused .global q) ∧
      ∀ user later windowStart, x.second .global ≤ later →
        x.served.server.limiter.live (Limiter.userKey user) later windowStart
          = x.server.limiter.live (Limiter.userKey user) later windowStart
  /-- A caller refused for the user is told so. -/
  exceeded : x.isMetered = true → x.globalDecision.allowed = true →
    ∀ user, x.caller.user = some user → (x.userDecision user).allowed = false →
      ∃ q, (x.userDecision user).quota = some q ∧ q.remaining = 0 ∧ x.Refused .user q

variable {x : Reception} {l : Limiter} {past : List Reception}

/-- A request on a metered path is passed on exactly if all checks are allowed. -/
theorem passes_iff_of_isMetered (h : x.isMetered = true) (hfaults : x.visit.faults = {}) :
    x.passes = true ↔ x.globalDecision.allowed = true ∧
      ∀ user, x.caller.user = some user → (x.userDecision user).allowed = true := by
  constructor
  · intro hpasses
    rcases hglobal : x.globalDecision.allowed with _ | _
    · rw [(served_of_refused h hfaults (Admission.verdict_of_crowded hglobal)).1] at hpasses
      cases hpasses
    · refine ⟨rfl, fun user huser => ?_⟩
      rcases hallowed : (x.userDecision user).allowed with _ | _
      · rw [(served_of_refused h hfaults
          (Admission.verdict_of_exceeded hglobal huser hallowed)).1] at hpasses
        cases hpasses
      · rfl
  · rintro ⟨hglobal, huser⟩
    exact (served_of_admitted h hfaults (Admission.verdict_of_allowed hglobal huser)).1

/-- A request that is passed on. -/
theorem forwarded_of_allowed (h : x.isMetered = true) (hfaults : x.visit.faults = {})
    (hglobal : x.globalDecision.allowed = true)
    (huser : ∀ user, x.caller.user = some user → (x.userDecision user).allowed = true)
    {q : QuotaState} (hquota : x.globalDecision.quota = some q) : x.Forwarded q := by
  have hserved := (served_of_admitted h hfaults (Admission.verdict_of_allowed hglobal huser)).2
  rw [globalDecision] at hquota
  rw [hquota] at hserved
  refine
    { status := by rw [hserved]; rfl
      body := by rw [hserved]; rfl
      fields := fun name => by rw [hserved]; exact Headers.getAll_setQuota ..
      sent := by rw [hserved]
      server := by rw [hserved]
      attached := fun d hd => ?_ }
  have hcaller : x.server.callerOf? x.visit.inbound = some x.caller :=
    if_neg (Bool.not_eq_true _ |>.mpr (isMetered_iff.mp h).2)
  rw [(Server.of_admittedDelivery? hd).2.2.2.2]
  exact hcaller

/-- A request that is refused. -/
theorem refused_of_verdict (h : x.isMetered = true) (hfaults : x.visit.faults = {}) {scope : Scope}
    {d : Decision} {q : QuotaState} (hquota : d.quota = some q)
    (hverdict : (Admission.check x.server.limiter {} x.caller x.second).verdict
      = .refused scope d) : x.Refused scope q := by
  obtain ⟨-, huntouched, hserved⟩ := served_of_refused h hfaults hverdict
  refine
    { status := ?_
      body := ?_
      fields := fun name => ?_
      untouched := huntouched
      noted := ?_ }
  · rw [hserved]
    exact Server.status_refusal ..
  · rw [hserved]
    exact Response.body_refusal ..
  · rw [hserved]
    exact Response.getAll_refusal hquota name
  · rw [hserved]
    rfl

/-- The visit meets a limiter with the quotas of `l` that has answered the checks of the visits before
it. -/
structure Behind (l : Limiter) (past : List Reception) (x : Reception) : Prop where
  quotaOf : x.server.limiter.quotaOf = l.quotaOf
  tracks : x.server.limiter.Tracks x.server.limiter.quotaOf (past.flatMap checks)
  faultless : x.visit.faults = {}
  orderly : Attempt.Orderly ((past.flatMap checks ++ x.checks).map Prod.fst)

variable (b : x.Behind l past)
include b

/-- Every check is answered by the window of its key. -/
theorem Behind.answered (h : x.isMetered = true) :
    ∀ c ∈ Admission.checks x.server.limiter x.caller x.second,
      SlidingDecision (l.quotaOf c.1.key) c.1.now
        (admittedSeconds (l.quotaOf c.1.key).span c.1.key c.1.now (past.flatMap checks)) c.2 := by
  have ho := b.orderly
  rw [checks, if_pos h, List.map_append] at ho
  rw [← b.quotaOf]
  exact (Admission.tracks_check b.tracks ho).2

/-- The window of the address decides about the address. -/
theorem Behind.global (h : x.isMetered = true) : SlidingDecision l.global (x.second .global)
    (addressSeconds past l.global.span x.caller.address (x.second .global)) x.globalDecision := by
  have hanswer := b.answered h _ List.mem_cons_self
  simp only [Admission.globalCheck, Limiter.quotaOf_globalKey, admittedSeconds_address] at hanswer
  exact hanswer

/-- The window of the user decides about the user. -/
theorem Behind.user (h : x.isMetered = true) (hallowed : x.globalDecision.allowed = true)
    {user : String} (huser : x.caller.user = some user) : SlidingDecision l.perUser (x.second .user)
      (userSeconds past l.perUser.span user (x.second .user)) (x.userDecision user) := by
  have hanswer := b.answered h _ (Admission.userCheck_mem_checks hallowed huser)
  simp only [Admission.userCheck, Limiter.quotaOf_userKey, admittedSeconds_user] at hanswer
  exact hanswer

/-- No check before is of a later second. -/
theorem Behind.le_second (h : x.isMetered = true) :
    ∀ c ∈ past.flatMap checks, c.1.now ≤ x.second .global := by
  intro c hc
  have hsorted := b.orderly.sorted
  rw [checks, if_pos h, List.map_append] at hsorted
  exact (List.pairwise_append.mp hsorted).2.2 _ (List.mem_map_of_mem hc) _
    (List.mem_map_of_mem List.mem_cons_self)

/-- The checks of the visit are what the store is asked. -/
theorem Behind.recorded (h : x.isMetered = true) :
    x.served.calls.filterMap StoreCall.recorded? = x.checks.map fun c => c.1.key := by
  have hcalls : x.served.calls
      = (Admission.check x.server.limiter {} x.caller x.second).calls := by
    rcases Admission.verdict_check x.server.limiter {} x.caller x.second with
      ⟨quota, hverdict⟩ | ⟨scope, d, hverdict⟩
    · rw [(served_of_admitted h b.faultless hverdict).2]
    · rw [(served_of_refused h b.faultless hverdict).2.2]
  obtain ⟨store, hstore, -⟩ := b.tracks.shows
  rw [hcalls, checks, if_pos h]
  exact Admission.recorded_check b.tracks.enabled hstore

/-- **All that is promised of a visit** holds behind other visits. -/
theorem Behind.scoped : x.Scoped l past where
  exempt := by
    intro hsize hexempt
    have hmetered : ¬ x.isMetered = true := fun h => by
      rw [(isMetered_iff.mp h).2] at hexempt
      cases hexempt
    obtain ⟨hpasses, hserved⟩ := served_of_isExempt hsize hexempt
    refine ⟨if_neg hmetered, hpasses, hserved, ?_, ?_⟩
    · rw [hserved, inner, Server.calls_answer]
    · rw [limiter_served b.faultless, if_neg hmetered]
  checked := by
    intro h
    refine ⟨b.recorded h, ?_⟩
    rw [checks, if_pos h]
    exact Admission.map_key_checks ..
  global := b.global
  user := fun h hallowed user huser => b.user h hallowed huser
  passes_iff := fun h => passes_iff_of_isMetered h b.faultless
  forwarded := by
    intro h hpasses
    obtain ⟨hallowed, husers⟩ := (passes_iff_of_isMetered h b.faultless).mp hpasses
    have hquota := (b.global h).quota_of_allowed hallowed
    exact ⟨_, hquota, forwarded_of_allowed h b.faultless hallowed husers hquota⟩
  crowded := by
    intro h hrefused
    have hquota := (b.global h).quota_of_refused hrefused
    refine ⟨⟨_, hquota, rfl, refused_of_verdict h b.faultless hquota
      (Admission.verdict_of_crowded hrefused)⟩, fun user later windowStart hle => ?_⟩
    rw [limiter_served b.faultless, if_pos h]
    exact Admission.live_check_of_refused b.tracks (b.le_second h) hrefused user hle windowStart
  exceeded := by
    intro h hallowed user huser hrefused
    have hquota := (b.user h hallowed huser).quota_of_refused hrefused
    exact ⟨_, hquota, rfl, refused_of_verdict h b.faultless hquota
      (Admission.verdict_of_exceeded hallowed huser hrefused)⟩

end Reception

/-! ### What is promised of a life -/

namespace Server

variable {s : Server} {events : List Event}

/-- **Every visit of a life** comes behind the checks of those before it. -/
theorem behind_of_record_eq (henabled : s.limiter.enabled = true)
    (hstore : s.limiter.store = some .empty) (hsequence : s.limiter.sequence = 0)
    (h : Steady (events.filterMap Event.visit?)) {past later : List Reception} {x : Reception}
    (hplace : s.record events = past ++ x :: later) :
    x.Behind s.limiter past := by
  have hrecord := steady_record (s := s) h
  rw [hplace, List.append_cons, List.map_append] at hrecord
  have horderly := hrecord.of_append.orderly
  rw [List.flatMap_append, List.flatMap_singleton] at horderly
  obtain ⟨before, event, after, rfl, hpast, hvisit⟩ := exists_of_record_eq hplace
  rw [List.filterMap_append] at h
  obtain ⟨hquota, htracks⟩ := tracks_meetAll henabled hstore hsequence h.of_append
  have hserver := (meet_of_reception?_eq_some hvisit).2
  rw [hpast, ← hserver] at htracks
  rw [← hserver] at hquota
  refine
    { quotaOf := hquota
      tracks := hquota ▸ htracks
      faultless := hrecord.of_append.faultless x.visit (by simp)
      orderly := horderly }

/-- If fewer than `limit` come before any one that counts, no more than `limit` count. -/
theorem countP_le_of_before {α : Type} {p : α → Bool} {limit : Nat} {l : List α}
    (h : ∀ past x later, l = past ++ x :: later → p x = true → past.countP p < limit) :
    l.countP p ≤ limit := by
  induction l using List.reverseRecOn with
  | nil => exact Nat.zero_le _
  | append_singleton rest x ih =>
      have hrest : rest.countP p ≤ limit := by
        refine ih fun past y later hplace hy => h past y (later ++ [x]) ?_ hy
        rw [hplace, List.append_assoc, List.cons_append]
      rw [List.countP_append, List.countP_singleton]
      split
      · next hx => exact h rest x [] rfl hx
      · exact hrest

/-- A window that reaches back from `t` reaches back from every second before, but for one that is
longer than a signed word of seconds and holds the whole run. -/
theorem in_window {q : Quota} {t before second : Int} (hlast : second ≤ t)
    (hin : t - q.windowSeconds < before) (hshort : second - before < maxSigned64) :
    second - q.span < before := by
  rw [Quota.span, Saturating.ofUnsigned]
  omega

/-- **Admission for a life** of a server. -/
structure TwoScoped (s : Server) (events : List Event) : Prop where
  /-- Who is exempt, and which field names the user, is a matter of the configuration alone. -/
  settings : ∀ x ∈ s.record events, x.server.settings = s.settings
  /-- Every visit is treated by the windows of its address and its user, and by nothing else. -/
  visits : ∀ past x later, s.record events = past ++ x :: later → x.Scoped s.limiter past
  /-- In every window no more requests from one address are passed on than its quota allows. -/
  address_le : ∀ (address : String) (t : Int), ((s.record events).countP fun x => x.isMetered = true ∧
    x.passes = true ∧ x.caller.address = address ∧
      t - s.limiter.global.windowSeconds < x.second .global ∧ x.second .global ≤ t)
        ≤ s.limiter.global.requests
  /-- Nor more requests of one user. -/
  user_le : ∀ (user : String) (t : Int), ((s.record events).countP fun x => x.isMetered = true ∧
    x.passes = true ∧ x.caller.user = some user ∧
      t - s.limiter.perUser.windowSeconds < x.second .user ∧ x.second .user ≤ t)
        ≤ s.limiter.perUser.requests

/-- **Two scopes of admission**: what is promised of every life of a server whose limiter is enabled
and begins to count on an empty store, if its visits are steady. -/
theorem two_scopes (henabled : s.limiter.enabled = true) (hstore : s.limiter.store = some .empty)
    (hsequence : s.limiter.sequence = 0) (h : Steady (events.filterMap Event.visit?)) :
    s.TwoScoped events := by
  have hrecord := steady_record (s := s) h
  have hvisits : ∀ past x later, s.record events = past ++ x :: later → x.Scoped s.limiter past :=
    fun past x later hplace => (behind_of_record_eq henabled hstore hsequence h hplace).scoped
  have hpassed : ∀ y ∈ s.record events, y.isMetered = true → y.passes = true →
      y.globalDecision.allowed = true ∧
        ∀ user, y.caller.user = some user → (y.userDecision user).allowed = true :=
    fun y hy hmetered => (Reception.passes_iff_of_isMetered hmetered
      (hrecord.faultless y.visit (List.mem_map_of_mem hy))).mp
  have hshort : ∀ x ∈ s.record events, ∀ y ∈ s.record events, ∀ scope,
      x.second scope - y.second scope < maxSigned64 := fun x hx y hy scope =>
    hrecord.short _ (Reception.second_mem_checkSeconds hy scope) _
      (Reception.second_mem_checkSeconds hx scope)
  refine
    { settings := fun x hx => settings_of_mem_record hx
      visits := hvisits
      address_le := fun address t => countP_le_of_before fun past x later hplace hx => ?_
      user_le := fun user t => countP_le_of_before fun past x later hplace hx => ?_ }
  -- who counts was allowed, and those that count before are in the window of that check
  all_goals
    have hx' : x ∈ s.record events := hplace ▸ List.mem_append_right _ List.mem_cons_self
    have hpast : ∀ y ∈ past, y ∈ s.record events := fun y hy => hplace ▸ List.mem_append_left _ hy
    simp only [decide_eq_true_eq] at hx
    obtain ⟨hmetered, hpasses, howner, -, hlast⟩ := hx
    obtain ⟨hglobal, huser⟩ := hpassed x hx' hmetered hpasses
  · refine Nat.lt_of_le_of_lt ?_
      (((hvisits past x later hplace).global hmetered).allowed_iff.mp hglobal)
    rw [Reception.addressSeconds, List.length_map, ← List.countP_eq_length_filter]
    refine List.countP_mono_left fun y hy hcounted => ?_
    simp only [decide_eq_true_eq] at hcounted ⊢
    obtain ⟨hmetered', hpasses', howner', hin, -⟩ := hcounted
    exact ⟨hmetered', howner'.trans howner.symm, (hpassed y (hpast y hy) hmetered' hpasses').1,
      in_window hlast hin (hshort x hx' y (hpast y hy) .global)⟩
  · refine Nat.lt_of_le_of_lt ?_ (((hvisits past x later hplace).user hmetered hglobal user
      howner).allowed_iff.mp (huser user howner))
    rw [Reception.userSeconds, List.length_map, ← List.countP_eq_length_filter]
    refine List.countP_mono_left fun y hy hcounted => ?_
    simp only [decide_eq_true_eq] at hcounted ⊢
    obtain ⟨hmetered', hpasses', howner', hin, -⟩ := hcounted
    obtain ⟨hglobal', huser'⟩ := hpassed y (hpast y hy) hmetered' hpasses'
    exact ⟨hmetered', howner', hglobal', huser' user howner',
      in_window hlast hin (hshort x hx' y (hpast y hy) .user)⟩

/-- Two requests of an address and one of a user in a minute: the second request of a user is refused
from whatever address it comes, but counts for the address, so that it is the third one of the
address that is refused for the address; and a health path is exempt. The user is checked a second
after the address, and a refused caller is told to wait from a second later on. -/
theorem two_scopes_two_and_one :
    let c : Config :=
      { services := [{ name := "users", instances := [{ url := "http://u" }] }]
        routes := [{ name := "users", pathPrefix := "/users", service := "users" }]
        rateLimit :=
          { store := .memory
            global := { requests := 2, windowSeconds := 60 }
            perUser := { requests := 1, windowSeconds := 60 } } }
    let backend : Backend := fun _ => { outcome := .ok { status := 200 } }
    let times (second : Int) : VisitTimes :=
      { VisitTimes.frozen (.ofParts (second + 2) 0) with
        check := fun scope => .ofParts (if scope = .global then second else second + 1) 0 }
    let visit (second : Int) (path address user : String) : Server.Event :=
      .visit ⟨times second, {}, backend,
        { method := "GET"
          uri := ⟨none, none, path, none⟩
          headers := [(.forwardedFor, Bytes.ofText address), (.userId, Bytes.ofText user)] }⟩
    let events : List Server.Event :=
      [visit 1000 "/users/1" "1.1.1.1" "alice", visit 1010 "/users/1" "3.3.3.3" "alice",
        visit 1020 "/users/1" "3.3.3.3" "bob", visit 1030 "/users/1" "3.3.3.3" "carol",
        visit 1040 "/health" "3.3.3.3" "carol", visit 1060 "/users/1" "1.1.1.1" "alice"]
    let wait (x : Reception) : List Bytes := x.served.response.headers.getAll .retryAfter
    ∃ s, Server.ofConfig c (.connect c.rateLimit none) = .ok s ∧
      s.limiter.enabled = true ∧ s.limiter.store = some .empty ∧ s.limiter.sequence = 0 ∧
      Steady (events.filterMap Event.visit?) ∧
      (s.record events).map Reception.isMetered = [true, true, true, true, false, true] ∧
      (s.record events).map Reception.passes = [true, false, true, false, true, true] ∧
      (s.record events).map (fun x => x.served.response.status)
        = [200, 429, 200, 429, 200, 200] ∧
      (s.record events).map wait = [[], [Bytes.ofText "49"], [], [Bytes.ofText "38"], [], []] ∧
      s.TwoScoped events := by
  intro c backend times visit events wait
  have hsteady : Steady (events.filterMap Event.visit?) :=
    { faultless := by decide
      sorted := by decide
      inRange := by decide
      short := by decide
      paced := fun t => Nat.le_trans List.count_le_length (by decide) }
  exact ⟨_, rfl, rfl, rfl, rfl, hsteady, by decide +kernel, by decide +kernel, by decide +kernel,
    by decide +kernel, two_scopes rfl rfl rfl hsteady⟩

end Server

end Tollgate
