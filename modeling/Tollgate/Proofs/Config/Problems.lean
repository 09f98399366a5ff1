import Mathlib.Data.List.Forall2
import Mathlib.Data.List.Induction
import Tollgate.Proofs.Config.Validated

/-!
# Every problem of a configuration

What can be wrong with a configuration is wrong at a place of it: the name of a service, an address
of an instance, the prefix of a route. `Config.Flaw` says what is wrong where, by one rule for each
kind of problem. The problems of a configuration are what is wrong at its places, each place once
and in the order of the document (`Config.accounts_problems`), so no problem hides another, and a
configuration is accepted exactly if nothing is wrong with it (`Config.flawless_iff`).

Places form a tree: sections, their entries, the parts of an entry. A list of problems accounts for
a part of the tree (`Config.Accounts`), and lists that account for the branches of a part account
for the part, one behind the other (`Config.accounts_flatten`). So the proof follows the tree.

## Conventions

* The position of a place is the way to it from the root of the tree. Positions are ordered like
  words, which is the order of the document.

## Main results

* `Config.Flaw.unique`: at most one thing is wrong at a place.
* `Config.Accounts.unique`: there is only one list of what is wrong.
* `Config.accounts_problems`: the problems of a configuration are that list.
* `Config.count_duplicateService`: how often a name is reported.
* `Config.validate_exhaustive`: validation is sound, complete and exhaustive.
-/

namespace Tollgate

/-! ### Places -/

/-- A place of a configuration where something can be wrong. -/
inductive Place where
  | name (service : Nat)
  | instances (service : Nat)
  | url (service entry : Nat)
  | healthUrl (service entry : Nat)
  | pathPrefix (route : Nat)
  | destination (route : Nat)
  | critical (entry : Nat)
  | number (field : Nat)
deriving DecidableEq, Repr

namespace Place

/-- The way to a place: the section, the entry of the section, and the part of the entry. -/
def position : Place → List Nat
  | name i => [0, i, 0]
  | instances i => [0, i, 1]
  | url i j => [0, i, 2, j, 0]
  | healthUrl i j => [0, i, 2, j, 1]
  | pathPrefix i => [1, i, 0]
  | destination i => [1, i, 1]
  | critical i => [2, i]
  | number i => [3, i]

/-- One place stands before another in the document. -/
def Before (p q : Place) : Prop :=
  p.position < q.position

/-- The place is in the part of the document that `front` leads to. -/
def Below (front : List Nat) (p : Place) : Prop :=
  front <+: p.position

/-- A place is at the end of its way: there is no other place below it. -/
theorem eq_of_below {p q : Place} (h : q.Below p.position) : q = p := by
  cases p <;> cases q <;> simp_all [Below, position]

/-- No place stands before itself. -/
theorem Before.ne {p q : Place} (h : p.Before q) : p ≠ q := by
  rintro rfl
  exact List.lt_irrefl _ h

/-- Of two places one stands before the other. -/
theorem Before.asymm {p q : Place} (h : p.Before q) : ¬q.Before p :=
  List.lt_asymm h

/-- The branches of a part of the document stand one behind the other. -/
theorem before_of_below {front : List Nat} {i j : Nat} (hij : i < j) {p q : Place}
    (hp : p.Below (front ++ [i])) (hq : q.Below (front ++ [j])) : p.Before q := by
  obtain ⟨behind, hp⟩ := hp
  obtain ⟨behind', hq⟩ := hq
  rw [Before, ← hp, ← hq, List.append_assoc, List.append_assoc]
  exact List.append_left_lt (List.cons_lt_cons_iff.mpr (.inl hij))

end Place

namespace Config

/-! ### What is wrong where -/

/-- `name` tells a service: it is not blank, and it is the name of one. -/
def Tells (c : Config) (name : String) : Prop :=
  isBlankName name = false ∧ ∃ s ∈ c.services, s.name = name

/-- **What is wrong at a place of a configuration.** -/
inductive Flaw (c : Config) : Place → Problem → Prop
  | blankName {i : Nat} {s : ServiceConfig} (hs : c.services[i]? = some s)
      (h : isBlankName s.name = true) : Flaw c (.name i) .emptyServiceName
  /-- The name is that of a service before this one. -/
  | nameGivenBefore {i : Nat} {s : ServiceConfig} (hs : c.services[i]? = some s)
      (htold : isBlankName s.name = false) (h : ∃ t ∈ c.services.take i, t.name = s.name) :
      Flaw c (.name i) (.duplicateService s.name)
  | noInstances {i : Nat} {s : ServiceConfig} (hs : c.services[i]? = some s)
      (h : s.instances = []) : Flaw c (.instances i) (.noInstances s.name)
  | url {i j : Nat} {s : ServiceConfig} {x : InstanceConfig} {reason : UrlProblem}
      (hs : c.services[i]? = some s) (hx : s.instances[j]? = some x)
      (h : UrlProblem.ofText? x.url = some reason) :
      Flaw c (.url i j) (.invalidUrl s.name x.url reason)
  | healthUrl {i j : Nat} {s : ServiceConfig} {x : InstanceConfig} {reason : UrlProblem}
      (hs : c.services[i]? = some s) (hx : s.instances[j]? = some x)
      (h : UrlProblem.ofText? x.resolvedHealthUrl = some reason) :
      Flaw c (.healthUrl i j) (.invalidUrl s.name x.resolvedHealthUrl reason)
  | pathPrefix {i : Nat} {r : RouteConfig} (hr : c.routes[i]? = some r)
      (h : r.pathPrefix.toList.head? ≠ some '/') :
      Flaw c (.pathPrefix i) (.invalidPathPrefix r.name)
  | destination {i : Nat} {r : RouteConfig} (hr : c.routes[i]? = some r) (h : ¬c.Tells r.service) :
      Flaw c (.destination i) (.unknownRouteService r.name r.service)
  | critical {i : Nat} {name : String} (hname : c.healthCheck.criticalServices[i]? = some name)
      (h : ¬c.Tells name) : Flaw c (.critical i) (.unknownCriticalService name)
  | zero {i : Nat} {field : String × Nat} (hfield : c.positiveFields[i]? = some field)
      (h : field.2 = 0) : Flaw c (.number i) (.zero field.1)

variable {c : Config}

/-- **At most one thing is wrong at a place.** -/
theorem Flaw.unique {p : Place} {x y : Problem} (hx : c.Flaw p x) (hy : c.Flaw p y) : x = y := by
  cases hx <;> cases hy <;> simp_all

/-! ### Accounts -/

/-- **The list accounts for a region** of the document: it tells what is wrong at the places of the
region, one problem for each place where something is, in the order of the document. -/
def Accounts (c : Config) (region : Place → Prop) (problems : List Problem) : Prop :=
  ∃ places : List Place, places.Pairwise Place.Before ∧ (∀ p ∈ places, region p) ∧
    List.Forall₂ c.Flaw places problems ∧ ∀ p x, c.Flaw p x → region p → p ∈ places

/-- Regions are told apart by places where something is wrong. -/
theorem Accounts.congr {region region' : Place → Prop} {problems : List Problem}
    (h : c.Accounts region problems) (hsub : ∀ p, region p → region' p)
    (hflaw : ∀ p x, c.Flaw p x → region' p → region p) : c.Accounts region' problems := by
  obtain ⟨places, hordered, hregion, heach, hcomplete⟩ := h
  exact ⟨places, hordered, fun p hp => hsub p (hregion p hp), heach,
    fun p x hx hp => hcomplete p x hx (hflaw p x hx hp)⟩

/-- Nothing is to be told of an empty region. -/
theorem accounts_nil : c.Accounts (fun _ => False) [] :=
  ⟨[], .nil, by simp, .nil, fun _ _ _ h => h.elim⟩

/-- **Two regions, one behind the other**, are told of one behind the other. -/
theorem Accounts.append {region region' : Place → Prop} {problems problems' : List Problem}
    (h : c.Accounts region problems) (h' : c.Accounts region' problems')
    (hbefore : ∀ p q, region p → region' q → p.Before q) :
    c.Accounts (fun p => region p ∨ region' p) (problems ++ problems') := by
  obtain ⟨places, hordered, hregion, heach, hcomplete⟩ := h
  obtain ⟨places', hordered', hregion', heach', hcomplete'⟩ := h'
  refine ⟨places ++ places', ?_, ?_, List.rel_append heach heach', ?_⟩
  · exact List.pairwise_append.mpr ⟨hordered, hordered', fun p hp q hq =>
      hbefore p q (hregion p hp) (hregion' q hq)⟩
  · intro p hp
    rcases List.mem_append.mp hp with hp | hp
    · exact .inl (hregion p hp)
    · exact .inr (hregion' p hp)
  · rintro p x hx (hp | hp)
    · exact List.mem_append_left _ (hcomplete p x hx hp)
    · exact List.mem_append_right _ (hcomplete' p x hx hp)

/-- **A single place.** -/
theorem accounts_place (p : Place) {problems : List Problem} (hlength : problems.length ≤ 1)
    (h : ∀ x, x ∈ problems ↔ c.Flaw p x) : c.Accounts (Place.Below p.position) problems := by
  match problems with
  | [] =>
      refine ⟨[], .nil, by simp, .nil, fun q x hx hq => ?_⟩
      obtain rfl := Place.eq_of_below hq
      exact absurd ((h x).mpr hx) List.not_mem_nil
  | [x] =>
      refine ⟨[p], List.pairwise_singleton _ _, ?_, .cons ((h x).mp List.mem_cons_self) .nil, ?_⟩
      · intro q hq
        rw [List.mem_singleton.mp hq]
        exact List.prefix_rfl
      · intro q y _ hq
        exact List.mem_singleton.mpr (Place.eq_of_below hq)
  | x :: y :: rest => exact absurd hlength (by simp)

/-- A single place where only one thing can be wrong. -/
theorem accounts_if (p : Place) {P : Prop} [Decidable P] {x : Problem}
    (h : ∀ y, c.Flaw p y ↔ P ∧ y = x) :
    c.Accounts (Place.Below p.position) (if P then [x] else []) := by
  refine accounts_place p ?_ fun y => ?_
  · split
    · exact Nat.le_refl 1
    · exact Nat.zero_le 1
  · rw [h y]
    split
    · next hP => rw [List.mem_singleton, and_iff_right hP]
    · next hP => exact iff_of_false List.not_mem_nil fun hy => hP hy.1

/-- The first branches of a part of the document. -/
theorem accounts_take {front : List Nat} {parts : List (List Problem)}
    (h : ∀ k (hk : k < parts.length), c.Accounts (Place.Below (front ++ [k])) parts[k]) :
    c.Accounts (fun p => ∃ k < parts.length, p.Below (front ++ [k])) parts.flatten := by
  induction parts using List.reverseRecOn with
  | nil => exact accounts_nil.congr (fun p hp => hp.elim) (by simp)
  | append_singleton parts last ih =>
      have hfront := ih fun k hk => by
        have hpart := h k (by rw [List.length_append]; omega)
        rwa [List.getElem_append_left hk] at hpart
      have hlast : c.Accounts (Place.Below (front ++ [parts.length])) last := by
        have hpart := h parts.length (by simp)
        rwa [List.getElem_concat_length rfl] at hpart
      rw [List.flatten_append, List.flatten_cons, List.flatten_nil, List.append_nil]
      refine (hfront.append hlast ?_).congr ?_ ?_
      · rintro p q ⟨k, hk, hp⟩ hq
        exact Place.before_of_below hk hp hq
      · rintro p (⟨k, hk, hp⟩ | hp)
        · exact ⟨k, by rw [List.length_append]; omega, hp⟩
        · exact ⟨parts.length, by simp, hp⟩
      · rintro p x - ⟨k, hk, hp⟩
        rw [List.length_append, List.length_singleton] at hk
        rcases Nat.lt_succ_iff_lt_or_eq.mp hk with hk | rfl
        · exact .inl ⟨k, hk, hp⟩
        · exact .inr hp

/-- **The branches of a part of the document**, all of them, make up the part. -/
theorem accounts_flatten {front : List Nat} {parts : List (List Problem)}
    (h : ∀ k (hk : k < parts.length), c.Accounts (Place.Below (front ++ [k])) parts[k])
    (hall : ∀ p x, c.Flaw p x → p.Below front → ∃ k < parts.length, p.Below (front ++ [k])) :
    c.Accounts (Place.Below front) parts.flatten := by
  refine (accounts_take h).congr ?_ hall
  rintro p ⟨k, -, hp⟩
  exact (List.prefix_append front [k]).trans hp

/-! ### The tree of a configuration -/

/-- The problems of an instance are those of its two addresses. -/
theorem accounts_instance {i j : Nat} {s : ServiceConfig} {x : InstanceConfig}
    (hs : c.services[i]? = some s) (hx : s.instances[j]? = some x) :
    c.Accounts (Place.Below [0, i, 2, j]) (x.problems s.name) := by
  have hparts : x.problems s.name
      = [((UrlProblem.ofText? x.url).map (.invalidUrl s.name x.url)).toList,
          ((UrlProblem.ofText? x.resolvedHealthUrl).map
            (.invalidUrl s.name x.resolvedHealthUrl)).toList].flatten := by
    rw [InstanceConfig.problems, List.filterMap_eq_flatMap_toList]
    rfl
  rw [hparts]
  refine accounts_flatten (fun k hk => ?_) ?_
  · -- the address, and the address of its health
    rcases k with _ | _ | k
    · refine accounts_place (.url i j) Option.length_toList_le fun y => ?_
      rw [List.getElem_cons_zero, Option.mem_toList, Option.map_eq_some_iff]
      constructor
      · rintro ⟨reason, hreason, rfl⟩
        exact .url hs hx hreason
      · rintro (_ | _ | _ | ⟨hs', hx', hreason⟩)
        obtain rfl := Option.some.inj (hs.symm.trans hs')
        obtain rfl := Option.some.inj (hx.symm.trans hx')
        exact ⟨_, hreason, rfl⟩
    · refine accounts_place (.healthUrl i j) Option.length_toList_le fun y => ?_
      rw [List.getElem_cons_succ, List.getElem_cons_zero, Option.mem_toList,
        Option.map_eq_some_iff]
      constructor
      · rintro ⟨reason, hreason, rfl⟩
        exact .healthUrl hs hx hreason
      · intro hflaw
        cases hflaw with
        | healthUrl hs' hx' hreason =>
            obtain rfl := Option.some.inj (hs.symm.trans hs')
            obtain rfl := Option.some.inj (hx.symm.trans hx')
            exact ⟨_, hreason, rfl⟩
    · exact absurd hk (Nat.not_lt.mpr (Nat.le_add_left 2 k))
  · intro p y _ hp
    cases p <;> simp_all [Place.Below, Place.position]

/-- The problem of a name: that there is nothing in it, or that it was given before. -/
theorem mem_nameProblems_iff {i : Nat} {s : ServiceConfig} (hs : c.services[i]? = some s)
    {earlier : List String}
    (hearlier : ∀ name, name ∈ earlier ↔ ∃ t ∈ c.services.take i, t.name = name) (x : Problem) :
    x ∈ s.nameProblems earlier ↔ c.Flaw (.name i) x := by
  rw [ServiceConfig.nameProblems]
  constructor
  · intro hx
    split at hx
    · next hblank =>
        rw [List.mem_singleton.mp hx]
        exact .blankName hs hblank
    · next htold =>
        split at hx
        · next hgiven =>
            rw [List.mem_singleton.mp hx]
            exact .nameGivenBefore hs (Bool.eq_false_iff.mpr htold)
              ((hearlier s.name).mp (List.contains_iff_mem.mp hgiven))
        · cases hx
  · intro hflaw
    cases hflaw with
    | blankName hs' hblank =>
        obtain rfl := Option.some.inj (hs.symm.trans hs')
        rw [if_pos hblank]
        exact List.mem_cons_self
    | nameGivenBefore hs' htold hgiven =>
        obtain rfl := Option.some.inj (hs.symm.trans hs')
        rw [if_neg (ne_true_of_eq_false htold),
          if_pos (List.contains_iff_mem.mpr ((hearlier s.name).mpr hgiven))]
        exact List.mem_cons_self

/-- There is at most one problem of a name. -/
theorem length_nameProblems_le (earlier : List String) (s : ServiceConfig) :
    (s.nameProblems earlier).length ≤ 1 := by
  rw [ServiceConfig.nameProblems]
  split
  · exact Nat.le_refl 1
  · split
    · exact Nat.le_refl 1
    · exact Nat.zero_le 1

/-- **The problems of a service** are those of its name, the lack of instances, and those of its
instances. -/
theorem accounts_service {i : Nat} {s : ServiceConfig} (hs : c.services[i]? = some s)
    {earlier : List String}
    (hearlier : ∀ name, name ∈ earlier ↔ ∃ t ∈ c.services.take i, t.name = name) :
    c.Accounts (Place.Below [0, i]) (s.problems earlier) := by
  have hparts : s.problems earlier
      = [s.nameProblems earlier, if s.instances = [] then [.noInstances s.name] else [],
          (s.instances.map fun x => x.problems s.name).flatten].flatten := by
    rw [ServiceConfig.problems, List.flatMap_def, List.append_assoc]
    simp only [List.flatten_cons, List.flatten_nil, List.append_nil]
  rw [hparts]
  refine accounts_flatten (fun k hk => ?_) ?_
  · -- the name, whether there are instances, and these one by one
    rcases k with _ | _ | _ | k
    · exact accounts_place (.name i) (length_nameProblems_le earlier s)
        (mem_nameProblems_iff hs hearlier)
    · refine accounts_if (.instances i) fun y => ⟨?_, ?_⟩
      · rintro (_ | _ | ⟨hs', hnone⟩)
        obtain rfl := Option.some.inj (hs.symm.trans hs')
        exact ⟨hnone, rfl⟩
      · rintro ⟨hnone, rfl⟩
        exact .noInstances hs hnone
    · refine accounts_flatten (fun j hj => ?_) ?_
      · rw [List.length_map] at hj
        rw [List.getElem_map]
        exact accounts_instance hs (List.getElem?_eq_getElem hj)
      · intro p x hflaw hp
        rw [List.length_map]
        cases hflaw with
        | url hs' hx | healthUrl hs' hx =>
            obtain rfl : i = _ := by simpa [Place.Below, Place.position] using hp
            obtain rfl := Option.some.inj (hs.symm.trans hs')
            exact ⟨_, (List.getElem?_eq_some_iff.mp hx).1, by simp [Place.Below, Place.position]⟩
        | _ => simp [Place.Below, Place.position] at hp
    · exact absurd hk (Nat.not_lt.mpr (Nat.le_add_left 3 k))
  · intro p y _ hp
    cases p <;> simp_all [Place.Below, Place.position]

/-- The problems of some services, one service after the other. -/
theorem serviceProblems_eq_flatten (earlier : List String) (services : List ServiceConfig) :
    serviceProblems earlier services
      = (services.mapIdx fun i s =>
          s.problems (((services.take i).map ServiceConfig.name).reverse ++ earlier)).flatten := by
  induction services generalizing earlier with
  | nil => rfl
  | cons s rest ih =>
      rw [serviceProblems, ih, List.mapIdx_cons, List.flatten_cons]
      simp only [List.take_zero, List.map_nil, List.reverse_nil, List.nil_append,
        List.take_succ_cons, List.map_cons, List.reverse_cons, List.append_assoc,
        List.singleton_append]

/-- **The problems of the services.** -/
theorem accounts_services (c : Config) :
    c.Accounts (Place.Below [0]) (serviceProblems [] c.services) := by
  rw [serviceProblems_eq_flatten]
  refine accounts_flatten (fun i hi => ?_) ?_
  · rw [List.length_mapIdx] at hi
    rw [List.getElem_mapIdx]
    refine accounts_service (List.getElem?_eq_getElem hi) fun name => ?_
    rw [List.append_nil, List.mem_reverse, List.mem_map]
  · intro p x hflaw hp
    rw [List.length_mapIdx]
    cases hflaw with
    | blankName hs | nameGivenBefore hs | noInstances hs | url hs | healthUrl hs =>
        exact ⟨_, (List.getElem?_eq_some_iff.mp hs).1, by simp [Place.Below, Place.position]⟩
    | _ => simp [Place.Below, Place.position] at hp

/-- The names that may be referred to are those that tell a service. -/
theorem mem_serviceNames_iff {name : String} : name ∈ c.serviceNames ↔ c.Tells name := by
  rw [serviceNames, List.mem_filter, List.mem_map, Bool.not_eq_true', and_comm]
  rfl

/-- The problems of a route are those of its prefix and of its service. -/
theorem accounts_route {i : Nat} {r : RouteConfig} (hr : c.routes[i]? = some r) :
    c.Accounts (Place.Below [1, i]) (r.problems c.serviceNames) := by
  have hparts : r.problems c.serviceNames
      = [if r.pathPrefix.toList.head? = some '/' then [] else [.invalidPathPrefix r.name],
          if c.serviceNames.contains r.service then []
          else [.unknownRouteService r.name r.service]].flatten := by
    rw [RouteConfig.problems, List.flatten_cons, List.flatten_cons, List.flatten_nil,
      List.append_nil]
  rw [hparts]
  refine accounts_flatten (fun k hk => ?_) ?_
  · -- the prefix, and the service
    rcases k with _ | _ | k
    · rw [List.getElem_cons_zero, ← ite_not]
      refine accounts_if (.pathPrefix i) fun y => ⟨?_, ?_⟩
      · intro hflaw
        cases hflaw with
        | pathPrefix hr' hwrong =>
            obtain rfl := Option.some.inj (hr.symm.trans hr')
            exact ⟨hwrong, rfl⟩
      · rintro ⟨hwrong, rfl⟩
        exact .pathPrefix hr hwrong
    · rw [List.getElem_cons_succ, List.getElem_cons_zero, ← ite_not]
      refine accounts_if (.destination i) fun y => ?_
      rw [List.contains_iff_mem, mem_serviceNames_iff]
      constructor
      · intro hflaw
        cases hflaw with
        | destination hr' hunknown =>
            obtain rfl := Option.some.inj (hr.symm.trans hr')
            exact ⟨hunknown, rfl⟩
      · rintro ⟨hunknown, rfl⟩
        exact .destination hr hunknown
    · exact absurd hk (Nat.not_lt.mpr (Nat.le_add_left 2 k))
  · intro p y _ hp
    cases p <;> simp_all [Place.Below, Place.position]

/-- **The problems of the routes.** -/
theorem accounts_routes (c : Config) :
    c.Accounts (Place.Below [1]) (c.routes.flatMap (·.problems c.serviceNames)) := by
  rw [List.flatMap_def]
  refine accounts_flatten (fun i hi => ?_) ?_
  · rw [List.length_map] at hi
    rw [List.getElem_map]
    exact accounts_route (List.getElem?_eq_getElem hi)
  · intro p x hflaw hp
    rw [List.length_map]
    cases hflaw with
    | pathPrefix hr | destination hr =>
        exact ⟨_, (List.getElem?_eq_some_iff.mp hr).1, by simp [Place.Below, Place.position]⟩
    | _ => simp [Place.Below, Place.position] at hp

/-- What is said of some entries is said of one entry after the other. -/
theorem map_filter_eq_flatten {α β : Type} (p : α → Bool) (f : α → β) (entries : List α) :
    (entries.filter p).map f
      = (entries.map fun a => if p a = true then [f a] else []).flatten := by
  induction entries with
  | nil => rfl
  | cons a rest ih =>
      rw [List.map_cons, List.flatten_cons, ← ih, List.filter_cons]
      split <;> rfl

/-- Entries with nothing below them, in each of which only one thing can be wrong. -/
theorem accounts_selected {α : Type} {front : List Nat} {entries : List α} {p : α → Bool}
    {f : α → Problem} (place : Nat → Place) (hplace : ∀ i, (place i).position = front ++ [i])
    (h : ∀ i a, entries[i]? = some a → ∀ y, c.Flaw (place i) y ↔ p a = true ∧ y = f a)
    (hall : ∀ q y, c.Flaw q y → q.Below front → ∃ i < entries.length, q = place i) :
    c.Accounts (Place.Below front) ((entries.filter p).map f) := by
  rw [map_filter_eq_flatten]
  refine accounts_flatten (fun i hi => ?_) ?_
  · rw [List.length_map] at hi
    rw [List.getElem_map, ← hplace]
    exact accounts_if (place i) (h i _ (List.getElem?_eq_getElem hi))
  · intro q y hflaw hq
    obtain ⟨i, hi, rfl⟩ := hall q y hflaw hq
    refine ⟨i, by rwa [List.length_map], ?_⟩
    simp only [Place.Below, hplace, List.prefix_rfl]

/-- **The problems of the critical services.** -/
theorem accounts_critical (c : Config) :
    c.Accounts (Place.Below [2])
      ((c.healthCheck.criticalServices.filter fun name => !c.serviceNames.contains name).map
        .unknownCriticalService) := by
  refine accounts_selected .critical (fun _ => rfl) (fun i name hname y => ?_) ?_
  · rw [Bool.not_eq_true', ← Bool.not_eq_true, List.contains_iff_mem, mem_serviceNames_iff]
    constructor
    · intro hflaw
      cases hflaw with
      | critical hname' hunknown =>
          obtain rfl := Option.some.inj (hname.symm.trans hname')
          exact ⟨hunknown, rfl⟩
    · rintro ⟨hunknown, rfl⟩
      exact .critical hname hunknown
  · intro q y hflaw hq
    cases hflaw with
    | critical hname => exact ⟨_, (List.getElem?_eq_some_iff.mp hname).1, rfl⟩
    | _ => simp [Place.Below, Place.position] at hq

/-- **The problems of the numbers.** -/
theorem accounts_numbers (c : Config) :
    c.Accounts (Place.Below [3])
      ((c.positiveFields.filter fun field => field.2 == 0).map fun field => .zero field.1) := by
  refine accounts_selected .number (fun _ => rfl) (fun i field hfield y => ?_) ?_
  · rw [beq_iff_eq]
    constructor
    · intro hflaw
      cases hflaw with
      | zero hfield' hzero =>
          obtain rfl := Option.some.inj (hfield.symm.trans hfield')
          exact ⟨hzero, rfl⟩
    · rintro ⟨hzero, rfl⟩
      exact .zero hfield hzero
  · intro q y hflaw hq
    cases hflaw with
    | zero hfield => exact ⟨_, (List.getElem?_eq_some_iff.mp hfield).1, rfl⟩
    | _ => simp [Place.Below, Place.position] at hq

/-- **The problems of a configuration** are what is wrong with it. -/
theorem accounts_problems (c : Config) : c.Accounts (fun _ => True) c.problems := by
  have hparts : c.problems
      = [serviceProblems [] c.services, c.routes.flatMap (·.problems c.serviceNames),
          (c.healthCheck.criticalServices.filter fun name => !c.serviceNames.contains name).map
            .unknownCriticalService,
          (c.positiveFields.filter fun field => field.2 == 0).map
            fun field => .zero field.1].flatten := by
    rw [problems, List.append_assoc, List.append_assoc]
    simp only [List.flatten_cons, List.flatten_nil, List.append_nil]
  rw [hparts]
  refine (@accounts_flatten c [] _ (fun k hk => ?_) ?_).congr (fun _ _ => trivial)
    fun p _ _ _ => List.nil_prefix
  · rcases k with _ | _ | _ | _ | k
    · exact c.accounts_services
    · exact c.accounts_routes
    · exact c.accounts_critical
    · exact c.accounts_numbers
    · exact absurd hk (Nat.not_lt.mpr (Nat.le_add_left 4 k))
  · intro p x _ _
    cases p <;> simp [Place.Below, Place.position]

/-! ### One list only -/

/-- At every place of an account something is wrong. -/
theorem exists_flaw_of_mem {places : List Place} {problems : List Problem}
    (h : List.Forall₂ c.Flaw places problems) {p : Place} (hp : p ∈ places) : ∃ x, c.Flaw p x := by
  induction h with
  | nil => cases hp
  | @cons q x _ _ hx _ ih =>
      rcases List.mem_cons.mp hp with rfl | hp
      · exact ⟨x, hx⟩
      · exact ih hp

/-- **There is only one list of what is wrong** with a configuration. -/
theorem Accounts.unique {problems problems' : List Problem}
    (h : c.Accounts (fun _ => True) problems) (h' : c.Accounts (fun _ => True) problems') :
    problems = problems' := by
  obtain ⟨places, hordered, -, heach, hcomplete⟩ := h
  obtain ⟨places', hordered', -, heach', hcomplete'⟩ := h'
  have hperm : places.Perm places' := by
    rw [List.perm_ext_iff_of_nodup (hordered.imp Place.Before.ne) (hordered'.imp Place.Before.ne)]
    intro p
    constructor
    · intro hp
      obtain ⟨x, hx⟩ := exists_flaw_of_mem heach hp
      exact hcomplete' p x hx trivial
    · intro hp
      obtain ⟨x, hx⟩ := exists_flaw_of_mem heach' hp
      exact hcomplete p x hx trivial
  obtain rfl : places = places' :=
    List.Perm.eq_of_pairwise (fun p q _ _ hpq hqp => absurd hqp hpq.asymm) hordered hordered' hperm
  exact List.right_unique_forall₂' (fun _ _ _ hx hy => hx.unique hy) heach heach'

/-- Nothing is told exactly if nothing is wrong. -/
theorem problems_eq_nil_iff : c.problems = [] ↔ ∀ p x, ¬c.Flaw p x := by
  obtain ⟨places, -, -, heach, hcomplete⟩ := c.accounts_problems
  constructor
  · intro hnone p x hx
    rw [hnone, List.forall₂_nil_right_iff] at heach
    have hp := hcomplete p x hx trivial
    rw [heach] at hp
    cases hp
  · intro hnone
    rcases hplaces : places with _ | ⟨p, rest⟩
    · rw [hplaces, List.forall₂_nil_left_iff] at heach
      exact heach
    · obtain ⟨x, hx⟩ := exists_flaw_of_mem heach (hplaces ▸ List.mem_cons_self)
      exact absurd hx (hnone p x)

/-! ### Flawless configurations -/

/-- **What is asked of a configuration.** -/
structure Flawless (c : Config) : Prop extends c.Validated where
  told : ∀ s ∈ c.services, isBlankName s.name = false
  critical : ∀ name ∈ c.healthCheck.criticalServices, ∃ s ∈ c.services, s.name = name
  probeInterval : c.healthCheck.intervalSeconds ≠ 0
  probeTimeout : c.healthCheck.timeoutSeconds ≠ 0
  threshold : c.breaker.failureThreshold ≠ 0
  requestTimeout : c.timeouts.requestSeconds ≠ 0
  globalRequests : c.rateLimit.global.requests ≠ 0
  globalWindow : c.rateLimit.global.windowSeconds ≠ 0
  userRequests : c.rateLimit.perUser.requests ≠ 0
  userWindow : c.rateLimit.perUser.windowSeconds ≠ 0
  storeTimeout : c.rateLimit.storeTimeoutMillis ≠ 0

/-- Nothing is wrong with a flawless configuration. -/
theorem Flawless.not_flaw (h : c.Flawless) (p : Place) (x : Problem) : ¬c.Flaw p x := by
  have htells : ∀ name, (∃ s ∈ c.services, s.name = name) → c.Tells name := by
    rintro name ⟨s, hs, rfl⟩
    exact ⟨h.told s hs, s, hs, rfl⟩
  intro hflaw
  cases hflaw with
  | blankName hs hblank =>
      rw [h.told _ (List.mem_of_getElem? hs)] at hblank
      cases hblank
  | @nameGivenBefore i s hs _ hgiven =>
      obtain ⟨t, ht, hname⟩ := hgiven
      obtain ⟨k, hk, rfl⟩ := List.mem_take_iff_getElem.mp ht
      have hbound : k < (c.services.map ServiceConfig.name).length := by
        rw [List.length_map]
        omega
      have hsame : (c.services.map ServiceConfig.name)[k]?
          = (c.services.map ServiceConfig.name)[i]? := by
        rw [List.getElem?_map, List.getElem?_map, hs, List.getElem?_eq_getElem (by omega),
          Option.map_some, Option.map_some, hname]
      rw [List.getElem?_inj hbound h.names] at hsame
      omega
  | noInstances hs hnone => exact h.instances _ (List.mem_of_getElem? hs) hnone
  | url hs hx hreason =>
      rw [(h.urls _ (List.mem_of_getElem? hs) _ (List.mem_of_getElem? hx)).1] at hreason
      cases hreason
  | healthUrl hs hx hreason =>
      rw [(h.urls _ (List.mem_of_getElem? hs) _ (List.mem_of_getElem? hx)).2] at hreason
      cases hreason
  | pathPrefix hr hwrong => exact hwrong (h.prefixes _ (List.mem_of_getElem? hr))
  | destination hr hunknown =>
      exact hunknown (htells _ (h.destinations _ (List.mem_of_getElem? hr)))
  | critical hname hunknown =>
      exact hunknown (htells _ (h.critical _ (List.mem_of_getElem? hname)))
  | zero hfield hzero =>
      have hmem := List.mem_of_getElem? hfield
      simp only [positiveFields, List.mem_cons, List.not_mem_nil, or_false] at hmem
      rcases hmem with rfl | rfl | rfl | rfl | rfl | rfl | rfl | rfl | rfl
      · exact h.probeInterval hzero
      · exact h.probeTimeout hzero
      · exact h.threshold hzero
      · exact h.requestTimeout hzero
      · exact h.globalRequests hzero
      · exact h.globalWindow hzero
      · exact h.userRequests hzero
      · exact h.userWindow hzero
      · exact h.storeTimeout hzero

/-- **A configuration is flawless** exactly if it has no problems. -/
theorem flawless_iff : c.Flawless ↔ c.problems = [] := by
  constructor
  · intro h
    exact problems_eq_nil_iff.mpr h.not_flaw
  · intro hnone
    have hflaw := problems_eq_nil_iff.mp hnone
    have hpositive : ∀ field ∈ c.positiveFields, field.2 ≠ 0 := by
      intro field hfield hzero
      obtain ⟨i, hi⟩ := List.mem_iff_getElem?.mp hfield
      exact hflaw _ _ (.zero hi hzero)
    have hvalid : c.validate = .ok c := by rw [validate, if_pos hnone]
    simp only [positiveFields, List.forall_mem_cons] at hpositive
    obtain ⟨h₁, h₂, h₃, h₄, h₅, h₆, h₇, h₈, h₉, -⟩ := hpositive
    exact
      { validated hvalid with
        told := by
          intro s hs
          obtain ⟨i, hi⟩ := List.mem_iff_getElem?.mp hs
          rw [Bool.eq_false_iff]
          exact fun hblank => hflaw _ _ (.blankName hi hblank)
        critical := fun name hname => exists_of_mem_criticalServices hvalid hname
        probeInterval := h₁
        probeTimeout := h₂
        threshold := h₃
        requestTimeout := h₄
        globalRequests := h₅
        globalWindow := h₆
        userRequests := h₇
        userWindow := h₈
        storeTimeout := h₉ }

/-! ### Names given more than once -/

/-- How often the problems of one service report a name that was given before. -/
theorem count_duplicateService_problems {name : String} (htold : isBlankName name = false)
    (earlier : List String) (s : ServiceConfig) :
    (s.problems earlier).count (.duplicateService name)
      = if s.name = name ∧ name ∈ earlier then 1 else 0 := by
  have hinstances :
      (s.instances.flatMap (·.problems s.name)).count (.duplicateService name) = 0 := by
    simp [List.count_eq_zero, InstanceConfig.problems]
  have hnone : (if s.instances = [] then [Problem.noInstances s.name] else []).count
      (.duplicateService name) = 0 := by
    split <;> simp
  rw [ServiceConfig.problems, List.count_append, List.count_append, hinstances, hnone,
    ServiceConfig.nameProblems]
  by_cases hname : s.name = name
  · subst hname
    rw [if_neg (ne_true_of_eq_false htold)]
    by_cases hgiven : s.name ∈ earlier <;> simp [hgiven]
  · split
    · simp [hname]
    · split <;> simp [hname]

/-- How often the problems of some services report a name that was given before. -/
theorem count_duplicateService_serviceProblems {name : String} (htold : isBlankName name = false)
    (earlier : List String) (services : List ServiceConfig) :
    (serviceProblems earlier services).count (.duplicateService name)
      = if name ∈ earlier then services.countP (·.name = name)
        else services.countP (·.name = name) - 1 := by
  induction services generalizing earlier with
  | nil => simp [serviceProblems]
  | cons s rest ih =>
      rw [serviceProblems, List.count_append, count_duplicateService_problems htold, ih,
        List.countP_cons]
      by_cases hname : s.name = name
      · subst hname
        by_cases hgiven : s.name ∈ earlier
        · simp [hgiven, Nat.add_comm]
        · simp [hgiven]
      · simp [hname, Ne.symm hname]

/-- **A name is reported once for every service that is given it again.** -/
theorem count_duplicateService {name : String} (htold : isBlankName name = false) (c : Config) :
    c.problems.count (.duplicateService name) = c.services.countP (·.name = name) - 1 := by
  have hroutes :
      (c.routes.flatMap (·.problems c.serviceNames)).count (.duplicateService name) = 0 := by
    rw [List.count_eq_zero, List.mem_flatMap]
    rintro ⟨r, -, hr⟩
    rw [RouteConfig.problems, List.mem_append] at hr
    rcases hr with hr | hr <;> split at hr <;> simp at hr
  have hcritical : ∀ names : List String,
      (names.map Problem.unknownCriticalService).count (.duplicateService name) = 0 := by
    simp [List.count_eq_zero]
  have hnumbers : ∀ fields : List (String × Nat),
      (fields.map fun field => Problem.zero field.1).count (.duplicateService name) = 0 := by
    simp [List.count_eq_zero]
  rw [problems, List.count_append, List.count_append, List.count_append, hroutes, hcritical,
    hnumbers, count_duplicateService_serviceProblems htold, if_neg List.not_mem_nil]
  rfl

/-- **Validation is sound, complete and exhaustive.** A configuration is accepted exactly if it is
flawless. If it is not, it is refused with what is wrong with it: one problem for each place where
something is wrong, in the order of the document, and nothing else. A name that is not blank is
reported once less than it is given. -/
theorem validate_exhaustive (c : Config) :
    (c.validate = .ok c ↔ c.Flawless) ∧
      (¬c.Flawless → ∃ problems, c.validate = .error problems ∧
        c.Accounts (fun _ => True) problems ∧
        (∀ others, c.Accounts (fun _ => True) others → others = problems) ∧
        ∀ name, isBlankName name = false →
          problems.count (.duplicateService name) = c.services.countP (·.name = name) - 1) := by
  constructor
  · rw [flawless_iff]
    refine ⟨problems_of_validate, fun hnone => ?_⟩
    rw [validate, if_pos hnone]
  · intro hflawed
    refine ⟨c.problems, ?_, c.accounts_problems, fun others hothers => ?_, fun name htold => ?_⟩
    · rw [validate, if_neg (mt flawless_iff.mpr hflawed)]
    · exact hothers.unique c.accounts_problems
    · exact count_duplicateService htold c

/-- Everything at once: the second and the fourth service have the name of the first, which has no
instances, the third one has a blank name, which no route can lead to, and both addresses of the
only instance are of a foreign scheme. -/
theorem validate_exhaustive_all_at_once :
    let abroad : InstanceConfig := { url := "https://10.0.0.1" }
    let c : Config :=
      { services := [⟨"users", []⟩, ⟨"users", [{ url := "http://u" }, abroad]⟩, ⟨" ", []⟩,
          ⟨"users", [{ url := "http://v" }]⟩]
        routes := [{ name := "blank", pathPrefix := "api", service := " " },
          { name := "users", pathPrefix := "/", service := "users" }]
        healthCheck := { timeoutSeconds := 0, criticalServices := ["orders", "users", "orders"] }
        breaker := { failureThreshold := 0 } }
    let problems : List Problem :=
      [.noInstances "users", .duplicateService "users",
        .invalidUrl "users" "https://10.0.0.1" (.unsupportedScheme "https"),
        .invalidUrl "users" "https://10.0.0.1/health" (.unsupportedScheme "https"),
        .emptyServiceName, .noInstances " ", .duplicateService "users",
        .invalidPathPrefix "blank", .unknownRouteService "blank" " ",
        .unknownCriticalService "orders", .unknownCriticalService "orders",
        .zero "health_check.timeout_secs", .zero "circuit_breaker.failure_threshold"]
    c.validate = .error problems ∧ ¬c.Flawless ∧ c.Accounts (fun _ => True) problems ∧
      problems.count (.duplicateService "users") = c.services.countP (·.name = "users") - 1 := by
  intro abroad c problems
  have hrefused : c.validate = .error problems := by decide +kernel
  obtain ⟨haccepted, hflawed⟩ := validate_exhaustive c
  have hnot : ¬c.Flawless := by
    intro h
    rw [haccepted.mpr h] at hrefused
    cases hrefused
  obtain ⟨told, htold, haccounts, -, hcount⟩ := hflawed hnot
  obtain rfl : told = problems := Except.error.inj (htold.symm.trans hrefused)
  exact ⟨hrefused, hnot, haccounts, hcount "users" (by decide)⟩

end Config

end Tollgate
