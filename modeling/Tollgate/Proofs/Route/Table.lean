import Mathlib.Data.List.Perm.Basic
import Tollgate.Route.Table

/-!
# Tables of routes

A table holds the configured routes in another order (`RouteTable.perm_ofConfig`), so whatever a
lookup finds was configured (`RouteTable.exists_of_lookup`). The order is that of specificity, the most
specific route first, and among the routes of one prefix that of the configuration.

## Main results

* `RouteTable.perm_ofConfig`: compiling drops no route, and makes up none.
* `RouteTable.isSorted_ofConfig`, `RouteTable.filter_ofConfig`: the order of a table.
* `RouteTable.exists_of_lookup`: the route that a lookup finds.
-/

namespace Tollgate

/-- A match is on the service of its route. -/
theorem Route.service_of_match? {r : Route} {path : String} {m : RouteMatch}
    (h : r.match? path = some m) : m.service = r.service := by
  obtain ⟨target, -, rfl⟩ := Option.map_eq_some_iff.mp h
  rfl

namespace RouteTable

/-- Inserting a route adds it to the others. -/
theorem perm_insert (r : Route) (table : List Route) : (insert r table).Perm (r :: table) := by
  induction table with
  | nil => exact .refl _
  | cons s rest ih =>
      rw [insert]
      split
      · exact (ih.cons s).trans (.swap r s rest)
      · exact .refl _

/-- Inserting some routes adds them to the others. -/
theorem perm_foldl_insert (routes table : List Route) :
    (routes.foldl (fun table r => insert r table) table).Perm (routes ++ table) := by
  induction routes generalizing table with
  | nil => exact .refl _
  | cons r rest ih =>
      have hfront : (rest ++ insert r table).Perm (rest ++ r :: table) :=
        (perm_insert r table).append_left rest
      exact (ih _).trans (hfront.trans List.perm_middle)

/-- **A table holds the configured routes**, in another order. -/
theorem perm_ofConfig (routes : List RouteConfig) :
    (ofConfig routes).routes.Perm (routes.map Route.ofConfig) := by
  have hperm := perm_foldl_insert (routes.map Route.ofConfig) []
  rwa [List.append_nil] at hperm

/-- No route stands behind a less specific one. -/
def IsSorted (table : List Route) : Prop :=
  table.Pairwise fun r s => s.pathPrefix.specificity ≤ r.pathPrefix.specificity

/-- Inserting a route keeps the order. -/
theorem IsSorted.insert {table : List Route} (h : IsSorted table) (r : Route) :
    IsSorted (insert r table) := by
  induction table with
  | nil => exact List.pairwise_singleton _ r
  | cons s rest ih =>
      obtain ⟨hfirst, hrest⟩ := List.pairwise_cons.mp h
      rw [RouteTable.insert]
      split
      · next hbehind =>
          refine List.pairwise_cons.mpr ⟨fun t ht => ?_, ih hrest⟩
          rcases List.mem_cons.mp ((perm_insert r rest).mem_iff.mp ht) with rfl | ht
          · exact hbehind
          · exact hfirst t ht
      · next hfront =>
          have hahead := Nat.le_of_not_le hfront
          refine List.pairwise_cons.mpr ⟨fun t ht => ?_, h⟩
          rcases List.mem_cons.mp ht with rfl | ht
          · exact hahead
          · exact Nat.le_trans (hfirst t ht) hahead

/-- A route is inserted behind those of its prefix. -/
theorem IsSorted.filter_insert {table : List Route} (h : IsSorted table) (r : Route)
    (p : PathPrefix) :
    (RouteTable.insert r table).filter (·.pathPrefix = p)
      = table.filter (·.pathPrefix = p) ++ [r].filter (·.pathPrefix = p) := by
  induction table with
  | nil => rfl
  | cons s rest ih =>
      obtain ⟨hfirst, hrest⟩ := List.pairwise_cons.mp h
      rw [RouteTable.insert]
      split
      · rw [List.filter_cons, List.filter_cons, ih hrest]
        split
        · rw [List.cons_append]
        · rfl
      · next hfront =>
          -- what is less specific has another prefix
          have hother : ∀ t ∈ s :: rest, t.pathPrefix ≠ r.pathPrefix := by
            intro t ht hsame
            refine hfront ?_
            rw [← hsame]
            rcases List.mem_cons.mp ht with rfl | ht
            · exact Nat.le_refl _
            · exact hfirst t ht
          rw [← List.singleton_append, List.filter_append]
          by_cases hr : r.pathPrefix = p
          · have hnone : (s :: rest).filter (·.pathPrefix = p) = [] :=
              List.filter_eq_nil_iff.mpr fun t ht => by simpa [← hr] using hother t ht
            rw [hnone, List.append_nil, List.nil_append]
          · have hnone : [r].filter (·.pathPrefix = p) = [] :=
              List.filter_eq_nil_iff.mpr fun t ht => by simpa [List.mem_singleton.mp ht] using hr
            rw [hnone, List.append_nil, List.nil_append]

/-- Inserting routes one by one keeps the order, and puts those of one prefix behind the others of
it. -/
theorem IsSorted.foldl_insert {table : List Route} (h : IsSorted table) (routes : List Route) :
    IsSorted (routes.foldl (fun table r => RouteTable.insert r table) table) ∧
      ∀ p, (routes.foldl (fun table r => RouteTable.insert r table) table).filter (·.pathPrefix = p)
        = table.filter (·.pathPrefix = p) ++ routes.filter (·.pathPrefix = p) := by
  induction routes generalizing table with
  | nil => exact ⟨h, fun p => (List.append_nil _).symm⟩
  | cons r rest ih =>
      obtain ⟨hsorted, hfilter⟩ := ih (h.insert r)
      refine ⟨hsorted, fun p => ?_⟩
      rw [List.foldl_cons, hfilter, h.filter_insert, List.append_assoc, ← List.filter_append,
        List.singleton_append]

/-- **The most specific routes come first.** -/
theorem isSorted_ofConfig (routes : List RouteConfig) : IsSorted (ofConfig routes).routes :=
  (IsSorted.foldl_insert List.Pairwise.nil _).1

/-- **Routes of one prefix** stay in configured order. -/
theorem filter_ofConfig (routes : List RouteConfig) (p : PathPrefix) :
    (ofConfig routes).routes.filter (·.pathPrefix = p)
      = (routes.map Route.ofConfig).filter (·.pathPrefix = p) :=
  (IsSorted.foldl_insert List.Pairwise.nil _).2 p

/-- **What a lookup finds** is a configured route. -/
theorem exists_of_lookup {routes : List RouteConfig} {path : String} {m : RouteMatch}
    (h : (ofConfig routes).lookup path = some m) :
    ∃ r ∈ routes, (Route.ofConfig r).match? path = some m ∧ r.service = m.service := by
  obtain ⟨route, hroute, hmatch⟩ := List.exists_of_findSome?_eq_some h
  obtain ⟨r, hr, rfl⟩ := List.mem_map.mp ((perm_ofConfig routes).mem_iff.mp hroute)
  exact ⟨r, hr, hmatch, (Route.service_of_match? hmatch).symm⟩

end RouteTable

end Tollgate
