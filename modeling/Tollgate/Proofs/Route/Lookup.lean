import Tollgate.Proofs.Route.Prefix
import Tollgate.Proofs.Route.Table

/-!
# Looking up a route

A lookup takes the first route of the table that matches, and the table is in the order of specificity.
So what it finds is the matching route with the longest prefix. Two prefixes of one path that are
equally long are the same prefix (`PathPrefix.eq_of_remainder?`); among the routes of one prefix the
table keeps the order of the configuration, and the lookup finds the first of them.

## Conventions

* Prefixes are compared without the slashes at their end, and their length is counted in bytes.

## Main results

* `RouteTable.IsBest.unique`: at most one configured route is the best one for a path.
* `RouteTable.lookup_longest`: a lookup finds the best route, if any route matches.
-/

namespace Tollgate

namespace PathPrefix

/-- **Prefixes of one path** are the same if they are equally specific. -/
theorem eq_of_remainder? {p q : PathPrefix} {path rest rest' : String}
    (hp : p.remainder? path = some rest) (hq : q.remainder? path = some rest')
    (hsize : p.specificity = q.specificity) : p = q := by
  have hsame : p.bare ++ rest = q.bare ++ rest' :=
    (remainder?_eq_some_iff.mp hp).1.symm.trans (remainder?_eq_some_iff.mp hq).1
  have hbytes : p.bare.toByteArray ++ rest.toByteArray = q.bare.toByteArray ++ rest'.toByteArray := by
    rw [← String.toByteArray_append, hsame, String.toByteArray_append]
  have hbare : p.bare = q.bare :=
    String.toByteArray_inj.mp (ByteArray.append_inj_left hbytes hsize)
  cases p
  cases q
  rw [PathPrefix.mk.injEq]
  exact hbare

end PathPrefix

namespace RouteTable

/-- **The best route for a path** matches it, no route that matches has a longer prefix, and it is the
first route of its prefix. -/
structure IsBest (routes : List RouteConfig) (path : String) (r : RouteConfig) : Prop where
  isMatch : r.Matches path
  longest : ∀ s ∈ routes, s.Matches path →
    (trimSlashes s.pathPrefix).utf8ByteSize ≤ (trimSlashes r.pathPrefix).utf8ByteSize
  first : routes.find? (fun s => trimSlashes s.pathPrefix = trimSlashes r.pathPrefix) = some r

variable {routes : List RouteConfig} {path : String} {r r' : RouteConfig}

/-- The best route is a configured one. -/
theorem IsBest.mem (h : IsBest routes path r) : r ∈ routes :=
  List.mem_of_find?_eq_some h.first

/-- **At most one route is the best one.** -/
theorem IsBest.unique (h : IsBest routes path r) (h' : IsBest routes path r') : r = r' := by
  have hsize := Nat.le_antisymm (h'.longest r h.mem h.isMatch) (h.longest r' h'.mem h'.isMatch)
  obtain ⟨rest, hrest⟩ :=
    Option.isSome_iff_exists.mp (RouteConfig.matches_iff_isMatch.mp h.isMatch)
  obtain ⟨rest', hrest'⟩ :=
    Option.isSome_iff_exists.mp (RouteConfig.matches_iff_isMatch.mp h'.isMatch)
  have hsame :=
    PathPrefix.ofText_eq_ofText_iff.mp (PathPrefix.eq_of_remainder? hrest hrest' hsize)
  have hfirst := h.first
  rw [hsame, h'.first] at hfirst
  exact (Option.some.inj hfirst).symm

/-- The first route of a prefix in the table is the first configured one. -/
theorem find?_ofConfig (routes : List RouteConfig) (p : PathPrefix) :
    (ofConfig routes).routes.find? (·.pathPrefix = p)
      = (routes.find? fun r => PathPrefix.ofText r.pathPrefix = p).map Route.ofConfig := by
  rw [← List.head?_filter, filter_ofConfig, List.head?_filter, List.find?_map]
  rfl

/-- A configured route is in the table. -/
theorem ofConfig_mem (h : r ∈ routes) : Route.ofConfig r ∈ (ofConfig routes).routes :=
  (perm_ofConfig routes).mem_iff.mpr (List.mem_map_of_mem h)

/-- Nothing is found exactly if no route matches. -/
theorem lookup_eq_none_iff :
    (ofConfig routes).lookup path = none ↔ ∀ r ∈ routes, ¬r.Matches path := by
  have hmatch : ∀ r : RouteConfig, (Route.ofConfig r).match? path = none ↔ ¬r.Matches path := by
    intro r
    rw [RouteConfig.matches_iff_isMatch, ← Option.not_isSome_iff_eq_none, Route.isSome_match?]
    rfl
  rw [lookup, List.findSome?_eq_none_iff]
  constructor
  · intro h r hr
    exact (hmatch r).mp (h _ (ofConfig_mem hr))
  · intro h route hroute
    obtain ⟨r, hr, rfl⟩ := List.mem_map.mp ((perm_ofConfig routes).mem_iff.mp hroute)
    exact (hmatch r).mpr (h r hr)

/-- **What is found** is what the best route makes of the path. -/
theorem exists_isBest_of_lookup {m : RouteMatch} (h : (ofConfig routes).lookup path = some m) :
    ∃ r, IsBest routes path r ∧ (Route.ofConfig r).match? path = some m := by
  obtain ⟨before, route, behind, htable, hmatch, hbefore⟩ := List.findSome?_eq_some_iff.mp h
  have hroute : route.pathPrefix.isMatch path = true := by
    rw [← Route.isSome_match?, hmatch, Option.isSome_some]
  -- a route of the same prefix before this one would have matched
  have hfirst : (ofConfig routes).routes.find? (·.pathPrefix = route.pathPrefix) = some route := by
    refine List.find?_eq_some_iff_append.mpr
      ⟨decide_eq_true rfl, before, behind, htable, fun s hs => ?_⟩
    rw [Bool.not_eq_true', decide_eq_false_iff_not]
    intro hsame
    have hmissed := Route.isSome_match? s path
    rw [hbefore s hs, hsame, hroute] at hmissed
    cases hmissed
  rw [find?_ofConfig] at hfirst
  obtain ⟨r, hr, rfl⟩ := Option.map_eq_some_iff.mp hfirst
  refine ⟨r, ⟨RouteConfig.matches_iff_isMatch.mpr hroute, fun s hs hsmatch => ?_, ?_⟩, hmatch⟩
  · -- a route that matches does not stand before this one
    have hsorted := isSorted_ofConfig routes
    have hmem := ofConfig_mem hs
    rw [htable] at hsorted hmem
    rcases List.mem_append.mp hmem with hmem | hmem
    · have hmissed := Route.isSome_match? (Route.ofConfig s) path
      rw [hbefore _ hmem] at hmissed
      exact absurd (RouteConfig.matches_iff_isMatch.mp hsmatch) (ne_true_of_eq_false hmissed.symm)
    · rcases List.mem_cons.mp hmem with heq | hmem
      · have hsame := (Route.mk.inj heq).2.2.1
        rw [PathPrefix.ofText_eq_ofText_iff.mp hsame]
      · have hbehind := (List.pairwise_cons.mp (List.pairwise_append.mp hsorted).2.1).1 _ hmem
        simpa only [Route.ofConfig, PathPrefix.specificity_ofText] using hbehind
  · simpa only [Route.ofConfig, PathPrefix.ofText_eq_ofText_iff] using hr

/-- **The longest prefix wins.** A lookup finds nothing exactly if no route matches; and what it finds
is the best route with its service, asked for the path as it came or, if the route replaces its prefix,
for the replacement and what follows the prefix in the path, with a slash in front. -/
theorem lookup_longest (routes : List RouteConfig) (path : String) :
    ((ofConfig routes).lookup path = none ↔ ∀ r ∈ routes, ¬r.Matches path) ∧
      ∀ m, (ofConfig routes).lookup path = some m ↔
        ∃ r rest, IsBest routes path r ∧ path = trimSlashes r.pathPrefix ++ rest ∧
          m = ⟨r.name, r.service, r.target path rest⟩ := by
  refine ⟨lookup_eq_none_iff, fun m => ⟨fun h => ?_, ?_⟩⟩
  · obtain ⟨r, hbest, hmatch⟩ := exists_isBest_of_lookup h
    obtain ⟨rest, hrest, hm⟩ := Route.match?_eq_some_iff.mp hmatch
    exact ⟨r, rest, hbest, (PathPrefix.remainder?_eq_some_iff.mp hrest).1, hm⟩
  · rintro ⟨r, rest, hbest, hpath, rfl⟩
    rcases hfound : (ofConfig routes).lookup path with _ | m
    · exact absurd hbest.isMatch (lookup_eq_none_iff.mp hfound r hbest.mem)
    · obtain ⟨r', hbest', hmatch⟩ := exists_isBest_of_lookup hfound
      obtain rfl := hbest.unique hbest'
      obtain ⟨rest', hrest', rfl⟩ := Route.match?_eq_some_iff.mp hmatch
      have hsame : rest' = rest :=
        (String.append_right_inj _).mp
          ((PathPrefix.remainder?_eq_some_iff.mp hrest').1.symm.trans hpath)
      rw [hsame]

-- the longer prefix wins over the root, and the first of two that differ in slashes over the second
example :
    (ofConfig
        [{ name := "root", pathPrefix := "//", service := "a" },
          { name := "users", pathPrefix := "/users/", service := "b", replacement := some "v2/" },
          { name := "again", pathPrefix := "/users", service := "c" }]).lookup "/users/1"
      = some ⟨"users", "b", "/v2/1"⟩ := by
  decide +kernel

end RouteTable

end Tollgate
