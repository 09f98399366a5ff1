import Tollgate.Proofs.Route.Lookup

/-!
# Replacing prefixes

A route may ask its service for another path than the one that came in, with a replacement in the
place of the prefix. Where the replacement is a path below the root, it is itself a prefix that
matches what came out, and putting the old prefix in its place restores the path
(`PathPrefix.replace?_replace?`). So the route takes no two paths to the same one
(`RouteTable.eq_of_targetPath_eq`), and what follows the prefix is not touched.

## Conventions

* A path below the root starts with a slash and is not made of slashes alone.
* What a path is asked for as is its target, the text that is written behind the address of an
  instance. How the whole is read then, and what is sent, is another matter
  (`Server.rewriting_reversible`).

## Main results

* `PathPrefix.replace?_eq_some_iff`: what comes out starts with the replacement.
* `PathPrefix.replace?_replace?`: replacing a prefix can be undone.
* `RouteTable.targetPath_of_lookup`: what is asked for under a route that replaces its prefix.
* `RouteTable.eq_of_targetPath_eq`: no path is lost under such a route.
-/

namespace Tollgate

namespace PathPrefix

variable {p r : String} {x y rest : String}

/-- **What comes out** is the replacement with the remainder of the path behind it, where the
replacement is a path below the root. -/
theorem replace?_eq_some_iff (hslash : r.toList.head? = some '/')
    (hother : ∃ c ∈ r.toList, c ≠ '/') :
    (ofText p).replace? x r = some y
      ↔ ∃ rest, (ofText p).remainder? x = some rest ∧ y = trimSlashes r ++ rest := by
  have hrooted : ∀ rest, rooted (trimSlashes r ++ rest) = trimSlashes r ++ rest := by
    intro rest
    apply rooted_of_head?
    rw [String.toList_append, List.head?_append, head?_trimSlashes hslash hother, Option.some_or]
  simp only [replace?_eq, hrooted, Option.map_eq_some_iff, eq_comm (a := y)]

/-- A remainder behind one prefix is the remainder behind any other. -/
theorem remainder?_append (h : (ofText p).remainder? x = some rest) (q : String) :
    (ofText q).remainder? (trimSlashes q ++ rest) = some rest :=
  remainder?_eq_some_iff.mpr ⟨rfl, (remainder?_eq_some_iff.mp h).2⟩

/-- **Replacing a prefix can be undone**: what comes out starts with a slash and is matched by the
replacement, and the prefix put in its place restores the path. -/
theorem replace?_replace? (hslash : r.toList.head? = some '/') (hother : ∃ c ∈ r.toList, c ≠ '/')
    (hx : x.toList.head? = some '/') (h : (ofText p).replace? x r = some y) :
    y.toList.head? = some '/' ∧ (ofText r).isMatch y = true ∧ (ofText r).replace? y p = some x := by
  obtain ⟨rest, hrest, rfl⟩ := (replace?_eq_some_iff hslash hother).mp h
  have hback := remainder?_append hrest r
  refine ⟨?_, ?_, ?_⟩
  · rw [String.toList_append, List.head?_append, head?_trimSlashes hslash hother, Option.some_or]
  · rw [isMatch, hback, Option.isSome_some]
  · have hpath : x = trimSlashes p ++ rest := (remainder?_eq_some_iff.mp hrest).1
    rw [replace?_eq, hback, Option.map_some, ← hpath, rooted_of_head? hx]

end PathPrefix

namespace RouteTable

variable {routes : List RouteConfig} {route : RouteConfig} {r x x' : String} {m m' : RouteMatch}

/-- What the best route asks for instead of a path, if it replaces its prefix by a path below the
root. -/
theorem targetPath_of_lookup (hslash : r.toList.head? = some '/')
    (hother : ∃ c ∈ r.toList, c ≠ '/') (hreplacement : route.replacement = some r)
    (hbest : IsBest routes x route) (hfound : (ofConfig routes).lookup x = some m) :
    ∃ rest, x = trimSlashes route.pathPrefix ++ rest ∧ m.targetPath = trimSlashes r ++ rest := by
  obtain ⟨route', hbest', hmatch⟩ := exists_isBest_of_lookup hfound
  obtain rfl := hbest.unique hbest'
  rw [Route.match?, Option.map_eq_some_iff] at hmatch
  obtain ⟨target, htarget, rfl⟩ := hmatch
  rw [Route.target?, Route.ofConfig, hreplacement] at htarget
  obtain ⟨rest, hrest, rfl⟩ := (PathPrefix.replace?_eq_some_iff hslash hother).mp htarget
  exact ⟨rest, (PathPrefix.remainder?_eq_some_iff.mp hrest).1, rfl⟩

/-- **No two paths are asked for as the same** under a route that replaces its prefix by a path
below the root. -/
theorem eq_of_targetPath_eq (hslash : r.toList.head? = some '/')
    (hother : ∃ c ∈ r.toList, c ≠ '/') (hreplacement : route.replacement = some r)
    (hbest : IsBest routes x route) (hbest' : IsBest routes x' route)
    (hfound : (ofConfig routes).lookup x = some m) (hfound' : (ofConfig routes).lookup x' = some m')
    (hsame : m.targetPath = m'.targetPath) : x = x' := by
  obtain ⟨rest, rfl, htarget⟩ := targetPath_of_lookup hslash hother hreplacement hbest hfound
  obtain ⟨rest', rfl, htarget'⟩ := targetPath_of_lookup hslash hother hreplacement hbest' hfound'
  rw [htarget, htarget', String.append_right_inj] at hsame
  rw [hsame]

end RouteTable

end Tollgate
