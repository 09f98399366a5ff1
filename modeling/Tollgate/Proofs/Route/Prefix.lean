import Tollgate.Proofs.Text.Slashes
import Tollgate.Route.Table

/-!
# Prefixes of paths

A prefix matches a path that it is, or that goes on with a slash behind it
(`PathPrefix.remainder?_eq_some_iff`). Whether a route matches depends on its prefix only, and what is
asked for instead of the path on its replacement and on what follows the prefix
(`Route.match?_eq_some_iff`).

## Main results

* `PathPrefix.remainder?_eq_some_iff`: a prefix matches whole segments.
* `RouteConfig.matches_iff_isMatch`: which paths a configured route matches.
* `Route.match?_eq_some_iff`: what a configured route makes of a path.
-/

namespace Tollgate

namespace PathPrefix

/-- A prefix is kept without the slashes at its end. -/
@[simp]
theorem bare_ofText (s : String) : (ofText s).bare = trimSlashes s :=
  rfl

/-- Specificity is a matter of what is kept. -/
@[simp]
theorem specificity_ofText (s : String) : (ofText s).specificity = (trimSlashes s).utf8ByteSize :=
  rfl

/-- Texts stand for the same prefix if they differ in slashes at the end only. -/
theorem ofText_eq_ofText_iff {s t : String} : ofText s = ofText t ↔ trimSlashes s = trimSlashes t := by
  rw [ofText, ofText, PathPrefix.mk.injEq]

/-- A text is found in front of whatever follows it. -/
theorem dropList?_append (p rest : List Char) : dropList? p (p ++ rest) = some rest := by
  induction p with
  | nil => rfl
  | cons c p ih => rw [List.cons_append, dropList?, if_pos rfl, ih]

/-- What is left of a path is what follows the prefix. -/
theorem eq_append_of_dropList? {p path rest : List Char} (h : dropList? p path = some rest) :
    path = p ++ rest := by
  induction p generalizing path with
  | nil =>
      rw [dropList?, Option.some.injEq] at h
      exact h
  | cons c p ih =>
      cases path with
      | nil => cases h
      | cons d path =>
          rw [dropList?] at h
          by_cases hd : c = d
          · rw [if_pos hd] at h
            rw [← hd, ih h, List.cons_append]
          · rw [if_neg hd] at h
            cases h

/-- **A prefix matches whole segments**: what follows it is nothing, or starts with a slash. -/
theorem remainder?_eq_some_iff {p : PathPrefix} {path rest : String} :
    p.remainder? path = some rest ↔
      path = p.bare ++ rest ∧ (rest = "" ∨ rest.toList.head? = some '/') := by
  constructor
  · intro h
    rw [remainder?] at h
    split at h
    · next hdrop =>
        cases h
        refine ⟨String.toList_injective ?_, .inl rfl⟩
        rw [String.toList_append, eq_append_of_dropList? hdrop]
        rfl
    · next behind hdrop =>
        cases h
        refine ⟨String.toList_injective ?_, .inr (by rw [String.toList_ofList, List.head?_cons])⟩
        rw [String.toList_append, String.toList_ofList, eq_append_of_dropList? hdrop]
    · cases h
  · rintro ⟨rfl, hrest⟩
    rw [remainder?, String.toList_append, dropList?_append]
    rcases hrest with rfl | hslash
    · rfl
    · obtain ⟨behind, hbehind⟩ := List.head?_eq_some_iff.mp hslash
      have hsame : String.ofList ('/' :: behind) = rest := by rw [← hbehind, String.ofList_toList]
      rw [hbehind, ← hsame]
      rfl

/-- A prefix is replaced in front of what follows it. -/
theorem replace?_eq (p : PathPrefix) (path replacement : String) :
    p.replace? path replacement
      = (p.remainder? path).map fun rest => rooted (trimSlashes replacement ++ rest) := by
  rw [replace?]
  refine congrArg (fun f => (p.remainder? path).map f) (funext fun rest => ?_)
  simp only
  split
  · next behind hslash => rw [rooted_of_head? (by rw [hslash, List.head?_cons])]
  · next hnone => rw [rooted_of_forall_ne hnone]

end PathPrefix

namespace RouteConfig

/-- **The route matches the path**: it is the prefix without slashes at its end, or goes on with a
slash behind that. -/
def Matches (r : RouteConfig) (path : String) : Prop :=
  path = trimSlashes r.pathPrefix ∨ ∃ rest, path = trimSlashes r.pathPrefix ++ "/" ++ rest

/-- What a path is asked for as, if `rest` follows the prefix in it: as it came, or with the prefix
replaced. -/
def target (r : RouteConfig) (path rest : String) : String :=
  match r.replacement with
  | none => path
  | some p => rooted (trimSlashes p ++ rest)

/-- A path that matches is the prefix and a remainder, which is empty or starts with a slash. -/
theorem matches_iff {r : RouteConfig} {path : String} :
    r.Matches path ↔
      ∃ rest, path = trimSlashes r.pathPrefix ++ rest ∧
        (rest = "" ∨ rest.toList.head? = some '/') := by
  constructor
  · rintro (rfl | ⟨rest, rfl⟩)
    · exact ⟨"", (String.append_empty).symm, .inl rfl⟩
    · exact ⟨"/" ++ rest, String.append_assoc, .inr (by rw [String.toList_append]; rfl)⟩
  · rintro ⟨rest, rfl, rfl | hslash⟩
    · exact .inl String.append_empty
    · obtain ⟨behind, hbehind⟩ := List.head?_eq_some_iff.mp hslash
      refine .inr ⟨String.ofList behind, String.toList_injective ?_⟩
      simp only [String.toList_append, String.toList_ofList, hbehind, List.append_assoc]
      rfl

/-- A configured route matches where its prefix does. -/
theorem matches_iff_isMatch {r : RouteConfig} {path : String} :
    r.Matches path ↔ (PathPrefix.ofText r.pathPrefix).isMatch path = true := by
  rw [matches_iff, PathPrefix.isMatch, Option.isSome_iff_exists]
  simp only [PathPrefix.remainder?_eq_some_iff, PathPrefix.bare_ofText]

end RouteConfig

namespace Route

/-- **Whether a route matches** is a matter of its prefix. -/
theorem isSome_match? (r : Route) (path : String) :
    (r.match? path).isSome = r.pathPrefix.isMatch path := by
  rw [match?, Option.isSome_map, target?]
  split
  · rw [PathPrefix.replace?, Option.isSome_map, PathPrefix.isMatch]
  · split
    · next hmatch => rw [hmatch, Option.isSome_some]
    · next hmatch => rw [Bool.eq_false_iff.mpr hmatch, Option.isSome_none]

/-- The target of a route is the path as it came, or the replacement and the remainder with a slash in
front. -/
theorem target?_eq_some_iff {r : RouteConfig} {path target : String} :
    (ofConfig r).target? path = some target ↔
      ∃ rest, (PathPrefix.ofText r.pathPrefix).remainder? path = some rest ∧
        target = r.target path rest := by
  rw [ofConfig, target?]
  unfold RouteConfig.target
  rcases r.replacement with _ | p
  · constructor
    · intro h
      obtain ⟨hmatch, htarget⟩ := Option.ite_none_right_eq_some.mp h
      obtain ⟨rest, hrest⟩ := Option.isSome_iff_exists.mp hmatch
      exact ⟨rest, hrest, (Option.some.inj htarget).symm⟩
    · rintro ⟨rest, hrest, rfl⟩
      exact if_pos (Option.isSome_of_mem hrest)
  · simp only [PathPrefix.replace?_eq, Option.map_eq_some_iff, eq_comm (a := target)]

/-- **What a configured route makes of a path** that it matches. -/
theorem match?_eq_some_iff {r : RouteConfig} {path : String} {m : RouteMatch} :
    (ofConfig r).match? path = some m ↔
      ∃ rest, (PathPrefix.ofText r.pathPrefix).remainder? path = some rest ∧
        m = ⟨r.name, r.service, r.target path rest⟩ := by
  rw [match?, Option.map_eq_some_iff]
  constructor
  · rintro ⟨target, htarget, rfl⟩
    obtain ⟨rest, hrest, rfl⟩ := target?_eq_some_iff.mp htarget
    exact ⟨rest, hrest, rfl⟩
  · rintro ⟨rest, hrest, rfl⟩
    exact ⟨_, target?_eq_some_iff.mpr ⟨rest, hrest, rfl⟩, rfl⟩

end Route

end Tollgate
