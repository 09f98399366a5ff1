import Mathlib.Data.List.TakeWhile
import Mathlib.Tactic.ByContra
import Tollgate.Http.Uri

/-!
# The grammar of request identifiers

An absolute identifier is its front, which names a scheme and an authority, and what follows that.
Reading a text finds the two pieces (`Uri.exists_of_parse?`), and a front may be followed by anything
that is a path with or without a query (`Uri.Front.parse?_append`), so that a path is appended to an
identifier by appending its text.

Whatever is read consists of characters of the grammar (`Uri.chars_of_parse?`), none of which is a
blank or a control character (`Uri.visible_of_parse?`).

## Main results

* `Uri.pathAndQuery?_append`: path and query are read back as they were written.
* `Uri.SchemeText.splitScheme?_append`, `Uri.exists_of_splitScheme?`: schemes are read where they are
  named, and nowhere else.
* `Uri.exists_of_parse?`, `Uri.Front.parse?_append`: taking apart and putting together.
* `Uri.visible_of_parse?`: an identifier without a fragment is visible.
-/

namespace Tollgate

namespace Uri

/-! ### Characters -/

/-- The character is neither a blank nor a control character. -/
def IsVisible (c : Char) : Prop :=
  0x20 < c.toNat

instance : DecidablePred IsVisible :=
  fun c => inferInstanceAs (Decidable (0x20 < c.toNat))

/-- Characters of a text that is given are visible if each of them is. -/
theorem visible_of_all {cs : List Char} (h : (cs.all fun c => decide (IsVisible c)) = true) :
    ∀ c ∈ cs, IsVisible c :=
  fun c hc => of_decide_eq_true (List.all_eq_true.mp h c hc)

/-- What holds of the blank and of the characters before it holds of every character that is not
visible. -/
theorem of_not_visible {p : Char → Prop} (h : ∀ n < 0x21, p (Char.ofNat n)) {c : Char}
    (hc : ¬IsVisible c) : p c := by
  have hcode := h c.toNat (Nat.lt_succ_of_le (Nat.not_lt.mp hc))
  rwa [Char.ofNat_toNat] at hcode

/-- A path does not hold the marks that end it. -/
theorem not_isEnd_of_isPathChar {c : Char} (h : isPathChar c = true) :
    (c == '?' || c == '#') = false := by
  rw [Bool.or_eq_false_iff, beq_eq_false_iff_ne, beq_eq_false_iff_ne]
  refine ⟨?_, ?_⟩ <;>
    · rintro rfl
      revert h
      decide

/-- A query does not hold the mark that ends it. -/
theorem ne_of_isQueryChar {c : Char} (h : isQueryChar c = true) : c ≠ '#' := by
  rintro rfl
  revert h
  decide

/-- Characters of a path are visible. -/
theorem visible_of_isPathChar {c : Char} (h : isPathChar c = true) : IsVisible c := by
  simp only [isPathChar, isBeyondAscii, Bool.or_eq_true, Bool.and_eq_true, beq_iff_eq,
    decide_eq_true_eq] at h
  rw [IsVisible]
  omega

/-- Characters of a query are visible. -/
theorem visible_of_isQueryChar {c : Char} (h : isQueryChar c = true) : IsVisible c := by
  simp only [isQueryChar, isBeyondAscii, Bool.or_eq_true, Bool.and_eq_true, beq_iff_eq,
    decide_eq_true_eq] at h
  rw [IsVisible]
  omega

/-- Letters and digits are visible. -/
theorem visible_of_isAlphanum {c : Char} (h : c.isAlphanum = true) : IsVisible c := by
  by_contra hhidden
  have hnone := of_not_visible (p := fun c => c.isAlphanum = false) (by decide) hhidden
  simp only [h, Bool.true_eq_false] at hnone

/-- Characters of a scheme are visible. -/
theorem visible_of_isSchemeChar {c : Char} (h : isSchemeChar c = true) : IsVisible c := by
  simp only [isSchemeChar, Bool.or_eq_true, beq_iff_eq] at h
  rcases h with (((h | rfl) | rfl) | rfl) | rfl
  · exact visible_of_isAlphanum h
  all_goals decide

/-- Characters of a scheme do not end an authority. -/
theorem endsAuthority_of_isSchemeChar {c : Char} (h : isSchemeChar c = true) :
    endsAuthority c = false := by
  simp only [endsAuthority, Bool.or_eq_false_iff, beq_eq_false_iff_ne]
  refine ⟨⟨?_, ?_⟩, ?_⟩ <;>
    · rintro rfl
      revert h
      decide

/-- A letter in upper case is one of twenty-six. -/
theorem of_isUpper {p : Char → Prop} (h : ∀ n < 0x5B, 0x41 ≤ n → p (Char.ofNat n)) {c : Char}
    (hc : c.isUpper = true) : p c := by
  obtain ⟨hlow, hhigh⟩ := of_decide_eq_true hc
  have hcode := h c.toNat (Nat.lt_succ_of_le (UInt32.le_iff_toNat_le.mp hhigh))
    (UInt32.le_iff_toNat_le.mp hlow)
  rwa [Char.ofNat_toNat] at hcode

/-- Only letters in upper case have another lower case. -/
theorem toLower_of_not_isUpper {c : Char} (h : ¬c.isUpper = true) : c.toLower = c :=
  dif_neg fun hcode => h (decide_eq_true hcode)

/-- What holds for the lower case of a character and for every letter in upper case holds for the
character. -/
theorem of_toLower {p : Char → Prop} (hupper : ∀ n < 0x5B, 0x41 ≤ n → p (Char.ofNat n)) {c : Char}
    (h : p c.toLower) : p c := by
  by_cases hc : c.isUpper = true
  · exact of_isUpper hupper hc
  · rwa [toLower_of_not_isUpper hc] at h

/-- A character may stand in a scheme if its lower case may. -/
theorem isSchemeChar_of_toLower {c : Char} (h : isSchemeChar c.toLower = true) :
    isSchemeChar c = true :=
  of_toLower (p := fun c => isSchemeChar c = true) (by decide) h

/-- A colon and a slash are the lower case of nothing else. -/
theorem eq_of_toLower_eq {c d : Char} (h : c.toLower = d) (hd : d = ':' ∨ d = '/') : c = d := by
  by_cases hc : c.isUpper = true
  · have hletter := of_isUpper (p := fun c => c.toLower ≠ ':' ∧ c.toLower ≠ '/') (by decide) hc
    rcases hd with rfl | rfl
    · exact absurd h hletter.1
    · exact absurd h hletter.2
  · rwa [toLower_of_not_isUpper hc] at h

/-! ### Schemes -/

/-- Two texts that differ in case only are dropped together. -/
theorem dropIgnoringCase?_append {head word : List Char} (h : head.map Char.toLower = word)
    (more tail : List Char) :
    dropIgnoringCase? (word ++ more) (head ++ tail) = dropIgnoringCase? more tail := by
  subst h
  induction head with
  | nil => rfl
  | cons c head ih =>
      rw [List.map_cons, List.cons_append, List.cons_append, dropIgnoringCase?, if_pos rfl, ih]

/-- What was dropped stood at the start, in some case. -/
theorem exists_of_dropIgnoringCase? {word cs rest : List Char}
    (h : dropIgnoringCase? word cs = some rest) :
    ∃ head, cs = head ++ rest ∧ head.map Char.toLower = word := by
  induction word generalizing cs with
  | nil =>
      rw [dropIgnoringCase?, Option.some.injEq] at h
      exact ⟨[], h, rfl⟩
  | cons p word ih =>
      cases cs with
      | nil => cases h
      | cons c cs =>
          rw [dropIgnoringCase?] at h
          by_cases hc : c.toLower = p
          · rw [if_pos hc] at h
            obtain ⟨head, rfl, hhead⟩ := ih h
            exact ⟨c :: head, rfl, by rw [List.map_cons, hc, hhead]⟩
          · rw [if_neg hc] at h
            cases h

/-- What follows the name of a scheme. -/
def schemeEnd : List Char :=
  "://".toList

/-- **A text that names a scheme.** -/
structure SchemeText (name : List Char) : Prop where
  chars : ∀ c ∈ name, isSchemeChar c = true
  short : name.length ≤ maxSchemeLength

/-- The scheme that is named: one of the two of the web in any case, or the text itself. -/
def schemeNamed (name : List Char) : String :=
  if name.map Char.toLower = "http".toList then "http"
  else if name.map Char.toLower = "https".toList then "https"
  else String.ofList name

/-- The name of a scheme is found in front of a colon. -/
theorem span_scheme {name : List Char} (h : ∀ c ∈ name, isSchemeChar c = true) (behind : List Char) :
    (name ++ ':' :: behind).takeWhile isSchemeChar = name ∧
      (name ++ ':' :: behind).dropWhile isSchemeChar = ':' :: behind := by
  have hcolon : isSchemeChar ':' = false := by decide
  rw [List.takeWhile_append_of_pos h, List.dropWhile_append_of_pos h, List.takeWhile_cons,
    List.dropWhile_cons, hcolon]
  exact ⟨List.append_nil name, rfl⟩

/-- Two names of schemes in front of colons are the same if the texts are. -/
theorem eq_of_append_colon_eq {name other behind behind' : List Char}
    (hname : ∀ c ∈ name, isSchemeChar c = true) (hother : ∀ c ∈ other, isSchemeChar c = true)
    (h : name ++ ':' :: behind = other ++ ':' :: behind') : name = other := by
  rw [← (span_scheme hname behind).1, h, (span_scheme hother behind').1]

/-- What was dropped is the name of a scheme and what follows it, if that was dropped. -/
theorem exists_of_map_toLower {head word : List Char}
    (hword : ∀ c ∈ word, isSchemeChar c = true) (h : head.map Char.toLower = word ++ schemeEnd) :
    ∃ name, head = name ++ schemeEnd ∧ name.map Char.toLower = word ∧
      ∀ c ∈ name, isSchemeChar c = true := by
  obtain ⟨name, marks, rfl, hname, hmarks⟩ := List.map_eq_append_iff.mp h
  refine ⟨name, ?_, hname, fun c hc => ?_⟩
  · rw [schemeEnd] at hmarks
    obtain ⟨colon, marks, rfl, hcolon, hmarks⟩ := List.map_eq_cons_iff.mp hmarks
    obtain ⟨slash, marks, rfl, hslash, hmarks⟩ := List.map_eq_cons_iff.mp hmarks
    obtain ⟨slash', marks, rfl, hslash', hmarks⟩ := List.map_eq_cons_iff.mp hmarks
    obtain rfl := List.map_eq_nil_iff.mp hmarks
    rw [eq_of_toLower_eq hcolon (.inl rfl), eq_of_toLower_eq hslash (.inr rfl),
      eq_of_toLower_eq hslash' (.inr rfl)]
    rfl
  · subst hname
    exact isSchemeChar_of_toLower (hword _ (List.mem_map_of_mem hc))

/-- A scheme of the web is dropped if it is named, in any case. -/
theorem dropIgnoringCase?_scheme {name word : List Char} (hname : ∀ c ∈ name, isSchemeChar c = true)
    (hword : ∀ c ∈ word, isSchemeChar c = true) (tail : List Char) :
    dropIgnoringCase? (word ++ schemeEnd) (name ++ schemeEnd ++ tail)
      = if name.map Char.toLower = word then some tail else none := by
  split
  · next hnamed =>
      have hhead : (name ++ schemeEnd).map Char.toLower = word ++ schemeEnd := by
        rw [List.map_append, hnamed]
        rfl
      have hdropped := dropIgnoringCase?_append hhead [] tail
      rwa [List.append_nil] at hdropped
  · next hother =>
      rw [Option.eq_none_iff_forall_ne_some]
      intro rest hdropped
      obtain ⟨head, hcs, hhead⟩ := exists_of_dropIgnoringCase? hdropped
      obtain ⟨named, rfl, hnamed, hchars⟩ := exists_of_map_toLower hword hhead
      rw [List.append_assoc, List.append_assoc] at hcs
      obtain rfl := eq_of_append_colon_eq hname hchars hcs
      exact hother hnamed

/-- The letters of the schemes of the web may stand in a scheme. -/
theorem isSchemeChar_of_mem_web {c : Char} (h : c ∈ "http".toList ∨ c ∈ "https".toList) :
    isSchemeChar c = true := by
  rcases h with h | h
  · exact List.all_eq_true.mp (by decide) c h
  · exact List.all_eq_true.mp (by decide) c h

/-- **A scheme is read** where it is named. -/
theorem SchemeText.splitScheme?_append {name : List Char} (h : SchemeText name) (tail : List Char) :
    splitScheme? (name ++ schemeEnd ++ tail) = some (some (schemeNamed name, tail)) := by
  have hplain : dropIgnoringCase? "http://".toList (name ++ schemeEnd ++ tail)
      = if name.map Char.toLower = "http".toList then some tail else none :=
    dropIgnoringCase?_scheme h.chars (fun c hc => isSchemeChar_of_mem_web (.inl hc)) tail
  have hsecure : dropIgnoringCase? "https://".toList (name ++ schemeEnd ++ tail)
      = if name.map Char.toLower = "https".toList then some tail else none :=
    dropIgnoringCase?_scheme h.chars (fun c hc => isSchemeChar_of_mem_web (.inr hc)) tail
  have htext : name ++ schemeEnd ++ tail = name ++ ':' :: '/' :: '/' :: tail := by
    rw [List.append_assoc]
    rfl
  obtain ⟨htake, hdrop⟩ := span_scheme h.chars ('/' :: '/' :: tail)
  rw [← htext] at htake hdrop
  simp only [splitScheme?, hplain, hsecure, htake, hdrop, schemeNamed]
  by_cases hhttp : name.map Char.toLower = "http".toList
  · simp only [if_pos hhttp]
  · by_cases hhttps : name.map Char.toLower = "https".toList
    · simp only [if_neg hhttp, if_pos hhttps]
    · simp only [if_neg hhttp, if_neg hhttps, if_pos h.short]

/-- What was read as a scheme was named. -/
theorem exists_of_splitScheme? {cs rest : List Char} {scheme : String}
    (h : splitScheme? cs = some (some (scheme, rest))) :
    ∃ name, SchemeText name ∧ cs = name ++ schemeEnd ++ rest ∧ scheme = schemeNamed name := by
  have hnamed : ∀ name, SchemeText name → cs = name ++ schemeEnd ++ rest →
      ∃ name, SchemeText name ∧ cs = name ++ schemeEnd ++ rest ∧ scheme = schemeNamed name := by
    intro name hname hcs
    have hread := hname.splitScheme?_append rest
    rw [← hcs, h, Option.some.injEq, Option.some.injEq, Prod.mk.injEq] at hread
    exact ⟨name, hname, hcs, hread.1⟩
  have hweb : ∀ word rest', (∀ c ∈ word, isSchemeChar c = true) → word.length ≤ maxSchemeLength →
      dropIgnoringCase? (word ++ schemeEnd) cs = some rest' → rest' = rest →
      ∃ name, SchemeText name ∧ cs = name ++ schemeEnd ++ rest ∧ scheme = schemeNamed name := by
    rintro word rest' hword hshort hdrop rfl
    obtain ⟨head, hcs, hhead⟩ := exists_of_dropIgnoringCase? hdrop
    obtain ⟨name, rfl, hname, hchars⟩ := exists_of_map_toLower hword hhead
    refine hnamed name ⟨hchars, ?_⟩ hcs
    rw [← List.length_map Char.toLower, hname]
    exact hshort
  rw [splitScheme?] at h
  split at h
  · next hdrop =>
      obtain ⟨-, hrest⟩ := Prod.mk.inj (Option.some.inj (Option.some.inj h))
      exact hweb "http".toList _ (fun c hc => isSchemeChar_of_mem_web (.inl hc)) (by decide) hdrop hrest
  · split at h
    · next hdrop =>
        obtain ⟨-, hrest⟩ := Prod.mk.inj (Option.some.inj (Option.some.inj h))
        exact hweb "https".toList _ (fun c hc => isSchemeChar_of_mem_web (.inr hc)) (by decide) hdrop
          hrest
    · simp only at h
      split at h
      · next behind hbehind =>
          split at h
          · next hshort =>
              obtain ⟨-, rfl⟩ := Prod.mk.inj (Option.some.inj (Option.some.inj h))
              refine hnamed (cs.takeWhile isSchemeChar)
                ⟨fun c hc => List.mem_takeWhile_imp hc, hshort⟩ ?_
              have hcs := List.takeWhile_append_dropWhile (p := isSchemeChar) (l := cs)
              rw [hbehind] at hcs
              rw [List.append_assoc]
              exact hcs.symm
          · cases h
      · cases h

/-! ### Authorities -/

/-- Characters that an authority may hold anywhere are visible. -/
theorem visible_of_isAuthorityChar {c : Char} (h : isAuthorityChar c = true) : IsVisible c := by
  rw [isAuthorityChar, Bool.or_eq_true, List.contains_iff_mem] at h
  rcases h with h | h
  · exact visible_of_isAlphanum h
  · exact visible_of_all (by decide) c h

/-- Characters of an authority are visible. -/
theorem visible_of_step {s t : AuthorityScan} {c : Char} (h : s.step c = some t) :
    IsVisible c := by
  by_contra hhidden
  have hne : ∀ d, IsVisible d → c ≠ d := by
    rintro d hd rfl
    exact hhidden hd
  have hchar : isAuthorityChar c ≠ true := fun hchar => hhidden (visible_of_isAuthorityChar hchar)
  rw [AuthorityScan.step, if_neg (hne ':' (by decide)),
    if_neg (hne '[' (by decide)), if_neg (hne ']' (by decide)),
    if_neg (hne '@' (by decide)), if_neg (hne '%' (by decide)),
    if_neg hchar] at h
  cases h

/-- An authority is visible. -/
theorem visible_of_isAuthority {cs : List Char} (h : isAuthority cs = true) :
    ∀ c ∈ cs, IsVisible c := by
  have hscan : ∀ (cs : List Char) (s t : AuthorityScan),
      cs.foldlM AuthorityScan.step s = some t → ∀ c ∈ cs, IsVisible c := by
    intro cs
    induction cs with
    | nil => intro s t _ c hc; cases hc
    | cons c cs ih =>
        intro s t h
        rw [List.foldlM_cons] at h
        obtain ⟨s', hstep, hrest⟩ := Option.bind_eq_some_iff.mp h
        intro d hd
        rcases List.mem_cons.mp hd with rfl | hd
        · exact visible_of_step hstep
        · exact ih s' t hrest d hd
  rw [isAuthority] at h
  split at h
  · next s hs => exact hscan cs {} s hs
  · cases h

/-! ### Path and query -/

/-- A query as it is written behind a path. -/
def queryText : Option (List Char) → List Char
  | none => []
  | some query => '?' :: query

variable {cs path : List Char} {query : Option (List Char)}

/-- Path and query that do not hold the marks that end them are read if they are made of characters
of paths and queries; an empty path is the root. -/
theorem pathAndQuery?_append_queryText (hpath : ∀ c ∈ path, (c == '?' || c == '#') = false)
    (hquery : ∀ q, query = some q → '#' ∉ q) :
    pathAndQuery? (path ++ queryText query)
      = if path.all isPathChar && query.all (·.all isQueryChar) then
          some (if path = [] then "/" else String.ofList path, query.map String.ofList)
        else none := by
  have hin : ∀ c ∈ path, (!(c == '?' || c == '#')) = true := fun c hc => by
    rw [hpath c hc, Bool.not_false]
  have hbehind : (queryText query).takeWhile (fun c => !(c == '?' || c == '#')) = [] ∧
      (queryText query).dropWhile (fun c => !(c == '?' || c == '#')) = queryText query := by
    rcases query with _ | q
    · exact ⟨rfl, rfl⟩
    · exact ⟨rfl, rfl⟩
  simp only [pathAndQuery?, List.takeWhile_append_of_pos hin, List.dropWhile_append_of_pos hin,
    hbehind.1, hbehind.2, List.append_nil]
  by_cases hall : path.all isPathChar = true
  · rcases query with _ | q
    · simp only [hall, if_true, queryText, Option.all_none, Bool.and_self, Option.map_none]
    · have hq : q.takeWhile (· != '#') = q := by
        refine List.takeWhile_eq_self_iff.mpr fun c hc => ?_
        rw [bne_iff_ne]
        rintro rfl
        exact hquery q rfl hc
      simp only [hall, if_true, queryText, hq, Option.all_some, Bool.true_and, Option.map_some]
  · simp only [Bool.eq_false_iff.mpr hall, Bool.false_and, Bool.false_eq_true, if_false]

/-- **Path and query** are read back as they were written; an empty path is the root. -/
theorem pathAndQuery?_append (hpath : ∀ c ∈ path, isPathChar c = true)
    (hquery : ∀ q, query = some q → ∀ c ∈ q, isQueryChar c = true) :
    pathAndQuery? (path ++ queryText query)
      = some (if path = [] then "/" else String.ofList path, query.map String.ofList) := by
  rw [pathAndQuery?_append_queryText (fun c hc => not_isEnd_of_isPathChar (hpath c hc))
    (fun q hq hmark => ne_of_isQueryChar (hquery q hq _ hmark) rfl), if_pos]
  rw [Bool.and_eq_true, List.all_eq_true, Option.all_eq_true]
  exact ⟨hpath, fun q hq => List.all_eq_true.mpr (hquery q hq)⟩

/-- Without a fragment there is nothing but path and query. -/
theorem exists_eq_append_queryText (h : '#' ∉ cs) :
    ∃ path query, cs = path ++ queryText query ∧
      ∀ c ∈ path, (c == '?' || c == '#') = false := by
  have hcs := List.takeWhile_append_dropWhile (p := fun c => !(c == '?' || c == '#')) (l := cs)
  have hpath : ∀ c ∈ cs.takeWhile (fun c => !(c == '?' || c == '#')),
      (c == '?' || c == '#') = false := fun c hc => by
    simpa using List.mem_takeWhile_imp hc
  rcases hrest : cs.dropWhile fun c => !(c == '?' || c == '#') with _ | ⟨c, rest⟩
  · rw [hrest] at hcs
    exact ⟨_, none, hcs.symm, hpath⟩
  · -- what ends the path could only be one of two marks, and one of them is not there
    have hend := List.head?_dropWhile_not (fun c => !(c == '?' || c == '#')) cs
    rw [hrest, List.head?_cons] at hend
    simp only [Bool.not_eq_false', Bool.or_eq_true, beq_iff_eq] at hend
    rw [hrest] at hcs
    rcases hend with rfl | rfl
    · exact ⟨_, some rest, hcs.symm, hpath⟩
    · exact absurd (hcs ▸ List.mem_append_right _ List.mem_cons_self) h

/-- What is read as path and query consists of their characters. -/
theorem chars_of_pathAndQuery? {pathRead : String} {queryRead : Option String}
    (h : pathAndQuery? cs = some (pathRead, queryRead)) :
    (∀ c ∈ pathRead.toList, isPathChar c = true) ∧
      ∀ q, queryRead = some q → ∀ c ∈ q.toList, isQueryChar c = true := by
  simp only [pathAndQuery?] at h
  split at h
  · next hpath =>
      have hread : ∀ c ∈ (if cs.takeWhile (fun c => !(c == '?' || c == '#')) = [] then "/"
          else String.ofList (cs.takeWhile fun c => !(c == '?' || c == '#'))).toList,
          isPathChar c = true := by
        split
        · exact List.all_eq_true.mp (by decide)
        · rw [String.toList_ofList]
          exact List.all_eq_true.mp hpath
      split at h
      · split at h
        · next hquery =>
            cases h
            refine ⟨hread, fun q hq => ?_⟩
            cases hq
            rw [String.toList_ofList]
            exact List.all_eq_true.mp hquery
        · cases h
      · cases h
        exact ⟨hread, fun q hq => by cases hq⟩
  · cases h

/-- What is read without a fragment is a path and the query, if there is one. -/
theorem eq_append_of_pathAndQuery? {pathRead : String} {queryRead : Option String}
    (h : pathAndQuery? cs = some (pathRead, queryRead)) (hfragment : '#' ∉ cs) :
    ∃ path, cs = path ++ queryText (queryRead.map String.toList) ∧
      (∀ c ∈ path, isPathChar c = true) ∧
      pathRead = if path = [] then "/" else String.ofList path := by
  obtain ⟨path, query, rfl, hpath⟩ := exists_eq_append_queryText hfragment
  have hmark : ∀ q, query = some q → '#' ∉ q := by
    rintro q rfl hmem
    exact hfragment (List.mem_append_right _ (List.mem_cons_of_mem _ hmem))
  rw [pathAndQuery?_append_queryText hpath hmark] at h
  split at h
  · next hall =>
      cases h
      rw [Bool.and_eq_true, List.all_eq_true] at hall
      have hsame : String.toList ∘ String.ofList = id := funext fun _ => String.toList_ofList
      exact ⟨path, by rw [Option.map_map, hsame, Option.map_id_fun, id_eq], hall.1, rfl⟩
  · cases h

/-! ### Whole identifiers -/

/-- A text that is read as an authority, up to where it ends. -/
structure AuthorityText (authority : List Char) : Prop where
  valid : isAuthority authority = true
  nonempty : authority ≠ []
  bare : ∀ c ∈ authority, endsAuthority c = false

/-- **The front of an absolute identifier**: the name of its scheme, and an authority. -/
structure Front where
  name : List Char
  authority : List Char
  isScheme : SchemeText name
  isAuthority : AuthorityText authority

/-- The text may follow an authority. -/
def EndsAuthority (tail : List Char) : Prop :=
  ∀ c, tail.head? = some c → endsAuthority c = true

/-- What an authority is followed by is left when it has been read. -/
theorem span_authority {authority tail : List Char} (hbare : ∀ c ∈ authority, endsAuthority c = false)
    (htail : EndsAuthority tail) :
    (authority ++ tail).takeWhile (fun c => !endsAuthority c) = authority ∧
      (authority ++ tail).dropWhile (fun c => !endsAuthority c) = tail := by
  have hin : ∀ c ∈ authority, (!endsAuthority c) = true := fun c hc => by rw [hbare c hc]; rfl
  rw [List.takeWhile_append_of_pos hin, List.dropWhile_append_of_pos hin]
  rcases tail with _ | ⟨c, tail⟩
  · simp
  · have hend := htail c rfl
    simp [hend]

/-- An authority and what follows it are told apart in one way. -/
theorem eq_of_append_endsAuthority {authority other tail tail' : List Char}
    (hbare : ∀ c ∈ authority, endsAuthority c = false) (htail : EndsAuthority tail)
    (hother : ∀ c ∈ other, endsAuthority c = false) (htail' : EndsAuthority tail')
    (h : authority ++ tail = other ++ tail') : authority = other ∧ tail = tail' := by
  obtain ⟨htake, hdrop⟩ := span_authority hbare htail
  obtain ⟨htake', hdrop'⟩ := span_authority hother htail'
  rw [h] at htake hdrop
  exact ⟨htake.symm.trans htake', hdrop.symm.trans hdrop'⟩

namespace Front

/-- A front as it is written. -/
def text (f : Front) : List Char :=
  f.name ++ schemeEnd ++ f.authority

/-- The scheme of what has this front. -/
def scheme (f : Front) : String :=
  schemeNamed f.name

/-- The first character is neither an asterisk nor a slash. -/
theorem exists_cons (f : Front) : ∃ c rest, f.text = c :: rest ∧ c ≠ '*' ∧ c ≠ '/' := by
  rcases hname : f.name with _ | ⟨c, rest⟩
  · exact ⟨':', '/' :: '/' :: f.authority, by rw [text, hname]; rfl, by decide, by decide⟩
  · have hchar := f.isScheme.chars c (by rw [hname]; exact List.mem_cons_self)
    refine ⟨c, rest ++ schemeEnd ++ f.authority, by rw [text, hname]; rfl, ?_, ?_⟩ <;>
      · rintro rfl
        revert hchar
        decide

/-- A front does not end in a slash. -/
theorem exists_getLast? (f : Front) : ∃ last, f.text.getLast? = some last ∧ (last == '/') = false := by
  have hne := f.isAuthority.nonempty
  refine ⟨f.authority.getLast hne, ?_, ?_⟩
  · rw [text, List.getLast?_append, List.getLast?_eq_some_getLast hne, Option.some_or]
  · have hbare := f.isAuthority.bare _ (List.getLast_mem hne)
    simp only [endsAuthority, Bool.or_eq_false_iff] at hbare
    exact hbare.1.1

/-- **A front and anything behind it** that starts like a path, a query or a fragment: the identifier
is read if that can be. -/
theorem parse?_append (f : Front) {tail : List Char} (htail : EndsAuthority tail)
    {s : String} (htext : s.toList = f.text ++ tail) (hsize : s.utf8ByteSize ≤ maxLength) :
    parse? s = (pathAndQuery? tail).map fun (path, query) =>
      ⟨some f.scheme, some (String.ofList f.authority), path, query⟩ := by
  obtain ⟨c, rest, hfront, hasterisk, hslash⟩ := f.exists_cons
  have hne : s.utf8ByteSize ≠ 0 := by
    rw [ne_eq, String.utf8ByteSize_eq_zero_iff]
    rintro rfl
    rw [hfront] at htext
    cases htext
  have hsplit : splitScheme? (f.text ++ tail) = some (some (f.scheme, f.authority ++ tail)) := by
    rw [text, List.append_assoc]
    exact f.isScheme.splitScheme?_append (f.authority ++ tail)
  rw [parse?, if_neg (not_or.mpr ⟨hne, Nat.not_lt.mpr hsize⟩), htext]
  rw [hfront] at hsplit ⊢
  simp only [List.cons_append] at hsplit ⊢
  split
  · next heq => exact absurd (List.cons.inj heq).1 hasterisk
  · next heq => exact absurd (List.cons.inj heq).1 hslash
  · obtain ⟨htake, hdrop⟩ := span_authority f.isAuthority.bare htail
    rw [hsplit]
    simp only [ofScheme?, htake, hdrop, f.isAuthority.valid, if_true,
      if_neg f.isAuthority.nonempty]

end Front

/-! ### Taking apart -/

variable {s : String} {u : Uri}

/-- What is read is not too long. -/
theorem size_of_parse? (h : parse? s = some u) : s.utf8ByteSize ≤ maxLength := by
  rw [parse?] at h
  split at h
  · cases h
  · next hsize => exact Nat.not_lt.mp fun hlong => hsize (.inr hlong)

/-- What follows a scheme is an authority and a path with or without a query. -/
theorem exists_of_ofScheme? {scheme : String} (h : ofScheme? (some scheme) cs = some u) :
    ∃ authority tail, cs = authority ++ tail ∧ AuthorityText authority ∧ EndsAuthority tail ∧
      u.scheme = some scheme ∧ u.authority = some (String.ofList authority) ∧
      pathAndQuery? tail = some (u.path, u.query) := by
  simp only [ofScheme?] at h
  split at h
  · next hvalid =>
      split at h
      · cases h
      · next hne =>
          obtain ⟨⟨path, query⟩, hread, rfl⟩ := Option.map_eq_some_iff.mp h
          refine ⟨_, _, List.takeWhile_append_dropWhile.symm, ⟨hvalid, hne, fun c hc => ?_⟩, ?_, rfl,
            rfl, hread⟩
          · simpa using List.mem_takeWhile_imp hc
          · intro c hc
            have hhead := List.head?_dropWhile_not (fun c => !endsAuthority c) cs
            rw [hc] at hhead
            simpa using hhead
  · cases h

/-- **What an identifier can be**: a path, or a text without slashes, and then it has no scheme; or a
scheme and what follows it. -/
theorem parse?_cases (h : parse? s = some u) :
    (u.scheme = none ∧ (s.toList.head? = some '/' ∨ '/' ∉ s.toList)) ∨
      ∃ scheme rest, splitScheme? s.toList = some (some (scheme, rest)) ∧
        ofScheme? (some scheme) rest = some u := by
  rw [parse?] at h
  split at h
  · cases h
  · split at h
    · next hasterisk =>
        cases h
        rw [hasterisk]
        exact .inl ⟨rfl, .inr (by decide)⟩
    · next hslash =>
        obtain ⟨read, -, rfl⟩ := Option.map_eq_some_iff.mp h
        exact .inl ⟨rfl, .inl (by rw [hslash, List.head?_cons])⟩
    · split at h
      · cases h
      · -- an authority alone ends with the text
        simp only [ofScheme?] at h
        split at h
        · split at h
          · next hrest =>
              cases h
              refine .inl ⟨rfl, .inr fun hmem => ?_⟩
              have hends := List.dropWhile_eq_nil_iff.mp hrest '/' hmem
              revert hends
              decide
          · cases h
        · cases h
      · next scheme rest hsplit => exact .inr ⟨scheme, rest, hsplit, h⟩

/-- An identifier with a scheme is a scheme and what follows it. -/
theorem exists_of_scheme (h : parse? s = some u) (hscheme : u.scheme ≠ none) :
    ∃ scheme rest, splitScheme? s.toList = some (some (scheme, rest)) ∧
      ofScheme? (some scheme) rest = some u := by
  obtain ⟨hnone, -⟩ | hread := parse?_cases h
  · exact absurd hnone hscheme
  · exact hread

/-- **An absolute identifier** is a front and a path with or without a query. -/
theorem exists_of_parse? (h : parse? s = some u) (hscheme : u.scheme ≠ none) :
    ∃ (f : Front) (tail : List Char), EndsAuthority tail ∧ s.toList = f.text ++ tail ∧
      u.scheme = some f.scheme ∧ u.authority = some (String.ofList f.authority) ∧
      pathAndQuery? tail = some (u.path, u.query) := by
  obtain ⟨scheme, rest, hsplit, hread⟩ := exists_of_scheme h hscheme
  obtain ⟨name, hname, hs, rfl⟩ := exists_of_splitScheme? hsplit
  obtain ⟨authority, tail, rfl, hauthority, htail, hown, htext, hpath⟩ := exists_of_ofScheme? hread
  refine ⟨⟨name, authority, hname, hauthority⟩, tail, htail, ?_, hown, htext, hpath⟩
  rw [hs, ← List.append_assoc]
  rfl

/-- A front is visible. -/
theorem Front.visible (f : Front) : ∀ c ∈ f.text, IsVisible c := by
  intro c hc
  rw [text, List.mem_append, List.mem_append] at hc
  rcases hc with (hc | hc) | hc
  · exact visible_of_isSchemeChar (f.isScheme.chars c hc)
  · exact visible_of_all (by decide) c hc
  · exact visible_of_isAuthority f.isAuthority.valid c hc

/-- **An identifier without a fragment is visible.** -/
theorem visible_of_parse? (h : parse? s = some u) (hscheme : u.scheme ≠ none)
    (hfragment : '#' ∉ s.toList) : ∀ c ∈ s.toList, IsVisible c := by
  obtain ⟨f, tail, -, hs, -, -, hpath⟩ := exists_of_parse? h hscheme
  have hmark : '#' ∉ tail := fun hmem => hfragment (hs ▸ List.mem_append_right _ hmem)
  obtain ⟨path, rfl, hchars, -⟩ := eq_append_of_pathAndQuery? hpath hmark
  intro c hc
  rw [hs, List.mem_append, List.mem_append] at hc
  rcases hc with hc | hc | hc
  · exact f.visible c hc
  · exact visible_of_isPathChar (hchars c hc)
  · rcases hquery : u.query with _ | q
    · rw [hquery] at hc
      cases hc
    · rw [hquery, Option.map_some, queryText, List.mem_cons] at hc
      rcases hc with rfl | hc
      · decide
      · exact visible_of_isQueryChar ((chars_of_pathAndQuery? hpath).2 q hquery c hc)

/-- **What is read consists of characters of the grammar**: the path, and the query if there is
one. -/
theorem chars_of_parse? (h : parse? s = some u) :
    (∀ c ∈ u.path.toList, isPathChar c = true) ∧
      ∀ q, u.query = some q → ∀ c ∈ q.toList, isQueryChar c = true := by
  rw [parse?] at h
  split at h
  · cases h
  · split at h
    · cases h
      exact ⟨List.all_eq_true.mp (by decide), fun q hq => by cases hq⟩
    · obtain ⟨⟨path, query⟩, hpath, rfl⟩ := Option.map_eq_some_iff.mp h
      exact chars_of_pathAndQuery? hpath
    · split at h
      · cases h
      · -- an authority alone has neither path nor query
        simp only [ofScheme?] at h
        split at h
        · split at h
          · cases h
            exact ⟨fun c hc => (List.not_mem_nil hc).elim, fun q hq => by cases hq⟩
          · cases h
        · cases h
      · obtain ⟨authority, tail, -, -, -, -, -, hpath⟩ := exists_of_ofScheme? h
        exact chars_of_pathAndQuery? hpath

end Uri

end Tollgate
