import Tollgate.Http.Stamp
import Tollgate.Proofs.Http.UriGrammar
import Tollgate.Proofs.Text.Slashes

/-!
# Resources on an instance

The identifier of a resource on an instance is made by writing the target, which is the path that is
asked for, behind the address of the instance, and reading the whole anew. Whatever target and query
are, the authority that is read is the one of the address (`Uri.IsBase.scheme_and_authority`): the
address ends in an authority or in a path below it, and what is written behind starts with a slash. If
target and query hold none of the marks that would end them, they are read as they were written or not
at all (`Uri.joined_below_base`).

## Conventions

* An address is a base if it is absolute and has neither a query nor a fragment.
* An empty query is no query, and an empty path is the root.
* Characters outside ASCII may stand in paths and in queries, as each of their bytes may.

## Main results

* `Uri.IsBase.backendUri?_eq`: what is read is the address and what is read below it.
* `Uri.IsBase.backendUri?_eq_some_iff`: which paths and queries are read as they were written.
* `Uri.joined_below_base`: what the identifier of a resource is, for an address as it is written.
-/

namespace Tollgate

/-! ### Writing behind an address -/

/-- A query with something in it. -/
def tellingQuery (query : Option String) : Option String :=
  query.filter fun q => q ≠ ""

/-- A query with something in it tells it. -/
theorem tellingQuery_some {q : String} (h : q ≠ "") : tellingQuery (some q) = some q := by
  rw [tellingQuery, Option.filter_some, if_pos (by simpa using h)]

/-- What a query tells was in it. -/
theorem exists_of_tellingQuery {query : Option String} {cs : List Char}
    (h : (tellingQuery query).map String.toList = some cs) :
    ∃ q, query = some q ∧ cs = q.toList := by
  obtain ⟨q, hq, rfl⟩ := Option.map_eq_some_iff.mp h
  exact ⟨q, (Option.filter_eq_some_iff.mp hq).1, rfl⟩

/-- Between instance and target there is one slash. -/
theorem toList_backendText_none (base target : String) :
    (backendText base target none).toList
      = (trimSlashes base).toList ++ (rooted target).toList := by
  have hslash : backendText base target none = trimSlashes base ++ rooted target := by
    simp only [backendText, String.append_empty]
    split
    · next rest hrest => rw [rooted_of_head? (by rw [hrest, List.head?_cons]), String.append_empty]
    · next hnone => rw [rooted_of_forall_ne hnone, String.append_assoc]
  rw [hslash, String.toList_append]

/-- The joined text is the instance, the rooted target and the query if there is something in it. -/
theorem toList_backendText (base target : String) (query : Option String) :
    (backendText base target query).toList
      = (trimSlashes base).toList ++ (rooted target).toList
        ++ Uri.queryText ((tellingQuery query).map String.toList) := by
  have hnone := toList_backendText_none base target
  unfold backendText at hnone ⊢
  simp only [String.append_empty] at hnone
  rw [String.toList_append, hnone]
  refine congrArg _ ?_
  rcases query with _ | q
  · rfl
  · by_cases hq : q = ""
    · subst hq
      rfl
    · rw [tellingQuery_some hq]
      simp only [if_neg hq, String.toList_append, Option.map_some, Uri.queryText]
      rfl

/-- Slashes at the end of the instance are not written. -/
theorem backendText_append_slashes {slashes : String} (h : ∀ c ∈ slashes.toList, c = '/')
    (base target : String) (query : Option String) :
    backendText (base ++ slashes) target query = backendText base target query := by
  simp only [backendText, trimSlashes_append h]

/-- What ends in a rooted target is not empty. -/
theorem toList_append_rooted_ne_nil (path target : String) :
    (path ++ rooted target).toList ≠ [] := by
  intro hnone
  have hhead := head?_rooted target
  rw [String.toList_append, List.append_eq_nil_iff] at hnone
  rw [hnone.2] at hhead
  cases hhead

/-- A text is made of its characters. -/
theorem map_ofList_map_toList (query : Option String) :
    (query.map String.toList).map String.ofList = query := by
  have hsame : String.ofList ∘ String.toList = id := funext fun _ => String.ofList_toList
  rw [Option.map_map, hsame, Option.map_id_fun, id_eq]

namespace Uri

/-- **A base**: an absolute identifier with neither a query nor a fragment. -/
structure IsBase (base : String) (u : Uri) : Prop where
  parsed : parse? base = some u
  absolute : u.scheme ≠ none
  query : u.query = none
  fragment : '#' ∉ base.toList

/-- The resource of a target below a base. -/
def below (u : Uri) (target : String) (query : Option String) : Uri :=
  ⟨u.scheme, u.authority, trimSlashes u.path ++ rooted target, tellingQuery query⟩

/-- What is left of a path, and anything rooted behind it, may follow an authority. -/
theorem endsAuthority_append {path behind : List Char} (hpath : EndsAuthority path)
    (hbehind : behind.head? = some '/') :
    EndsAuthority (path.rdropWhile (· == '/') ++ behind) := by
  intro c hc
  rw [List.head?_append] at hc
  rcases hown : (path.rdropWhile (· == '/')).head? with _ | first
  · rw [hown, Option.none_or, hbehind] at hc
    cases hc
    decide
  · rw [hown, Option.some_or] at hc
    cases hc
    refine hpath c ?_
    have hsplit := @List.rdropWhile_append_rtakeWhile _ (· == '/') path
    rw [← hsplit, List.head?_append, hown, Option.some_or]

namespace IsBase

variable {base : String} {u : Uri}

/-- A base is a front and a path. -/
theorem exists_front (h : IsBase base u) :
    ∃ (f : Front) (path : List Char), EndsAuthority path ∧ base.toList = f.text ++ path ∧
      u.scheme = some f.scheme ∧ u.authority = some (String.ofList f.authority) ∧
      u.path = if path = [] then "/" else String.ofList path := by
  obtain ⟨f, tail, htail, hbase, hscheme, hauthority, hread⟩ := exists_of_parse? h.parsed h.absolute
  have hmark : '#' ∉ tail := fun hmem => h.fragment (hbase ▸ List.mem_append_right _ hmem)
  obtain ⟨path, hpath, -, hown⟩ := eq_append_of_pathAndQuery? hread hmark
  rw [h.query, Option.map_none, queryText, List.append_nil] at hpath
  subst hpath
  exact ⟨f, tail, htail, hbase, hscheme, hauthority, hown⟩

/-- What holds of the characters of paths and of those of a target holds of all characters of the
target below a base. -/
theorem forall_mem_below (h : IsBase base u) {p : Char → Prop} {target : String}
    (hpath : ∀ c, isPathChar c = true → p c) (htarget : ∀ c ∈ target.toList, p c) :
    ∀ c ∈ (trimSlashes u.path ++ rooted target).toList, p c := by
  intro c hc
  rw [String.toList_append, List.mem_append] at hc
  rcases hc with hc | hc
  · exact hpath c ((chars_of_parse? h.parsed).1 c (mem_of_mem_trimSlashes hc))
  · rcases mem_rooted hc with hc | rfl
    · exact htarget c hc
    · exact hpath '/' (by decide)

/-- **What is written behind a base** is read as path and query below its own path. -/
theorem backendUri?_eq (h : IsBase base u) {target : String} {query : Option String}
    (hsize : (backendText base target query).utf8ByteSize ≤ maxLength) :
    backendUri? base target query
      = (pathAndQuery? ((trimSlashes u.path ++ rooted target).toList
          ++ queryText ((tellingQuery query).map String.toList))).map
        fun (path, query) => ⟨u.scheme, u.authority, path, query⟩ := by
  obtain ⟨f, path, hpath, hbase, hscheme, hauthority, hown⟩ := h.exists_front
  have htrimmed : (trimSlashes u.path).toList = path.rdropWhile (· == '/') := by
    rw [toList_trimSlashes, hown]
    split
    · next hempty =>
        rw [hempty]
        decide
    · rw [String.toList_ofList]
  -- a front does not end in a slash, so that only the path is trimmed
  obtain ⟨last, hlast, hslash⟩ := f.exists_getLast?
  have htext : (backendText base target query).toList
      = f.text ++ ((trimSlashes u.path ++ rooted target).toList
        ++ queryText ((tellingQuery query).map String.toList)) := by
    rw [toList_backendText, toList_trimSlashes, hbase,
      rdropWhile_append_of_getLast? hlast hslash, ← htrimmed, String.toList_append]
    simp only [List.append_assoc]
  have hends : EndsAuthority ((trimSlashes u.path ++ rooted target).toList
      ++ queryText ((tellingQuery query).map String.toList)) := by
    rw [String.toList_append, htrimmed, List.append_assoc]
    refine endsAuthority_append hpath ?_
    rw [List.head?_append, head?_rooted, Option.some_or]
  rw [backendUri?, f.parse?_append hends htext hsize, hscheme, hauthority]

/-- **Nothing that is written behind a base** changes where requests go. -/
theorem scheme_and_authority (h : IsBase base u) {target : String} {query : Option String} {v : Uri}
    (hread : backendUri? base target query = some v) :
    v.scheme = u.scheme ∧ v.authority = u.authority := by
  rw [h.backendUri?_eq (size_of_parse? hread)] at hread
  obtain ⟨read, -, rfl⟩ := Option.map_eq_some_iff.mp hread
  exact ⟨rfl, rfl⟩

/-- **Which targets and queries are read as they were written**: those that are made of the characters
that paths and queries are made of. -/
theorem backendUri?_eq_some_iff (h : IsBase base u) {target : String} {query : Option String}
    (hsize : (backendText base target query).utf8ByteSize ≤ maxLength) :
    backendUri? base target query = some (u.below target query) ↔
      (∀ c ∈ target.toList, isPathChar c = true) ∧
        ∀ q, query = some q → ∀ c ∈ q.toList, isQueryChar c = true := by
  constructor
  · intro hread
    have hchars := chars_of_parse? hread
    refine ⟨fun c hc => hchars.1 c ?_, fun q hq c hc => ?_⟩
    · rw [below, String.toList_append]
      exact List.mem_append_right _ (mem_rooted_of_mem hc)
    · have hne : q ≠ "" := by
        rintro rfl
        cases hc
      rw [below, hq, tellingQuery_some hne] at hchars
      exact hchars.2 q rfl c hc
  · rintro ⟨htarget, hquery⟩
    have hpath := h.forall_mem_below (fun c hc => hc) htarget
    have hchars : ∀ cs, (tellingQuery query).map String.toList = some cs →
        ∀ c ∈ cs, isQueryChar c = true := by
      intro cs hcs
      obtain ⟨q, hq, rfl⟩ := exists_of_tellingQuery hcs
      exact hquery q hq
    rw [h.backendUri?_eq hsize, pathAndQuery?_append hpath hchars,
      if_neg (toList_append_rooted_ne_nil _ _), Option.map_some, String.ofList_toList,
      map_ofList_map_toList, below]

/-- Targets and queries that do not hold the marks that would end them are read as they were written,
if at all. -/
theorem eq_below_of_backendUri? (h : IsBase base u) {target : String} {query : Option String}
    (htarget : ∀ c ∈ target.toList, c ≠ '?' ∧ c ≠ '#') (hquery : ∀ q, query = some q → '#' ∉ q.toList)
    {v : Uri} (hread : backendUri? base target query = some v) : v = u.below target query := by
  have hpath : ∀ c ∈ (trimSlashes u.path ++ rooted target).toList, (c == '?' || c == '#') = false :=
    h.forall_mem_below (fun c hc => not_isEnd_of_isPathChar hc) fun c hc => by
      rw [beq_eq_false_iff_ne.mpr (htarget c hc).1, beq_eq_false_iff_ne.mpr (htarget c hc).2,
        Bool.or_false]
  have hmark : ∀ cs, (tellingQuery query).map String.toList = some cs → '#' ∉ cs := by
    intro cs hcs
    obtain ⟨q, hq, rfl⟩ := exists_of_tellingQuery hcs
    exact hquery q hq
  rw [h.backendUri?_eq (size_of_parse? hread), pathAndQuery?_append_queryText hpath hmark] at hread
  split at hread
  · rw [Option.map_some, Option.some.injEq] at hread
    rw [← hread, below, if_neg (toList_append_rooted_ne_nil _ _), String.ofList_toList,
      map_ofList_map_toList]
  · cases hread

end IsBase

/-! ### Addresses as they are written -/

/-- **An address as it is written**: the name of a scheme, an authority, and a path or nothing; with
the marks of neither a query nor a fragment. -/
structure IsWritten (base name authority path : String) : Prop where
  text : base = name ++ "://" ++ authority ++ path
  name_bare : '/' ∉ name.toList
  authority_bare : '/' ∉ authority.toList
  path_rooted : path = "" ∨ path.toList.head? = some '/'
  query : '?' ∉ base.toList
  fragment : '#' ∉ base.toList

namespace IsWritten

variable {base name authority path : String} {u : Uri}

/-- The characters of an address. -/
theorem toList_eq (h : IsWritten base name authority path) :
    base.toList
      = (name.toList ++ [':']) ++ '/' :: '/' :: (authority.toList ++ path.toList) := by
  rw [h.text]
  simp only [String.toList_append, List.append_assoc]
  rfl

/-- An address that is read has a scheme. -/
theorem absolute (h : IsWritten base name authority path) (hparsed : parse? base = some u) :
    u.scheme ≠ none := by
  intro hnone
  obtain ⟨-, hhead | hslash⟩ | ⟨scheme, rest, -, hread⟩ := parse?_cases hparsed
  · rw [h.toList_eq] at hhead
    rcases hname : name.toList with _ | ⟨c, more⟩
    · rw [hname] at hhead
      cases hhead
    · rw [hname] at hhead
      cases hhead
      exact h.name_bare (hname ▸ List.mem_cons_self)
  · rw [h.toList_eq] at hslash
    exact hslash (List.mem_append_right _ List.mem_cons_self)
  · obtain ⟨-, -, -, -, -, hscheme, -, -⟩ := exists_of_ofScheme? hread
    rw [hscheme] at hnone
    cases hnone

/-- Only slashes could end the authority of an address. -/
theorem bare_of_mem (h : IsWritten base name authority path) {c : Char} (hc : c ∈ base.toList)
    (hslash : c ≠ '/') : endsAuthority c = false := by
  have hmarks : c ≠ '?' ∧ c ≠ '#' :=
    ⟨fun heq => h.query (heq ▸ hc), fun heq => h.fragment (heq ▸ hc)⟩
  rw [endsAuthority, beq_eq_false_iff_ne.mpr hslash, beq_eq_false_iff_ne.mpr hmarks.1,
    beq_eq_false_iff_ne.mpr hmarks.2]
  rfl

/-- **An address is taken apart in one way**: the first slash ends its name and the colon behind that,
and the next one after two ends its authority. -/
theorem eq_front (h : IsWritten base name authority path) {f : Front} {tail : List Char}
    (htail : EndsAuthority tail) (htext : base.toList = f.text ++ tail) :
    name.toList = f.name ∧ authority.toList = f.authority ∧ path.toList = tail := by
  have hslashes : ∀ cs, EndsAuthority ('/' :: cs) := by
    intro cs c hc
    cases hc
    decide
  have hname : ∀ c ∈ name.toList ++ [':'], endsAuthority c = false := by
    intro c hc
    refine h.bare_of_mem (h.toList_eq ▸ List.mem_append_left _ hc) ?_
    rintro rfl
    rcases List.mem_append.mp hc with hc | hc
    · exact h.name_bare hc
    · exact absurd (List.mem_singleton.mp hc) (by decide)
  have hfront : ∀ c ∈ f.name ++ [':'], endsAuthority c = false := by
    intro c hc
    rcases List.mem_append.mp hc with hc | hc
    · exact endsAuthority_of_isSchemeChar (f.isScheme.chars c hc)
    · rw [List.mem_singleton.mp hc]
      decide
  have hauthority : ∀ c ∈ authority.toList, endsAuthority c = false := by
    intro c hc
    refine h.bare_of_mem ?_ fun heq => h.authority_bare (heq ▸ hc)
    rw [h.toList_eq]
    simp only [List.mem_append, List.mem_cons]
    exact .inr (.inr (.inr (.inl hc)))
  have hpath : EndsAuthority path.toList := by
    rcases h.path_rooted with rfl | hrooted
    · intro c hc
      cases hc
    · intro c hc
      cases hrooted.symm.trans hc
      decide
  have hsame : (name.toList ++ [':']) ++ '/' :: '/' :: (authority.toList ++ path.toList)
      = (f.name ++ [':']) ++ '/' :: '/' :: (f.authority ++ tail) := by
    rw [← h.toList_eq, htext, Front.text]
    simp only [List.append_assoc]
    rfl
  obtain ⟨hnames, hbehind⟩ :=
    eq_of_append_endsAuthority hname (hslashes _) hfront (hslashes _) hsame
  have hrest := (List.cons.inj (List.cons.inj hbehind).2).2
  obtain ⟨hauthorities, hpaths⟩ :=
    eq_of_append_endsAuthority hauthority hpath f.isAuthority.bare htail hrest
  exact ⟨List.append_cancel_right hnames, hauthorities, hpaths⟩

/-- **An address that is read** has the pieces that were written. -/
theorem eq_of_parse? (h : IsWritten base name authority path) (hparsed : parse? base = some u) :
    u = ⟨some (schemeNamed name.toList), some authority, if path = "" then "/" else path, none⟩ := by
  obtain ⟨f, tail, htail, htext, hscheme, hauthority, hread⟩ :=
    exists_of_parse? hparsed (h.absolute hparsed)
  have hmark : '#' ∉ tail := fun hmem => h.fragment (htext ▸ List.mem_append_right _ hmem)
  obtain ⟨own, hown, -, hpath⟩ := eq_append_of_pathAndQuery? hread hmark
  have hquery : u.query = none := by
    rcases hquery : u.query with _ | q
    · rfl
    · refine absurd ?_ h.query
      rw [htext, hown, hquery]
      exact List.mem_append_right _ (List.mem_append_right _ List.mem_cons_self)
  rw [hquery, Option.map_none, queryText, List.append_nil] at hown
  obtain ⟨hname, hsame, htails⟩ := h.eq_front htail htext
  rw [hown] at htails
  rw [Front.scheme, ← hname] at hscheme
  rw [← hsame, String.ofList_toList] at hauthority
  rw [← htails, String.ofList_toList] at hpath
  simp only [String.toList_eq_nil_iff] at hpath
  obtain ⟨scheme, authority', path', query⟩ := u
  simp only at hscheme hauthority hpath hquery
  rw [hscheme, hauthority, hpath, hquery]

/-- An address that is read is a base. -/
theorem isBase (h : IsWritten base name authority path) (hparsed : parse? base = some u) :
    IsBase base u where
  parsed := hparsed
  absolute := h.absolute hparsed
  query := by rw [h.eq_of_parse? hparsed]
  fragment := h.fragment

end IsWritten

/-- **What the identifier of a resource is**, for an address as it is written that is an identifier of
its own. Its scheme and its authority are those of the address, whatever is asked for. A target without
the marks of a query or a fragment, and a query without the latter, are read exactly if they are legal
and not too long together, and as they were written: the target below the path of the address with one
slash between them, and the query unless it is empty. Slashes at the end of the address make no
difference. -/
theorem joined_below_base {base name authority path : String}
    (hwritten : IsWritten base name authority path) (haccepted : (parse? base).isSome = true) :
    parse? base
        = some ⟨some (schemeNamed name.toList), some authority, if path = "" then "/" else path,
            none⟩ ∧
      ∀ (target : String) (query : Option String),
        (∀ v, backendUri? base target query = some v →
          v.scheme = some (schemeNamed name.toList) ∧ v.authority = some authority) ∧
        ((∀ c ∈ target.toList, c ≠ '?' ∧ c ≠ '#') → (∀ q, query = some q → '#' ∉ q.toList) →
          ∀ v, backendUri? base target query = some v ↔
            (∀ c ∈ target.toList, isPathChar c = true) ∧
              (∀ q, query = some q → ∀ c ∈ q.toList, isQueryChar c = true) ∧
              (backendText base target query).utf8ByteSize ≤ maxLength ∧
              v = ⟨some (schemeNamed name.toList), some authority,
                trimSlashes path ++ rooted target, tellingQuery query⟩) ∧
        ∀ slashes : String, (∀ c ∈ slashes.toList, c = '/') →
          backendUri? (base ++ slashes) target query = backendUri? base target query := by
  obtain ⟨u, hparsed⟩ := Option.isSome_iff_exists.mp haccepted
  have hu := hwritten.eq_of_parse? hparsed
  have hbase := hwritten.isBase hparsed
  have hbelow : ∀ target query, u.below target query
      = ⟨some (schemeNamed name.toList), some authority, trimSlashes path ++ rooted target,
          tellingQuery query⟩ := by
    intro target query
    have hpath : trimSlashes u.path = trimSlashes path := by
      rw [hu]
      simp only
      split
      · next hempty =>
          rw [hempty]
          decide
      · rfl
    rw [below, hpath, hu]
  refine ⟨hu ▸ hparsed, fun target query => ⟨?_, ?_, ?_⟩⟩
  · intro v hread
    obtain ⟨hscheme, hauthority⟩ := hbase.scheme_and_authority hread
    rw [hu] at hscheme hauthority
    exact ⟨hscheme, hauthority⟩
  · intro htarget hquery v
    rw [← hbelow]
    constructor
    · intro hread
      have hsize := size_of_parse? hread
      obtain rfl := hbase.eq_below_of_backendUri? htarget hquery hread
      obtain ⟨hpath, hchars⟩ := (hbase.backendUri?_eq_some_iff hsize).mp hread
      exact ⟨hpath, hchars, hsize, rfl⟩
    · rintro ⟨hpath, hchars, hsize, rfl⟩
      exact (hbase.backendUri?_eq_some_iff hsize).mpr ⟨hpath, hchars⟩
  · intro slashes hslashes
    rw [backendUri?, backendText_append_slashes hslashes, backendUri?]

/-- A target that looks like another host behind a user is a path of the same host. -/
theorem joined_below_base_at_sign :
    let base := "HTTP://h:80/v//"
    IsWritten base "HTTP" "h:80" "/v//" ∧ (parse? base).isSome = true ∧
      backendUri? base "@evil:1/x" (some "q=1")
        = some ⟨some "http", some "h:80", "/v/@evil:1/x", some "q=1"⟩ ∧
      backendUri? (base ++ "//") "@evil:1/x" (some "q=1")
        = some ⟨some "http", some "h:80", "/v/@evil:1/x", some "q=1"⟩ := by
  intro base
  have hwritten : IsWritten base "HTTP" "h:80" "/v//" :=
    { text := by decide
      name_bare := by decide
      authority_bare := by decide
      path_rooted := .inr (by decide)
      query := by decide
      fragment := by decide }
  have haccepted : (parse? base).isSome = true := by decide +kernel
  obtain ⟨-, hjoined, hslashes⟩ :=
    (joined_below_base hwritten haccepted).2 "@evil:1/x" (some "q=1")
  have hread : backendUri? base "@evil:1/x" (some "q=1")
      = some ⟨some "http", some "h:80", "/v/@evil:1/x", some "q=1"⟩ := by
    refine (hjoined ?_ ?_ _).mpr
      ⟨List.all_eq_true.mp (by decide), ?_, by decide +kernel, by decide +kernel⟩
    · have hall : ("@evil:1/x".toList.all fun c => c != '?' && c != '#') = true := by decide
      exact fun c hc => by simpa using List.all_eq_true.mp hall c hc
    · rintro q hq
      cases hq
      decide
    · rintro q hq
      cases hq
      exact List.all_eq_true.mp (by decide)
  have hall : ("//".toList.all fun c => c == '/') = true := by decide
  have htrimmed : ∀ c ∈ "//".toList, c = '/' :=
    fun c hc => by simpa using List.all_eq_true.mp hall c hc
  exact ⟨hwritten, haccepted, hread, (hslashes "//" htrimmed).trans hread⟩

end Uri

end Tollgate
