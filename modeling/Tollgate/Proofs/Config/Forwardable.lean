import Tollgate.Monitor
import Tollgate.Proofs.Config.Validated
import Tollgate.Proofs.Http.Joining
import Tollgate.Proofs.Route.Prefix

/-!
# Forwarding to a validated configuration

The URL of an instance is read twice, by different rules. Validation reads it as a URL of the web,
leniently; forwarding appends a path to its text and reads the result as a request identifier,
strictly, and so does the monitor with the URL it probes. Not every validated instance can be reached
therefore (`Config.validated_not_forwardable`). Those can whose URL is an identifier of its own, with
a scheme and neither a query nor a fragment (`InstanceConfig.IsPlain`): requests go to its authority,
with the path appended to its own and the query as it came (`Config.forwardable`).

## Conventions

* An empty query is no query, and an empty path is the root.

## Main results

* `Uri.scheme_of_valid`: where both readings find a scheme it is the same one.
* `InstanceConfig.IsPlain.backendUri?_eq_some_iff`: what the joined text reads as.
* `Config.forwardable`: a validated configuration is forwardable where its instances are plain.
-/

namespace Tollgate

/-! ### Two readings of a scheme -/

namespace Url

/-- Nothing is left out of a visible text. -/
theorem relevant_of_visible {cs : List Char} (h : ∀ c ∈ cs, Uri.IsVisible c) : relevant cs = cs := by
  have hfront : ∀ l : List Char, (∀ c ∈ l, Uri.IsVisible c) →
      l.dropWhile (fun c => decide (c.toNat ≤ 0x20)) = l := by
    intro l hl
    cases l with
    | nil => rfl
    | cons c l =>
        have hc := hl c List.mem_cons_self
        rw [List.dropWhile_cons, if_neg]
        rw [decide_eq_true_eq]
        exact Nat.not_le.mpr hc
  have htrim : trimList (fun c => decide (c.toNat ≤ 0x20)) cs = cs := by
    rw [trimList, hfront cs h, hfront cs.reverse (by simpa using h), List.reverse_reverse]
  rw [relevant, htrim, List.filter_eq_self]
  intro c hc
  have hvisible := h c hc
  simp only [Bool.and_eq_true, bne_iff_ne, ne_eq]
  refine ⟨⟨?_, ?_⟩, ?_⟩ <;>
    · rintro rfl
      revert hvisible
      decide

/-- A scheme is what precedes the first colon, in lower case. -/
theorem exists_of_splitScheme? {cs rest : List Char} {scheme : String}
    (h : splitScheme? cs = some (scheme, rest)) :
    ∃ name, cs = name ++ ':' :: rest ∧ scheme = String.ofList (name.map Char.toLower) ∧
      ∀ c ∈ name, Uri.isSchemeChar c = true := by
  simp only [splitScheme?] at h
  split at h
  · next hbehind hname =>
      split at h
      · cases h
        refine ⟨cs.takeWhile fun c => c.isAlphanum || c == '+' || c == '-' || c == '.', ?_, rfl,
          fun c hc => ?_⟩
        · have hcs := List.take_append_drop (cs.takeWhile fun c =>
            c.isAlphanum || c == '+' || c == '-' || c == '.').length cs
          rw [hbehind, ← List.prefix_iff_eq_take.mp (List.takeWhile_prefix _)] at hcs
          exact hcs.symm
        · have hchar := List.mem_takeWhile_imp hc
          rw [Uri.isSchemeChar, hchar, Bool.true_or]
      · cases h
  · cases h

/-- The scheme of a URL is the one that its text starts with. -/
theorem splitScheme?_of_parse? {text : String} {u : Url} (h : parse? text = .ok u) :
    ∃ rest, splitScheme? (relevant text.toList) = some (u.scheme, rest) := by
  rw [parse?] at h
  split at h
  · cases h
  · next scheme rest hsplit =>
      have hhost : ∀ host : Except UrlError (Option Host),
          (do let found ← host; .ok ⟨scheme, found⟩ : Except UrlError Url) = .ok u →
            u.scheme = scheme := by
        rintro (e | found) hu
        · cases hu
        · cases hu
          rfl
      refine ⟨rest, ?_⟩
      rw [hsplit]
      split at h
      · rw [hhost _ h]
      · split at h
        · rw [hhost _ h]
        · split at h
          · rw [hhost _ h]
          · rw [hhost _ h]

end Url

/-- A URL that is no problem has the scheme `http`. -/
theorem UrlProblem.exists_of_ofText?_eq_none {url : String} (h : ofText? url = none) :
    ∃ rest, Url.splitScheme? (Url.relevant url.toList) = some ("http", rest) := by
  rw [ofText?] at h
  split at h
  · cases h
  · next u hu =>
      split at h
      · cases h
      · next hscheme =>
          rw [ne_eq, Decidable.not_not] at hscheme
          rw [← hscheme]
          exact Url.splitScheme?_of_parse? hu

namespace Uri

/-- **Where both readings find a scheme it is the same one.** Slashes at the end make no
difference. -/
theorem scheme_of_valid {s url : String} {u : Uri} {slashes : List Char}
    (h : parse? s = some u) (hscheme : u.scheme ≠ none) (hfragment : '#' ∉ s.toList)
    (hurl : url.toList = s.toList ++ slashes) (hslashes : ∀ c ∈ slashes, c = '/')
    (hvalid : UrlProblem.ofText? url = none) : u.scheme = some "http" := by
  obtain ⟨behind, hweb⟩ := UrlProblem.exists_of_ofText?_eq_none hvalid
  have hvisible : ∀ c ∈ url.toList, IsVisible c := by
    intro c hc
    rw [hurl, List.mem_append] at hc
    rcases hc with hc | hc
    · exact visible_of_parse? h hscheme hfragment c hc
    · rw [hslashes c hc]
      decide
  rw [Url.relevant_of_visible hvisible] at hweb
  obtain ⟨name, hname, hlower, hchars⟩ := Url.exists_of_splitScheme? hweb
  obtain ⟨f, tail, -, hs, hown, -, -⟩ := exists_of_parse? h hscheme
  have hletters : name.map Char.toLower = "http".toList := by
    rw [← String.toList_ofList (l := name.map Char.toLower), ← hlower]
  have htext : name ++ ':' :: behind
      = f.name ++ ':' :: '/' :: '/' :: (f.authority ++ tail ++ slashes) := by
    rw [← hname, hurl, hs, Front.text, schemeEnd]
    simp only [List.append_assoc]
    rfl
  have hsame := eq_of_append_colon_eq hchars f.isScheme.chars htext
  rw [hown, Front.scheme, ← hsame, schemeNamed, if_pos hletters]

end Uri

/-! ### Plain instances -/

namespace InstanceConfig

/-- **A plain instance**: its URL without slashes at the end is an identifier of its own, with a
scheme, and with neither a query nor a fragment. -/
structure IsPlain (i : InstanceConfig) (u : Uri) : Prop where
  parsed : Uri.parse? (trimSlashes i.url) = some u
  absolute : u.scheme ≠ none
  query : u.query = none
  fragment : '#' ∉ i.url.toList

/-- The resource of a target at an instance: below the instance's own path. -/
def resource (u : Uri) (target : String) (query : Option String) : Uri :=
  ⟨some "http", u.authority, trimSlashes u.path ++ rooted target, tellingQuery query⟩

namespace IsPlain

variable {i : InstanceConfig} {u : Uri}

/-- The URL of a plain instance is a base. -/
theorem isBase (h : i.IsPlain u) : Uri.IsBase (trimSlashes i.url) u where
  parsed := h.parsed
  absolute := h.absolute
  query := h.query
  fragment := fun hmem => h.fragment (mem_of_mem_trimSlashes hmem)

/-- The scheme of a plain instance whose URL is valid. -/
theorem scheme_of_valid (h : i.IsPlain u) (hvalid : UrlProblem.ofText? i.url = none) :
    u.scheme = some "http" := by
  obtain ⟨slashes, hsplit, hslashes⟩ := exists_append_trimSlashes i.url
  exact Uri.scheme_of_valid h.parsed h.absolute h.isBase.fragment hsplit hslashes hvalid

/-- **What the joined text reads as**: the resource of the target, exactly if target and query are
made of the characters that paths and queries are made of. -/
theorem backendUri?_eq_some_iff (h : i.IsPlain u) (hvalid : UrlProblem.ofText? i.url = none)
    {target : String} {query : Option String}
    (hsize : (backendText (trimSlashes i.url) target query).utf8ByteSize ≤ Uri.maxLength) :
    backendUri? (trimSlashes i.url) target query = some (resource u target query) ↔
      (∀ c ∈ target.toList, Uri.isPathChar c = true) ∧
        ∀ q, query = some q → ∀ c ∈ q.toList, Uri.isQueryChar c = true := by
  have hbelow : resource u target query = u.below target query := by
    rw [resource, Uri.below, h.scheme_of_valid hvalid]
  rw [hbelow]
  exact h.isBase.backendUri?_eq_some_iff hsize

end IsPlain

end InstanceConfig

/-! ### Targets -/

namespace Route

variable {route : RouteConfig} {path target : String}

/-- The target is made of what the path and the replacement are made of. -/
theorem chars_of_target? (h : (ofConfig route).target? path = some target)
    (hpath : ∀ c ∈ path.toList, Uri.isPathChar c = true)
    (hreplacement : ∀ p, route.replacement = some p → ∀ c ∈ p.toList, Uri.isPathChar c = true) :
    ∀ c ∈ target.toList, Uri.isPathChar c = true := by
  obtain ⟨rest, hrest, rfl⟩ := target?_eq_some_iff.mp h
  rw [RouteConfig.target]
  rcases hreplaced : route.replacement with _ | p
  · exact hpath
  · intro c hc
    rcases mem_rooted hc with hc | rfl
    · rw [String.toList_append, List.mem_append] at hc
      rcases hc with hc | hc
      · exact hreplacement p hreplaced c (mem_of_mem_trimSlashes hc)
      · refine hpath c ?_
        rw [(PathPrefix.remainder?_eq_some_iff.mp hrest).1, String.toList_append]
        exact List.mem_append_right _ hc
    · decide

/-- The target of a route whose prefix is a path starts with a slash, unless it is empty. -/
theorem rooted_of_target? (hfirst : route.pathPrefix.toList.head? = some '/')
    (h : (ofConfig route).target? path = some target) :
    rooted target = if target = "" then "/" else target := by
  have hslash : ∀ s : String, s.toList.head? = some '/' → rooted s = if s = "" then "/" else s := by
    intro s hs
    have hne : s ≠ "" := by
      rintro rfl
      cases hs
    rw [rooted_of_head? hs, if_neg hne]
  obtain ⟨rest, hrest, rfl⟩ := target?_eq_some_iff.mp h
  rw [RouteConfig.target]
  rcases route.replacement with _ | p
  · obtain ⟨rfl, htail⟩ := PathPrefix.remainder?_eq_some_iff.mp hrest
    obtain ⟨slashes, hpath, -⟩ := exists_append_trimSlashes route.pathPrefix
    rw [PathPrefix.ofText]
    rcases hbare : (trimSlashes route.pathPrefix).toList.head? with _ | c
    · rw [List.head?_eq_none_iff, String.toList_eq_nil_iff] at hbare
      rw [hbare, String.empty_append]
      rcases htail with rfl | htail
      · rfl
      · exact hslash rest htail
    · refine hslash _ ?_
      rw [hpath, List.head?_append, hbare, Option.some_or] at hfirst
      rw [String.toList_append, List.head?_append, hbare, Option.some_or, hfirst]
  · exact hslash _ (head?_rooted _)

end Route

/-! ### Validated configurations -/

namespace InstanceConfig

/-- **An instance can be reached** by the requests of routes, and by probes. -/
structure IsReachable (routes : List RouteConfig) (i : InstanceConfig) (u : Uri) : Prop where
  scheme : u.scheme = some "http"
  /-- A path that matches a route is asked for below the path of the instance, with the query it came
  with, if the route replaces prefixes by what paths are made of. -/
  requests : ∀ route ∈ routes, ∀ path target, (Route.ofConfig route).target? path = some target →
    (∀ c ∈ path.toList, Uri.isPathChar c = true) →
    (∀ p, route.replacement = some p → ∀ c ∈ p.toList, Uri.isPathChar c = true) →
    ∀ query, (∀ q, query = some q → ∀ c ∈ q.toList, Uri.isQueryChar c = true) →
      (backendText (trimSlashes i.url) target query).utf8ByteSize ≤ Uri.maxLength →
        backendUri? (trimSlashes i.url) target query
          = some ⟨some "http", u.authority,
              trimSlashes u.path ++ (if target = "" then "/" else target), tellingQuery query⟩
  /-- No other targets and queries can be asked for so. -/
  limits : ∀ route ∈ routes, ∀ path target, (Route.ofConfig route).target? path = some target →
    ∀ query, backendUri? (trimSlashes i.url) target query
        = some ⟨some "http", u.authority,
            trimSlashes u.path ++ (if target = "" then "/" else target), tellingQuery query⟩ →
      (∀ c ∈ target.toList, Uri.isPathChar c = true) ∧
        (∀ q, query = some q → ∀ c ∈ q.toList, Uri.isQueryChar c = true) ∧
        (backendText (trimSlashes i.url) target query).utf8ByteSize ≤ Uri.maxLength
  /-- The instance is probed below its own path. -/
  probes : i.healthUrl = none → i.resolvedHealthUrl.utf8ByteSize ≤ Uri.maxLength →
    ∀ timeout, ∃ o, Probe.request? i.resolvedHealthUrl timeout = some o ∧
      o.uri = ⟨some "http", u.authority, trimSlashes u.path ++ "/health", none⟩
  /-- A URL of its own is probed as it is, if it is an identifier. -/
  probesElsewhere : ∀ url, i.healthUrl = some url → ∀ v, Uri.parse? url = some v →
    (v.scheme ≠ none → '#' ∉ url.toList → v.scheme = some "http") ∧
      ∀ timeout, ∃ o, Probe.request? i.resolvedHealthUrl timeout = some o ∧ o.uri = v

/-- The URL of an instance that is probed by default is that of a request for `/health`. -/
theorem resolvedHealthUrl_of_none {i : InstanceConfig} (h : i.healthUrl = none) :
    i.resolvedHealthUrl = backendText (trimSlashes i.url) "/health" none := by
  apply String.toList_injective
  rw [toList_backendText_none, trimSlashes_trimSlashes, resolvedHealthUrl, h, String.toList_append]
  rfl

/-- **A plain instance with valid URLs can be reached.** -/
theorem IsPlain.isReachable {routes : List RouteConfig} {i : InstanceConfig} {u : Uri}
    (h : i.IsPlain u) (hvalid : UrlProblem.ofText? i.url = none)
    (hhealth : UrlProblem.ofText? i.resolvedHealthUrl = none)
    (hfirst : ∀ r ∈ routes, r.pathPrefix.toList.head? = some '/') : i.IsReachable routes u := by
  refine
    { scheme := h.scheme_of_valid hvalid
      requests := ?_
      limits := ?_
      probes := ?_
      probesElsewhere := ?_ }
  · intro route hroute path target htarget hpath hreplacement query hquery hsize
    rw [(h.backendUri?_eq_some_iff hvalid hsize).mpr
      ⟨Route.chars_of_target? htarget hpath hreplacement, hquery⟩, resource,
      Route.rooted_of_target? (hfirst route hroute) htarget]
  · intro route hroute path target htarget query hread
    have hsize := Uri.size_of_parse? hread
    rw [← Route.rooted_of_target? (hfirst route hroute) htarget] at hread
    obtain ⟨hchars, hquery⟩ := (h.backendUri?_eq_some_iff hvalid hsize).mp hread
    exact ⟨hchars, hquery, hsize⟩
  · intro hnone hsize timeout
    rw [resolvedHealthUrl_of_none hnone] at hsize ⊢
    have hread := (h.backendUri?_eq_some_iff hvalid hsize).mpr
      ⟨List.all_eq_true.mp (by decide), fun q hq => by cases hq⟩
    rw [backendUri?] at hread
    refine ⟨_, by rw [Probe.request?, hread, Option.map_some], ?_⟩
    rfl
  · intro url hurl v hv
    have hresolved : i.resolvedHealthUrl = url := by rw [resolvedHealthUrl, hurl]
    rw [hresolved] at hhealth ⊢
    refine ⟨fun habsolute hfragment => ?_, fun timeout => ?_⟩
    · exact Uri.scheme_of_valid hv habsolute hfragment (List.append_nil _).symm
        (fun c hc => by cases hc) hhealth
    · exact ⟨_, by rw [Probe.request?, hv, Option.map_some], rfl⟩

end InstanceConfig

namespace Config

/-- **A validated configuration is forwardable where its instances are plain.** Its registry exists
and knows every instance of every service by its URL without slashes at the end, and each of them
whose URL is an identifier of its own, with neither a query nor a fragment, can be reached. -/
theorem forwardable {c : Config} (h : c.validate = .ok c) :
    ∃ r, Registry.ofConfig c.services c.breaker = .ok r ∧
      ∀ s ∈ c.services, ∃ e, r.find? s.name = some e ∧
        e.instances = s.instances.map (fun i => ⟨trimSlashes i.url, i.resolvedHealthUrl⟩) ∧
        ∀ i ∈ s.instances, ∀ u, i.IsPlain u → i.IsReachable c.routes u := by
  have hvalidated := validated h
  obtain ⟨r, hr, hfind⟩ := hvalidated.ofConfig
  refine ⟨r, hr, fun s hs => ?_⟩
  obtain ⟨e, he, hinstances⟩ := hfind s hs
  refine ⟨e, he, hinstances, fun i hi u hplain => ?_⟩
  obtain ⟨hurl, hhealth⟩ := hvalidated.urls s hs i hi
  exact hplain.isReachable hurl hhealth hvalidated.prefixes

/-- An instance below a path, and a route that replaces its prefix. -/
theorem forwardable_below_a_path :
    let i : InstanceConfig := { url := "HTTP://h:80/v//" }
    let route : RouteConfig :=
      { name := "r", pathPrefix := "/api/", service := "a", replacement := some "/w" }
    let c : Config := { services := [{ name := "a", instances := [i] }], routes := [route] }
    c.validate = .ok c ∧
      i.IsPlain ⟨some "http", some "h:80", "/v", none⟩ ∧
      (Route.ofConfig route).target? "/api/x" = some "/w/x" ∧
      backendUri? (trimSlashes i.url) "/w/x" (some "q=1")
        = some ⟨some "http", some "h:80", "/v/w/x", some "q=1"⟩ ∧
      i.IsReachable c.routes ⟨some "http", some "h:80", "/v", none⟩ := by
  intro i route c
  have hvalid : c.validate = .ok c := by decide +kernel
  have hplain : i.IsPlain ⟨some "http", some "h:80", "/v", none⟩ :=
    { parsed := by decide +kernel
      absolute := by decide
      query := rfl
      fragment := by decide }
  obtain ⟨r, -, hservices⟩ := forwardable hvalid
  obtain ⟨e, -, -, hreachable⟩ := hservices { name := "a", instances := [i] } (by simp [c])
  exact ⟨hvalid, hplain, by decide +kernel, by decide +kernel, hreachable i (by simp) _ hplain⟩

/-- **Not every validated instance can be reached**: not where slashes are missing, nor behind a
query or a fragment, nor with a blank in the replacement, and an empty query is lost. -/
theorem validated_not_forwardable :
    let route (replacement : Option String) : RouteConfig :=
      { name := "r", pathPrefix := "/", service := "a", replacement }
    let config (url : String) (replacement : Option String) : Config :=
      { services := [{ name := "a", instances := [{ url }] }], routes := [route replacement] }
    let accepted (url : String) (replacement : Option String) : Prop :=
      (config url replacement).validate = .ok (config url replacement)
    let asked (url : String) (replacement query : Option String) : Option Uri :=
      ((Route.ofConfig (route replacement)).target? "/x").bind fun target =>
        backendUri? (trimSlashes url) target query
    (accepted "http:h" none ∧ asked "http:h" none none = none ∧
        Probe.request? (InstanceConfig.resolvedHealthUrl { url := "http:h" }) .zero = none) ∧
      (accepted "http://h?z" none ∧
        asked "http://h?z" none none = some ⟨some "http", some "h", "/", some "z/x"⟩) ∧
      (accepted "http://h/#z" none ∧
        asked "http://h/#z" none none = some ⟨some "http", some "h", "/", none⟩) ∧
      (accepted "http://h" (some "/v 1") ∧ asked "http://h" (some "/v 1") none = none) ∧
      accepted "http://h" none ∧
        asked "http://h" none (some "") = some ⟨some "http", some "h", "/x", none⟩ := by
  decide +kernel

end Config

end Tollgate
