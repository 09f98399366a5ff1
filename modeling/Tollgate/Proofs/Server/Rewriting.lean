import Tollgate.Config.Text
import Tollgate.Proofs.Http.Joining
import Tollgate.Proofs.Route.Rewrite
import Tollgate.Proofs.Server.Visit

/-!
# What is sent under a route that replaces its prefix

A route that replaces its prefix by a path below the root takes no two paths to the same target. The
target is written behind the address of an instance, and the whole is read anew: if a mark that ends a
path is in the way, in the replacement or in the address, what stands behind the mark is no part of
the path that is sent, and all paths of the route are sent as one (`Server.rewritten_paths_collide`).

Without such marks the path that is sent is that of the address, the replacement and what follows the
prefix in the path that came in (`Reception.SentUnder.path_eq`). So no two paths are sent as one,
unless to instances with different paths in their addresses.

## Conventions

* The identifier of a request was read from a text, so that its path holds none of the marks.
* An address without marks is a base (`Uri.IsBase`), which is an absolute identifier by itself.

## Main results

* `Reception.SentUnder.path_eq`: the path that is sent.
* `Server.rewriting_reversible`: no path is lost under a route that replaces its prefix.
-/

namespace Tollgate

/-- No mark is in the text that would end a path. -/
def IsUnmarked (s : String) : Prop :=
  ∀ c ∈ s.toList, c ≠ '?' ∧ c ≠ '#'

/-- A path that was read holds no mark that would end it. -/
theorem Uri.isUnmarked_path {s : String} {u : Uri} (h : parse? s = some u) : IsUnmarked u.path := by
  intro c hc
  have hend := not_isEnd_of_isPathChar ((chars_of_parse? h).1 c hc)
  simpa using hend

/-- Replacing the prefix of an unmarked path puts no mark in it that the replacement does not hold. -/
theorem IsUnmarked.append {p r rest : String} (hr : IsUnmarked r)
    (hpath : IsUnmarked (trimSlashes p ++ rest)) : IsUnmarked (trimSlashes r ++ rest) := by
  intro c hc
  rw [String.toList_append, List.mem_append] at hc
  rcases hc with hc | hc
  · exact hr c (mem_of_mem_trimSlashes hc)
  · exact hpath c (by rw [String.toList_append]; exact List.mem_append_right _ hc)

namespace Reception

/-- The address of the instance that a visit is sent to. -/
def instance? (x : Reception) : Option String :=
  x.delivery?.bind fun d => d.choice.toOption

/-- **A visit is sent under a route**, which is the best one for its path, to an instance with the path
`own` in its address. -/
structure SentUnder (routes : List RouteConfig) (route : RouteConfig) (own : String) (x : Reception)
    (o : Outbound) : Prop where
  table : x.server.routes = .ofConfig routes
  read : ∃ text, Uri.parse? text = some x.visit.inbound.uri
  best : RouteTable.IsBest routes x.visit.inbound.uri.path route
  sent : x.served.sent = some o
  address : ∃ base u, x.instance? = some base ∧ Uri.IsBase base u ∧ u.path = own

namespace SentUnder

variable {routes : List RouteConfig} {route : RouteConfig} {own own' r : String}
  {x x' : Reception} {o o' : Outbound}

/-- What is sent has been asked for at the address of the instance, under the target of the route. -/
theorem exists_backendUri? (h : SentUnder routes route own x o) :
    ∃ m base u, (RouteTable.ofConfig routes).lookup x.visit.inbound.uri.path = some m ∧
      Uri.IsBase base u ∧ u.path = own ∧
      backendUri? base m.targetPath x.visit.inbound.uri.query = some o.uri := by
  obtain ⟨d, hd, hsent⟩ := exists_of_sent h.sent
  obtain ⟨-, m, hlookup, rfl⟩ :=
    Server.exists_lookup_of_delivery? (Server.delivery?_of_admittedDelivery? hd).2
  obtain ⟨base, hchoice, haddress⟩ := (Delivery.exchanged_of_sent hsent).choice
  obtain ⟨base', u, hinstance, hbase, hown⟩ := h.address
  rw [instance?, hd, Option.bind_some, hchoice] at hinstance
  obtain rfl := Option.some.inj hinstance
  exact ⟨m, base, u, h.table ▸ hlookup, hbase, hown, haddress⟩

/-- **The path that is sent** is that of the address, the replacement, and what follows the prefix in
the path that came in. -/
theorem path_eq (h : SentUnder routes route own x o) (hreplacement : route.replacement = some r)
    (hslash : r.toList.head? = some '/') (hother : ∃ c ∈ r.toList, c ≠ '/') (hr : IsUnmarked r) :
    ∃ rest, x.visit.inbound.uri.path = trimSlashes route.pathPrefix ++ rest ∧
      o.uri.path = trimSlashes own ++ (trimSlashes r ++ rest) := by
  obtain ⟨m, base, u, hlookup, hbase, rfl, haddress⟩ := h.exists_backendUri?
  obtain ⟨rest, hpath, htarget⟩ :=
    RouteTable.targetPath_of_lookup hslash hother hreplacement h.best hlookup
  obtain ⟨text, hread⟩ := h.read
  have hunmarked : IsUnmarked m.targetPath :=
    htarget ▸ hr.append (hpath ▸ Uri.isUnmarked_path hread)
  have hquery : ∀ q, x.visit.inbound.uri.query = some q → '#' ∉ q.toList := fun q hq hmark =>
    Uri.ne_of_isQueryChar ((Uri.chars_of_parse? hread).2 q hq _ hmark) rfl
  have huri := hbase.eq_below_of_backendUri? hunmarked hquery haddress
  have hrooted : rooted m.targetPath = m.targetPath := by
    apply rooted_of_head?
    rw [htarget, String.toList_append, List.head?_append, head?_trimSlashes hslash hother,
      Option.some_or]
  exact ⟨rest, hpath, by rw [huri, Uri.below, hrooted, htarget]⟩

/-- **No two paths are sent as one** to instances with the same path in their addresses. -/
theorem eq_of_path_eq (h : SentUnder routes route own x o) (h' : SentUnder routes route own' x' o')
    (hreplacement : route.replacement = some r) (hslash : r.toList.head? = some '/')
    (hother : ∃ c ∈ r.toList, c ≠ '/') (hr : IsUnmarked r)
    (hown : trimSlashes own = trimSlashes own') (hsame : o.uri.path = o'.uri.path) :
    x.visit.inbound.uri.path = x'.visit.inbound.uri.path := by
  obtain ⟨rest, hpath, hsent⟩ := h.path_eq hreplacement hslash hother hr
  obtain ⟨rest', hpath', hsent'⟩ := h'.path_eq hreplacement hslash hother hr
  rw [hsent, hsent', hown, String.append_right_inj, String.append_right_inj] at hsame
  rw [hpath, hpath', hsame]

end SentUnder

end Reception

namespace Server

/-- **Rewriting is reversible and loses no path.** A path that starts with a slash and is matched by
a prefix is given another front, and what follows the prefix stays; the outcome starts with a slash,
is matched by the replacement, and is given its old front back by it. So a route with such a
replacement never asks its service for the same path on behalf of two different ones. If the
replacement holds no mark that ends a path, what is sent to an instance whose address holds none
either is that path below the one of the address, so that no two paths are sent as one to instances
with the same path in their addresses. -/
theorem rewriting_reversible {r : String} (hslash : r.toList.head? = some '/')
    (hother : ∃ c ∈ r.toList, c ≠ '/') :
    (∀ p x : String, x.toList.head? = some '/' → (PathPrefix.ofText p).isMatch x = true →
      ∃ y rest, (PathPrefix.ofText p).replace? x r = some y ∧
        y.toList.head? = some '/' ∧ (PathPrefix.ofText r).isMatch y = true ∧
        (PathPrefix.ofText r).replace? y p = some x ∧
        x = trimSlashes p ++ rest ∧ y = trimSlashes r ++ rest) ∧
      ∀ (routes : List RouteConfig) (route : RouteConfig), route.replacement = some r →
        (∀ (x x' : String) (m m' : RouteMatch),
          RouteTable.IsBest routes x route → RouteTable.IsBest routes x' route →
          (RouteTable.ofConfig routes).lookup x = some m →
          (RouteTable.ofConfig routes).lookup x' = some m' →
          x ≠ x' → m.targetPath ≠ m'.targetPath) ∧
        (IsUnmarked r → ∀ (x : Reception) (own : String) (o : Outbound),
          x.SentUnder routes route own o →
          (∃ rest, x.visit.inbound.uri.path = trimSlashes route.pathPrefix ++ rest ∧
            o.uri.path = trimSlashes own ++ (trimSlashes r ++ rest)) ∧
          ∀ (x' : Reception) (own' : String) (o' : Outbound), x'.SentUnder routes route own' o' →
            trimSlashes own = trimSlashes own' →
            x.visit.inbound.uri.path ≠ x'.visit.inbound.uri.path → o.uri.path ≠ o'.uri.path) := by
  refine ⟨fun p x hx hmatch => ?_, fun routes route hreplacement => ⟨?_, ?_⟩⟩
  · obtain ⟨rest, hrest⟩ := Option.isSome_iff_exists.mp hmatch
    have hreplaced : (PathPrefix.ofText p).replace? x r = some (trimSlashes r ++ rest) :=
      (PathPrefix.replace?_eq_some_iff hslash hother).mpr ⟨rest, hrest, rfl⟩
    obtain ⟨hfront, hmatched, hback⟩ := PathPrefix.replace?_replace? hslash hother hx hreplaced
    exact ⟨_, rest, hreplaced, hfront, hmatched, hback,
      (PathPrefix.remainder?_eq_some_iff.mp hrest).1, rfl⟩
  · intro x x' m m' hbest hbest' hfound hfound' hne hsame
    exact hne (RouteTable.eq_of_targetPath_eq hslash hother hreplacement hbest hbest' hfound
      hfound' hsame)
  · intro hr x own o hx
    refine ⟨hx.path_eq hreplacement hslash hother hr, fun x' own' o' hx' hown hne hsame => ?_⟩
    exact hne (hx.eq_of_path_eq hx' hreplacement hslash hother hr hown hsame)

/-- Slashes at the ends of prefix and replacement are of no account, and those inside a path stay:
the path with two of them is given its front back, and is asked for and sent as another one than the
path with one, under the route that wins over the one that keeps every path as it came. -/
theorem rewriting_reversible_doubled_slashes :
    let r := "//v2/"
    let users : RouteConfig :=
      { name := "users", pathPrefix := "/users//", service := "a", replacement := some r }
    let routes := [{ name := "all", pathPrefix := "/", service := "a" }, users]
    let c : Config :=
      { services := [{ name := "a", instances := [{ url := "http://h/own/" }] }]
        routes
        rateLimit := { enabled := false } }
    let get (path : String) : Visit :=
      { times := .frozen (.ofParts 0 0)
        faults := {}
        backend := fun _ => {}
        inbound := { method := "GET", uri := ⟨none, none, path, none⟩ } }
    r.toList.head? = some '/' ∧ (∃ c ∈ r.toList, c ≠ '/') ∧ IsUnmarked r ∧
      (PathPrefix.ofText "/users//").replace? "/users//1/" r = some "//v2//1/" ∧
      (PathPrefix.ofText r).replace? "//v2//1/" "/users//" = some "/users//1/" ∧
      ∃ s, Server.ofConfig c .disabled = .ok s ∧
        (Reception.served ⟨s, get "/users//1/"⟩).sent.map (·.uri.text)
          = some "http://h/own//v2//1/" ∧
        (Reception.served ⟨s, get "/users/1/"⟩).sent.map (·.uri.text)
          = some "http://h/own//v2/1/" ∧
        ∀ o o', (Reception.served ⟨s, get "/users//1/"⟩).sent = some o →
          (Reception.served ⟨s, get "/users/1/"⟩).sent = some o' → o.uri.path ≠ o'.uri.path := by
  intro r users routes c get
  have hslash : r.toList.head? = some '/' := by decide
  have hother : ∃ c ∈ r.toList, c ≠ '/' := ⟨'v', by decide, by decide⟩
  have hmarks : IsUnmarked r := by
    have hall : (r.toList.all fun c => c != '?' && c != '#') = true := by decide
    exact fun c hc => by simpa using List.all_eq_true.mp hall c hc
  have hreplaced : (PathPrefix.ofText "/users//").replace? "/users//1/" r = some "//v2//1/" := by
    decide
  obtain ⟨hback, hroutes⟩ := rewriting_reversible hslash hother
  obtain ⟨y, -, hy, -, -, hrestored, -⟩ := hback "/users//" "/users//1/" (by decide) (by decide)
  obtain rfl : y = "//v2//1/" := Option.some.inj (hy.symm.trans hreplaced)
  have hbest : ∀ x, (PathPrefix.ofText "/users//").isMatch x = true →
      RouteTable.IsBest routes x users := by
    intro x hx
    have hlongest : ∀ s ∈ routes,
        (trimSlashes s.pathPrefix).utf8ByteSize ≤ (trimSlashes users.pathPrefix).utf8ByteSize := by
      decide
    exact ⟨RouteConfig.matches_iff_isMatch.mpr hx, fun s hs _ => hlongest s hs, by decide⟩
  have hsent : ∀ (s : Server) (path : String) (o : Outbound),
      (Reception.served ⟨s, get path⟩).sent = some o → s.routes = .ofConfig routes →
      Reception.instance? ⟨s, get path⟩ = some "http://h/own" →
      (PathPrefix.ofText "/users//").isMatch path = true →
      Uri.parse? path = some ⟨none, none, path, none⟩ →
        Reception.SentUnder routes users "/own" ⟨s, get path⟩ o := by
    intro s path o ho htable hinstance hmatch hread
    have hbase : Uri.IsBase "http://h/own" ⟨some "http", some "h", "/own", none⟩ :=
      ⟨by decide +kernel, by decide, rfl, by decide⟩
    exact ⟨htable, ⟨path, hread⟩, hbest path hmatch, ho, _, _, hinstance, hbase, rfl⟩
  refine ⟨hslash, hother, hmarks, hreplaced, hrestored, _, rfl, by decide +kernel,
    by decide +kernel, fun o o' ho ho' => ?_⟩
  have hfirst := hsent _ _ o ho rfl (by decide +kernel) (by decide) (by decide +kernel)
  have hsecond := hsent _ _ o' ho' rfl (by decide +kernel) (by decide) (by decide +kernel)
  exact ((hroutes routes users rfl).2 hmarks _ _ o hfirst).2 _ _ o' hsecond rfl (by decide)

/-- **Paths are sent as one** where a mark ends them: in the replacement, with all that is behind it,
or in the address of the instance. They are as well where the addresses of two instances have paths
that make up for the difference. All of these configurations are valid, and each replacement is a path
below the root. -/
theorem rewritten_paths_collide :
    let config (replacement : String) (urls : List String) : Config :=
      { services := [{ name := "a", instances := urls.map fun url => { url } }]
        routes :=
          [{ name := "users", pathPrefix := "/users", service := "a",
             replacement := some replacement }]
        rateLimit := { enabled := false } }
    let get (path : String) : Visit :=
      { times := .frozen (.ofParts 0 0)
        faults := {}
        backend := fun _ => {}
        inbound := { method := "GET", uri := ⟨none, none, path, none⟩ } }
    let sentPaths (c : Config) (paths : List String) : Except NoInstances (List (Option String)) :=
      (Server.ofConfig c .disabled).map fun s =>
        (s.receptions (paths.map get)).map fun x => x.served.sent.map (·.uri.path)
    (∀ p ∈ [("/v2#", ["http://h"]), ("/v2?", ["http://h"]), ("/v2", ["http://h?zone=a"]),
        ("/v2", ["http://h/v2", "http://h"])],
      (config p.1 p.2).validate = .ok (config p.1 p.2)) ∧
      sentPaths (config "/v2#" ["http://h"]) ["/users/1", "/users/2"]
        = .ok [some "/v2", some "/v2"] ∧
      sentPaths (config "/v2?" ["http://h"]) ["/users/1", "/users/2"]
        = .ok [some "/v2", some "/v2"] ∧
      sentPaths (config "/v2" ["http://h?zone=a"]) ["/users/1", "/users/2"]
        = .ok [some "/", some "/"] ∧
      sentPaths (config "/v2" ["http://h/v2", "http://h"]) ["/users/1", "/users/v2/1"]
        = .ok [some "/v2/v2/1", some "/v2/v2/1"] := by
  decide +kernel

end Server

end Tollgate
