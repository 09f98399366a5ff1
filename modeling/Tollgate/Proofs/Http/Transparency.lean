import Tollgate.Proofs.Http.Fields
import Tollgate.Proofs.Http.UriGrammar
import Tollgate.Proofs.Registry.Forwarding

/-!
# What passes through the gateway

A request reaches an instance, and its answer the caller, as it was given, except for what concerns
one leg of the connection only and for the few fields that the gateway writes itself. Both directions
are told by the values under any name: what they are afterwards, and where each field comes from.

A request is copied without its hop-by-hop fields (`Headers.withoutHopByHop`), while one name after
the other is removed from an answer (`Headers.stripHopByHop`). The fold of the removals is one filter,
so that the two leave the same fields of any message (`Headers.stripHopByHop_eq`).

The identifier that follows a request is chosen once. The instance is told it, and the caller is
told the same one, whatever either of them said under its name.

## Main results

* `HeaderName.ofText?_of_map_toLower`: a name is the same in letters of either case.
* `Request.passedOn_outbound`, `Delivery.passedOn_of_sent`: what becomes of a request.
* `Response.returned_stamp`, `Delivery.returned_of_answer`: what becomes of an answer.
-/

namespace Tollgate

/-! ### Names in letters of either case -/

namespace HeaderName

/-- A character may stand in a token if its lower case may. -/
theorem isTokenChar_of_toLower {c : Char} (h : isTokenChar c.toLower = true) :
    isTokenChar c = true :=
  Uri.of_toLower (p := fun c => isTokenChar c = true) (by decide) h

/-- **A name is the same in letters of either case.** -/
theorem ofText?_of_map_toLower {name : HeaderName} (hname : ofText? name.text = some name)
    {spelling : String} (h : spelling.toList.map Char.toLower = name.text.toList) :
    ofText? spelling = some name := by
  rw [ofText?] at hname ⊢
  split at hname
  · next hlegal =>
      obtain ⟨hall, hne, hlength⟩ := hlegal
      have htoken : spelling.toList.all isTokenChar = true := by
        refine List.all_eq_true.mpr fun c hc => isTokenChar_of_toLower ?_
        exact List.all_eq_true.mp hall _ (h ▸ List.mem_map_of_mem hc)
      have hsame : spelling.length = name.text.length := by
        rw [← String.length_toList, ← String.length_toList, ← h, List.length_map]
      have hsome : spelling ≠ "" := by
        rintro rfl
        exact hne (String.toList_eq_nil_iff.mp h.symm)
      rw [if_pos ⟨htoken, hsome, hsame ▸ hlength⟩, h, String.ofList_toList]
  · cases hname

/-- The name of a hop-by-hop field, and that of the host, are legal as they are kept. -/
theorem ofText?_text {name : HeaderName} (h : isHopByHop name = true ∨ name = .host) :
    ofText? name.text = some name := by
  have hall : ∀ n ∈ hopByHopNames, ofText? n.text = some n := by decide
  rcases h with hhop | rfl
  · exact hall name (List.contains_iff_mem.mp hhop)
  · decide

/-- What is not sent on is under other names than any other field. -/
theorem ne_of_unsent {name other : HeaderName} (h : isHopByHop name = true ∨ name = .host)
    (hhop : isHopByHop other = false) (hhost : other ≠ .host) : name ≠ other := by
  rintro rfl
  rcases h with hhop' | hhost'
  · exact Bool.false_ne_true (hhop.symm.trans hhop')
  · exact hhost hhost'

end HeaderName

/-! ### Fields -/

namespace Headers

/-- The first value of a name is the first of its values. -/
theorem get?_eq_head? (h : Headers) (name : HeaderName) : h.get? name = (h.getAll name).head? := by
  rw [get?, getAll, List.head?_map, List.head?_filter]

/-- A field is there if its value is one of those of its name. -/
theorem mem_iff_mem_getAll {h : Headers} {f : HeaderName × Bytes} : f ∈ h ↔ f.2 ∈ h.getAll f.1 := by
  obtain ⟨name, value⟩ := f
  simp [getAll]

/-- Where names keep their values or lose them, but for some names, every field was there before or is
one of those names. -/
theorem mem_or_of_kept {h h' : Headers} {p : HeaderName → Prop}
    (hkept : ∀ name, ¬p name → h'.getAll name = h.getAll name ∨ h'.getAll name = [])
    {f : HeaderName × Bytes} (hf : f ∈ h') : f ∈ h ∨ p f.1 := by
  by_cases hwritten : p f.1
  · exact .inr hwritten
  · rw [mem_iff_mem_getAll] at hf ⊢
    rcases hkept f.1 hwritten with hsame | hgone
    · exact .inl (hsame ▸ hf)
    · rw [hgone] at hf
      cases hf

/-- Removing one name after the other removes the fields of all of them. -/
theorem foldl_remove (names : List HeaderName) (h : Headers) :
    names.foldl remove h = h.filter fun f => !names.contains f.1 := by
  induction names generalizing h with
  | nil => exact (List.filter_eq_self.mpr fun _ _ => rfl).symm
  | cons name rest ih =>
      rw [List.foldl_cons, ih, remove, List.filter_filter]
      refine List.filter_congr fun f _ => ?_
      rw [List.contains_cons, Bool.not_or, Bool.and_comm, decide_not]
      rfl

/-- **Removing the hop-by-hop names** leaves what a copy without their fields leaves. -/
theorem stripHopByHop_eq (h : Headers) : h.stripHopByHop = h.withoutHopByHop :=
  foldl_remove hopByHopNames h

end Headers

/-- The value that a text stands for is that of its bytes. -/
theorem eq_of_headerValue? {s : String} {value : Bytes} (h : headerValue? s = some value) :
    value = Bytes.ofText s := by
  rw [headerValue?] at h
  split at h
  · exact (Option.some.inj h).symm
  · cases h

/-- **The identifier of a request** is the first one that it names, unless that is empty. -/
theorem correlationValue_eq (h : Headers) (now : Timestamp) :
    correlationValue h now
      = ((h.getAll .correlationId).head?.filter (· ≠ [])).getD
          (Bytes.ofText ("gw-" ++ toString now.millis)) := by
  rw [correlationValue, Headers.get?_eq_head?, headerValue?_correlationText, Option.getD_some]
  rcases (h.getAll .correlationId).head? with _ | _ | ⟨b, rest⟩ <;> rfl

/-! ### Requests -/

namespace Request

/-- The methods whose requests carry a body. -/
theorem carriesBody_iff (method : String) :
    carriesBody method = true ↔ method ∈ ["POST", "PUT", "PATCH"] := by
  simp [carriesBody, or_assoc]

/-- An instance is told the identifier of the request. -/
theorem getAll_correlationId_outbound (r : Request) (uri : Uri) (correlation : Bytes)
    (timeout : Duration) :
    (r.outbound uri correlation timeout).headers.getAll .correlationId = [correlation] := by
  have hlength : ¬(HeaderName.correlationId = .contentLength ∧ carriesBody r.method = false) :=
    fun h => absurd h.1 (by decide)
  rw [outbound, getAll_outboundHeaders, if_neg hlength, if_neg (by decide), if_pos rfl]

end Request

/-- **What becomes of a request** that is sent to an instance. -/
structure PassedOn (now : Timestamp) (request : Request) (o : Outbound) : Prop where
  method : o.method = request.method
  /-- Nothing is sent under the name of a hop-by-hop field or of the host, in whatever letters the
  name is written. -/
  unsent : ∀ name, isHopByHop name = true ∨ name = .host → o.headers.getAll name = [] ∧
    ∀ spelling : String, spelling.toList.map Char.toLower = name.text.toList →
      HeaderName.ofText? spelling = some name
  /-- There is one identifier, the first that the request names or one that is made. -/
  correlation : o.headers.getAll .correlationId
    = [((request.headers.getAll .correlationId).head?.filter (· ≠ [])).getD
        (Bytes.ofText ("gw-" ++ toString now.millis))]
  body : o.body = if request.method ∈ ["POST", "PUT", "PATCH"] then request.body else .empty
  /-- What has no body has no length. -/
  unmeasured : request.method ∉ ["POST", "PUT", "PATCH"] → o.headers.getAll .contentLength = []
  /-- Every other name has the values that it had, in their order. -/
  kept : ∀ name, isHopByHop name = false → name ∉ [.host, .correlationId, .userId] →
    (name = .contentLength → request.method ∈ ["POST", "PUT", "PATCH"]) →
      o.headers.getAll name = request.headers.getAll name
  /-- Every field was there, or is one that the gateway writes. -/
  added : ∀ f ∈ o.headers, f ∈ request.headers ∨ f.1 = .correlationId ∨ f.1 = .userId

/-- **A request is passed on** as it came in, but for the fields of one leg and the gateway's own. -/
theorem Request.passedOn_outbound (r : Request) (uri : Uri) (now : Timestamp) (timeout : Duration) :
    PassedOn now r (r.outbound uri (correlationValue r.headers now) timeout) where
  method := rfl
  unsent name hname := by
    refine ⟨?_, fun spelling => HeaderName.ofText?_of_map_toLower (HeaderName.ofText?_text hname)⟩
    have huser : name ≠ .userId := HeaderName.ne_of_unsent hname (by decide) (by decide)
    have hcorrelation : name ≠ .correlationId :=
      HeaderName.ne_of_unsent hname (by decide) (by decide)
    rw [outbound, getAll_outboundHeaders, if_neg huser, if_neg hcorrelation, if_pos hname, ite_self]
  correlation := by
    rw [getAll_correlationId_outbound, correlationValue_eq]
  body := by
    simp only [outbound, carriesBody_iff]
  unmeasured hmethod := by
    rw [← carriesBody_iff, Bool.not_eq_true] at hmethod
    rw [outbound, getAll_outboundHeaders, if_pos ⟨rfl, hmethod⟩]
  kept name hhop hothers hlength := by
    simp only [List.mem_cons, List.not_mem_nil, or_false, not_or] at hothers
    rw [← carriesBody_iff] at hlength
    rw [outbound, getAll_outboundHeaders, if_neg fun h => ?_, if_neg hothers.2.2, if_neg hothers.2.1,
      if_neg fun h => ?_]
    · rcases h with hhop' | hhost
      · exact Bool.false_ne_true (hhop.symm.trans hhop')
      · exact hothers.1 hhost
    · exact Bool.false_ne_true (h.2.symm.trans (hlength h.1))
  added f hf := by
    refine Headers.mem_or_of_kept (p := fun n => n = .correlationId ∨ n = .userId)
      (fun name hname => ?_) hf
    rw [not_or] at hname
    rw [outbound, getAll_outboundHeaders, if_neg hname.2, if_neg hname.1]
    split
    · exact .inr rfl
    · split
      · exact .inr rfl
      · exact .inl rfl

/-! ### Answers -/

/-- **What the caller is told** under any name. -/
theorem Response.getAll_stamp (u : Response) (service : String) (elapsed : Duration)
    (correlation : Bytes) (name : HeaderName) :
    (u.stamp service elapsed correlation).headers.getAll name
      = if name = .correlationId then [correlation]
        else if name = .responseTime then [Bytes.ofText elapsed.millisText]
        else if name = .gatewayService then
          (headerValue? service).elim (u.headers.getAll .gatewayService) ([·])
        else if isHopByHop name = true then []
        else u.headers.getAll name := by
  have hservice : u.headers.stripHopByHop.getAll .gatewayService
      = u.headers.getAll .gatewayService := by
    rw [Headers.stripHopByHop_eq, Headers.getAll_withoutHopByHop, if_neg (by decide)]
  rw [stamp, Headers.getAll_set, Headers.getAll_setIf, headerValue?_millisText, Option.elim_some,
    Headers.getAll_setIf, hservice, Headers.stripHopByHop_eq, Headers.getAll_withoutHopByHop]

/-- **What becomes of an answer** to a request that was sent. -/
structure Returned (service : String) (elapsed : Duration) (o : Outbound) (u response : Response) :
    Prop where
  status : response.status = u.status
  body : response.body = u.body
  /-- No hop-by-hop field is left, however often it was there. -/
  stripped : ∀ name, isHopByHop name = true → response.headers.getAll name = []
  service : response.headers.getAll .gatewayService = [Bytes.ofText service]
  time : response.headers.getAll .responseTime = [Bytes.ofText elapsed.millisText]
  /-- The caller and the instance are told one identifier, and the same. -/
  correlation : ∃ value, o.headers.getAll .correlationId = [value] ∧
    response.headers.getAll .correlationId = [value]
  /-- Every other name has the values that it had, in their order. -/
  kept : ∀ name, isHopByHop name = false →
    name ∉ [.gatewayService, .responseTime, .correlationId] →
      response.headers.getAll name = u.headers.getAll name
  /-- Every field was there, or is one that the gateway writes. -/
  added : ∀ f ∈ response.headers,
    f ∈ u.headers ∨ f.1 ∈ [.gatewayService, .responseTime, .correlationId]

/-- **An answer is returned** as it was given, but for the fields of one leg and the gateway's own. -/
theorem Response.returned_stamp (u : Response) {service : String}
    (hservice : (headerValue? service).isSome = true) (elapsed : Duration) {o : Outbound}
    {correlation : Bytes} (ho : o.headers.getAll .correlationId = [correlation]) :
    Returned service elapsed o u (u.stamp service elapsed correlation) where
  status := rfl
  body := rfl
  stripped name hhop := by
    have hcorrelation : name ≠ .correlationId :=
      HeaderName.ne_of_unsent (.inl hhop) (by decide) (by decide)
    have htime : name ≠ .responseTime := HeaderName.ne_of_unsent (.inl hhop) (by decide) (by decide)
    have hgateway : name ≠ .gatewayService :=
      HeaderName.ne_of_unsent (.inl hhop) (by decide) (by decide)
    rw [getAll_stamp, if_neg hcorrelation, if_neg htime, if_neg hgateway, if_pos hhop]
  service := by
    obtain ⟨value, hvalue⟩ := Option.isSome_iff_exists.mp hservice
    rw [getAll_stamp, hvalue, if_neg (by decide), if_neg (by decide), if_pos rfl, Option.elim_some,
      eq_of_headerValue? hvalue]
  time := by
    rw [getAll_stamp, if_neg (by decide), if_pos rfl]
  correlation := ⟨correlation, ho, by rw [getAll_stamp, if_pos rfl]⟩
  kept name hhop hothers := by
    simp only [List.mem_cons, List.not_mem_nil, or_false, not_or] at hothers
    rw [getAll_stamp, if_neg hothers.2.2, if_neg hothers.2.1, if_neg hothers.1, if_neg (by simp [hhop])]
  added f hf := by
    refine Headers.mem_or_of_kept
      (p := fun n => n ∈ [.gatewayService, .responseTime, .correlationId])
      (fun name hname => ?_) hf
    simp only [List.mem_cons, List.not_mem_nil, or_false, not_or] at hname
    rw [getAll_stamp, if_neg hname.2.2, if_neg hname.2.1, if_neg hname.1]
    split
    · exact .inr rfl
    · exact .inl rfl

/-! ### Deliveries -/

namespace Delivery

/-- **Requests pass through**: what is sent is what came in, but for the fields of one leg and the
gateway's own. -/
theorem passedOn_of_sent {d : Delivery} {o : Outbound} (h : d.result.sent = some o) :
    PassedOn d.errand.times.identifier d.errand.request o := by
  rw [(exchanged_of_sent h).request, requestTo]
  exact d.errand.request.passedOn_outbound o.uri d.errand.times.identifier d.errand.timeout

/-- Fields that are repeated are kept in their order, those of one leg and the length of a body that
is not sent are not, and an empty identifier is replaced. -/
theorem passedOn_of_sent_repeated_fields :
    let field (name value : String) : HeaderName × Bytes := (⟨name⟩, Bytes.ofText value)
    let request : Request :=
      { method := "GET"
        uri := ⟨none, none, "/x", none⟩
        headers := [field "accept" "a", field "connection" "te", field "x-correlation-id" "",
          field "host" "h", field "accept" "b", field "content-length" "2", field "connection" "b",
          field "x-correlation-id" "c"]
        body := { content := Bytes.ofText "ok" } }
    let errand : Errand :=
      { times := .frozen (.ofParts 12 0), timeout := .ofSeconds 5, request, service := "a"
        targetPath := "/x", backend := fun _ => {} }
    ∃ r o, Registry.ofConfig [{ name := "a", instances := [{ url := "http://h" }] }] {} = .ok r ∧
      (Delivery.result ⟨r, errand⟩).sent = some o ∧
      o.headers = [field "accept" "a", field "accept" "b", field "x-correlation-id" "gw-12000"] ∧
      o.body = .empty ∧ PassedOn errand.times.identifier request o := by
  intro field request errand
  obtain ⟨r, hr⟩ : ∃ r, Registry.ofConfig
      [{ name := "a", instances := [{ url := "http://h" }] }] {} = .ok r := ⟨_, rfl⟩
  have hsent : (Delivery.result ⟨r, errand⟩).sent.map Outbound.headers
      = some [field "accept" "a", field "accept" "b", field "x-correlation-id" "gw-12000"] := by
    obtain rfl := Except.ok.inj hr
    decide +kernel
  obtain ⟨o, ho, hheaders⟩ := Option.map_eq_some_iff.mp hsent
  exact ⟨r, o, hr, ho, hheaders, (passedOn_of_sent ho).body, passedOn_of_sent ho⟩

/-- **Answers pass through.** Through a service whose name can stand in a field, an answer is what the
instance answered, but for the fields of one leg and the gateway's own, and every answer of the
instance is answered so. What is removed in place from an answer is what a copy of a request leaves
out. -/
theorem returned_of_answer {d : Delivery}
    (hservice : (headerValue? d.errand.service).isSome = true) :
    (∀ response, d.result.answer = .ok response → ∃ o u, d.result.sent = some o ∧
        (d.errand.backend o).outcome = .ok u ∧
        Returned d.errand.service (d.errand.backend o).latency o u response) ∧
      (∀ o u, d.result.sent = some o → (d.errand.backend o).outcome = .ok u →
        ∃ response, d.result.answer = .ok response) ∧
      ∀ h : Headers, h.stripHopByHop = h.withoutHopByHop := by
  refine ⟨fun response hanswer => ?_, fun o u hsent hreply => ?_, Headers.stripHopByHop_eq⟩
  · obtain ⟨o, u, ho, hreply⟩ := exists_of_answer hanswer
    rw [ho.answer hreply] at hanswer
    obtain rfl := Except.ok.inj hanswer
    refine ⟨o, u, ho.sent, hreply, u.returned_stamp hservice _ ?_⟩
    rw [ho.request]
    exact d.errand.request.getAll_correlationId_outbound _ _ _
  · exact ⟨_, (exchanged_of_sent hsent).answer hreply⟩

/-- An answer that names a service, a time and two identifiers of its own, and has a field of one leg
twice. -/
theorem returned_of_answer_stamped_before :
    let field (name value : String) : HeaderName × Bytes := (⟨name⟩, Bytes.ofText value)
    let u : Response :=
      { status := 404
        headers := [field "x-gateway-service" "b", field "connection" "te", field "etag" "1",
          field "x-correlation-id" "d", field "x-response-time" "0", field "connection" "close",
          field "x-correlation-id" "e", field "etag" "2"]
        body := Bytes.ofText "no" }
    let errand : Errand :=
      { times := .frozen (.ofParts 12 0), timeout := .ofSeconds 5
        request :=
          { method := "GET", uri := ⟨none, none, "/x", none⟩
            headers := [field "x-correlation-id" "c"], body := .empty }
        service := "a", targetPath := "/x"
        backend := fun _ => { latency := .ofMillis 3, outcome := .ok u } }
    ∃ r response o,
      Registry.ofConfig [{ name := "a", instances := [{ url := "http://h" }] }] {} = .ok r ∧
      (headerValue? errand.service).isSome = true ∧
      (Delivery.result ⟨r, errand⟩).answer = .ok response ∧
      response.headers = [field "etag" "1", field "etag" "2", field "x-gateway-service" "a",
        field "x-response-time" "3.00", field "x-correlation-id" "c"] ∧
      Returned "a" (.ofMillis 3) o u response := by
  intro field u errand
  obtain ⟨r, hr⟩ : ∃ r, Registry.ofConfig
      [{ name := "a", instances := [{ url := "http://h" }] }] {} = .ok r := ⟨_, rfl⟩
  have hservice : (headerValue? errand.service).isSome = true := by decide +kernel
  have hanswered : (Delivery.result ⟨r, errand⟩).answer.toOption.map Response.headers
      = some [field "etag" "1", field "etag" "2", field "x-gateway-service" "a",
          field "x-response-time" "3.00", field "x-correlation-id" "c"] := by
    obtain rfl := Except.ok.inj hr
    decide +kernel
  obtain ⟨response, hanswer⟩ : ∃ response, (Delivery.result ⟨r, errand⟩).answer = .ok response := by
    rcases hanswer : (Delivery.result ⟨r, errand⟩).answer with e | response
    · rw [hanswer] at hanswered
      cases hanswered
    · exact ⟨response, rfl⟩
  rw [hanswer] at hanswered
  have hheaders := Option.some.inj hanswered
  obtain ⟨o, u', hsent, hreply, hreturned⟩ :=
    (@returned_of_answer ⟨r, errand⟩ hservice).1 response hanswer
  obtain rfl : u = u' := Except.ok.inj hreply
  exact ⟨r, response, o, hr, hservice, hanswer, hheaders, hreturned⟩

end Delivery

end Tollgate
