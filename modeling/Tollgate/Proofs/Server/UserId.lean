import Tollgate.Config.Text
import Tollgate.Proofs.Http.Fields
import Tollgate.Proofs.Server.Visit

/-!
# The user that services are told about

A service takes the user from a field that carries the authenticated one. If the gateway vouches for
the caller it writes that field, in the place of whatever the request says there. If it does not,
the field goes through like any other one, and the service cannot tell the two cases apart.

So a client has no say in the user exactly if the gateway vouches for the caller
(`Delivery.user_vouched_for_or_claimed`). Whatever the configuration is, there are callers that it
does not vouch for: those that name no user in the configured field, and everybody on an exempt path
(`Delivery.claimed_user_is_told`).

## Main results

* `Delivery.getAll_userId_of_sent`: the user that is told.
* `Reception.vouched?_of_delivery?`: the user that the gateway vouches for.
* `Delivery.user_vouched_for_or_claimed`: when a client has a say in it.

## Conventions

* What is said about the user is all values of the field (`Headers.getAll .userId`); the field is
  absent if there are none.
-/

namespace Tollgate

namespace Delivery

/-- What is sent has the fields of the request for the chosen instance. -/
theorem headers_of_sent {d : Delivery} {o : Outbound} (h : d.result.sent = some o) :
    o.headers = d.errand.request.outboundHeaders
      (correlationValue d.errand.request.headers d.errand.times.identifier) := by
  rw [(exchanged_of_sent h).request, requestTo, Request.outbound]

/-- **The user that is told** is the one that the gateway vouches for, and else whoever the request
says. -/
theorem getAll_userId_of_sent {d : Delivery} {o : Outbound} (h : d.result.sent = some o) :
    o.headers.getAll .userId
      = d.errand.request.vouched?.elim (d.errand.request.headers.getAll .userId) ([·]) := by
  rw [headers_of_sent h, Request.getAll_outboundHeaders]
  rfl

end Delivery

namespace Reception

variable {x : Reception} {d : Delivery}

/-- **The gateway vouches for** the user that admission has resolved, if there is one. -/
theorem vouched?_of_delivery? (h : x.delivery? = some d) :
    d.errand.request.vouched?
      = ((x.server.callerOf? x.visit.inbound).bind Caller.user).map Bytes.ofText := by
  have hcaller : d.errand.request.caller = x.server.callerOf? x.visit.inbound := by
    rw [(Server.of_admittedDelivery? h).2.2.2.2]
    rfl
  rw [Request.vouched?, hcaller, Server.callerOf?]
  split
  · rfl
  · rw [Option.bind_some]
    rcases huser : (x.server.admission.callerOf x.visit.inbound.headers x.visit.inbound.peer).user
      with _ | user
    · rfl
    · exact Admission.headerValue?_of_user huser

/-- What is sent for a visit is what its delivery sends, and the request has the fields that came
in. -/
theorem sent_of_delivery? (h : x.delivery? = some d) :
    x.served.sent = d.result.sent ∧ d.errand.request.headers = x.visit.inbound.headers := by
  obtain ⟨quota, hfollows⟩ := x.follows_served
  rw [hfollows.sent, h, (Server.of_admittedDelivery? h).2.2.2.2]
  exact ⟨rfl, rfl⟩

end Reception

namespace Delivery

/-- **The user is vouched for or claimed.** If the gateway vouches for the caller, a service is told
that user and no other; if not, it is told whatever the request says. So it is told the vouched user
and nothing else exactly if there is one or nothing is claimed, and two requests of one caller tell
it the same exactly if the gateway vouches for the caller or both claim the same. The gateway
vouches for a request that came in if admission has resolved its user. -/
theorem user_vouched_for_or_claimed {d : Delivery} {o : Outbound} (h : d.result.sent = some o) :
    let vouched? := d.errand.request.vouched?
    let claimed := d.errand.request.headers.getAll .userId
    let told := o.headers.getAll .userId
    (∀ user, vouched? = some user → told = [user]) ∧
      (vouched? = none → told = claimed) ∧
      (told = vouched?.toList ↔ vouched?.isSome = true ∨ claimed = []) ∧
      (∀ (d' : Delivery) (o' : Outbound), d'.result.sent = some o' →
          d'.errand.request.caller = d.errand.request.caller →
        (o'.headers.getAll .userId = told
          ↔ vouched?.isSome = true ∨ d'.errand.request.headers.getAll .userId = claimed)) ∧
      ∀ x : Reception, x.delivery? = some d →
        x.served.sent = some o ∧ claimed = x.visit.inbound.headers.getAll .userId ∧
          vouched? = ((x.server.callerOf? x.visit.inbound).bind Caller.user).map Bytes.ofText := by
  intro vouched? claimed told
  have htold : told = vouched?.elim claimed ([·]) := getAll_userId_of_sent h
  refine ⟨fun user huser => ?_, fun hnone => ?_, ?_, fun d' o' h' hcaller => ?_, fun x hx => ?_⟩
  · rw [htold, huser, Option.elim_some]
  · rw [htold, hnone, Option.elim_none]
  · rw [htold]
    rcases vouched? with _ | user <;> simp
  · have hsame : d'.errand.request.vouched? = vouched? := by
      simp only [vouched?, Request.vouched?, hcaller]
    rw [getAll_userId_of_sent h', hsame, htold]
    rcases vouched? with _ | user <;> simp
  · obtain ⟨hsent, hheaders⟩ := Reception.sent_of_delivery? hx
    exact ⟨hsent.trans h, by simp only [claimed, hheaders], Reception.vouched?_of_delivery? hx⟩

/-- A gateway that finds users in a field of another name. A request that names one there has its
claim replaced; a request that does not has its claim sent on. -/
theorem user_vouched_for_or_claimed_other_field :
    let c : Config :=
      { services := [{ name := "a", instances := [{ url := "http://h" }] }]
        routes := [{ name := "r", pathPrefix := "/", service := "a" }]
        rateLimit := { enabled := false, userIdHeader := "x-account" } }
    let claim : HeaderName × Bytes := (.userId, Bytes.ofText "root")
    let visit (headers : Headers) : Visit :=
      { times := .frozen (.ofParts 0 0)
        faults := {}
        backend := fun _ => {}
        inbound := { method := "GET", uri := ⟨none, none, "/x", none⟩, headers } }
    let tells (s : Server) (headers : Headers) (user : String) : Prop :=
      ∃ d o, Reception.delivery? ⟨s, visit headers⟩ = some d ∧ d.result.sent = some o ∧
        o.headers.getAll .userId = [Bytes.ofText user]
    ∃ s, Server.ofConfig c (.ofConfig c.rateLimit none) = .ok s ∧
      tells s [(⟨"x-account"⟩, Bytes.ofText "ann"), claim] "ann" ∧ tells s [claim] "root" := by
  intro c claim visit tells
  obtain ⟨s, hs⟩ : ∃ s, Server.ofConfig c (.ofConfig c.rateLimit none) = .ok s :=
    ⟨_, rfl⟩
  have hsends : ∀ headers, (Reception.served ⟨s, visit headers⟩).sent.isSome = true →
      ∃ d o, Reception.delivery? ⟨s, visit headers⟩ = some d ∧ d.result.sent = some o := by
    intro headers h
    obtain ⟨o, ho⟩ := Option.isSome_iff_exists.mp h
    obtain ⟨d, hd, hsent⟩ := Reception.exists_of_sent ho
    exact ⟨d, o, hd, hsent⟩
  refine ⟨s, hs, ?_, ?_⟩ <;> obtain rfl := Except.ok.inj hs
  · obtain ⟨d, o, hd, hsent⟩ :=
      hsends [(⟨"x-account"⟩, Bytes.ofText "ann"), claim] (by decide +kernel)
    refine ⟨d, o, hd, hsent, (user_vouched_for_or_claimed hsent).1 _ ?_⟩
    rw [Reception.vouched?_of_delivery? hd]
    decide +kernel
  · obtain ⟨d, o, hd, hsent⟩ := hsends [claim] (by decide +kernel)
    refine ⟨d, o, hd, hsent, ?_⟩
    rw [(user_vouched_for_or_claimed hsent).2.1, (Reception.sent_of_delivery? hd).2]
    · decide +kernel
    · rw [Reception.vouched?_of_delivery? hd]
      decide +kernel

/-- **A user that a client claims is told to services**, in three valid configurations: one that
finds users in a field of another name, one that exempts the path, and the default one, where the
first of two values is empty. Each time two requests differ in the claim alone, admission resolves
the same caller or nobody, and no user, and the service is told what is claimed. -/
theorem claimed_user_is_told :
    let config (rateLimit : RateLimitConfig) : Config :=
      { services := [{ name := "a", instances := [{ url := "http://h" }] }]
        routes := [{ name := "r", pathPrefix := "/", service := "a" }]
        rateLimit }
    let observe (c : Config) (claims : List String) : Option (Option Caller × List Bytes) :=
      let inbound : Inbound :=
        { method := "GET"
          uri := ⟨none, none, "/x", none⟩
          headers := claims.map fun claim => (.userId, Bytes.ofText claim) }
      (Server.ofConfig c (.ofConfig c.rateLimit none)).toOption.bind fun s =>
        (Reception.served ⟨s, .frozen (.ofParts 0 0), {}, fun _ => {}, inbound⟩).sent.map fun o =>
          (s.callerOf? inbound, o.headers.getAll .userId)
    let other := config { userIdHeader := "x-account" }
    let exempt := config { exemptPaths := ["/x"] }
    let default := config {}
    let nobody : Caller := ⟨"unknown", none⟩
    (other.validate = .ok other ∧
        observe other [] = some (some nobody, []) ∧
        observe other ["root"] = some (some nobody, [Bytes.ofText "root"])) ∧
      (exempt.validate = .ok exempt ∧
        observe exempt [] = some (none, []) ∧
        observe exempt ["root"] = some (none, [Bytes.ofText "root"])) ∧
      (default.validate = .ok default ∧
        observe default [""] = some (some nobody, [[]]) ∧
        observe default ["", "root"] = some (some nobody, [[], Bytes.ofText "root"])) := by
  intro config observe other exempt default nobody
  refine ⟨⟨?_, ?_, ?_⟩, ⟨?_, ?_, ?_⟩, ?_, ?_, ?_⟩ <;> decide +kernel

end Delivery

end Tollgate
