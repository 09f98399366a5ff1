import Tollgate.GatewayError
import Tollgate.Window.Limiter

/-!
# Admission

What happens to a request before it is routed. A path that is exempt is let through unseen. For any
other one the caller is resolved, and has to pass the window of its address and, if it names a user,
the window of that user as well; the second is not touched where the first refuses.
-/

namespace Tollgate

/-- The two windows a request has to pass. -/
inductive Scope where
  | global
  | user
deriving DecidableEq, Repr

namespace Scope

/-- The scope in one word. -/
def text : Scope → String
  | global => "global"
  | user => "user"

/-- What a refused caller is told. -/
def refusal : Scope → String
  | global => "Rate limit exceeded"
  | user => "User rate limit exceeded"

end Scope

/-- Who is exempt, and which field names the user. -/
structure Admission where
  exemptPaths : List String
  /-- Nothing where the configured text is no header name. -/
  userHeader : Option HeaderName
deriving DecidableEq, Repr

/-- What admission decides about a request. -/
inductive Verdict where
  | exempt
  | admitted (caller : Caller) (quota : Option QuotaState)
  | refused (scope : Scope) (decision : Decision)
deriving DecidableEq, Repr

/-- A verdict with what it took: the calls made on the store, oldest first, the time spent waiting
for it, and the limiter afterwards. -/
structure Admitted where
  verdict : Verdict
  calls : List StoreCall
  waitedMillis : Nat
  limiter : Limiter
deriving DecidableEq, Repr

namespace Headers

/-- The fields that tell a caller about the window of its address. -/
def setQuota (h : Headers) (q : QuotaState) : Headers :=
  ((h.set .rateLimit (Bytes.ofText (toString q.limit))).set .rateRemaining
    (Bytes.ofText (toString q.remaining))).set .rateReset (Bytes.ofText (toString q.resetAt))

end Headers

namespace Response

/-- The response with the fields about a quota, if there is one. -/
def withQuota (r : Response) : Option QuotaState → Response
  | some q => { r with headers := r.headers.setQuota q }
  | none => r

/-- The response to a caller who was refused, at `now`. -/
def refusal (scope : Scope) (d : Decision) (now : Int) : Response :=
  let told := (ofJson 429 (GatewayError.detail scope.refusal)).withQuota d.quota
  match d.retryAfter now with
  | some seconds =>
    { told with headers := told.headers.set .retryAfter (Bytes.ofText (toString seconds)) }
  | none => told

end Response

namespace Admission

/-- The admission of a configuration. -/
def ofConfig (c : RateLimitConfig) : Admission :=
  { exemptPaths := c.exemptPaths, userHeader := HeaderName.ofText? c.userIdHeader }

/-- The path is let through unseen. -/
def isExempt (a : Admission) (path : String) : Bool :=
  a.exemptPaths.contains path

/-- The caller of a request. -/
def callerOf (a : Admission) (headers : Headers) (peer : Option IpAddress) : Caller :=
  { address := headers.callerAddress peer
    user := a.userHeader.bind fun name => headers.text? name trimBlank }

/-- Check the windows of a caller, each at its second. -/
def check (l : Limiter) (faults : Faults) (caller : Caller) (seconds : Scope → Int) : Admitted :=
  let first := l.checkGlobal faults caller.address (seconds .global)
  if ¬ first.decision.allowed then
    ⟨.refused .global first.decision, first.calls, first.waitedMillis, first.limiter⟩
  else
    match caller.user with
    | none =>
      ⟨.admitted caller first.decision.quota, first.calls, first.waitedMillis, first.limiter⟩
    | some user =>
      let second := first.limiter.checkUser faults user (seconds .user)
      { verdict :=
          if second.decision.allowed then .admitted caller first.decision.quota
          else .refused .user second.decision
        calls := first.calls ++ second.calls
        waitedMillis := first.waitedMillis + second.waitedMillis
        limiter := second.limiter }

/-- Decide about a request, the windows being checked at these seconds. -/
def judge (a : Admission) (l : Limiter) (faults : Faults) (path : String) (headers : Headers)
    (peer : Option IpAddress) (seconds : Scope → Int) : Admitted :=
  if a.isExempt path then ⟨.exempt, [], 0, l⟩
  else check l faults (a.callerOf headers peer) seconds

end Admission

end Tollgate
