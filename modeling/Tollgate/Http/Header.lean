import Tollgate.Text.Bytes

/-!
# Header fields

Header names are tokens compared without regard to case, so they are kept in lower case. A value is
a byte string. Header fields are a list: fields of the same name keep their order, which is what a
receiver may rely on.
-/

namespace Tollgate

/-- A header name in lower case. -/
structure HeaderName where
  text : String
deriving DecidableEq, Repr

namespace HeaderName

/-- Characters of a token. -/
def isTokenChar (c : Char) : Bool :=
  c.isAlphanum || "!#$%&'*+-.^_\x60|~".toList.contains c

/-- The longest name. -/
def maxLength : Nat := 65535

/-- The name a text stands for: a token of either case. -/
def ofText? (s : String) : Option HeaderName :=
  if s.toList.all isTokenChar ∧ s ≠ "" ∧ s.length ≤ maxLength then
    some ⟨String.ofList (s.toList.map Char.toLower)⟩
  else none

/-- The length of the body. -/
def contentLength : HeaderName := ⟨"content-length"⟩

/-- The kind of the body. -/
def contentType : HeaderName := ⟨"content-type"⟩

/-- The host a request was made to. -/
def host : HeaderName := ⟨"host"⟩

/-- The program that made a request. -/
def userAgent : HeaderName := ⟨"user-agent"⟩

/-- When to try again. -/
def retryAfter : HeaderName := ⟨"retry-after"⟩

/-- The methods a resource accepts. -/
def allow : HeaderName := ⟨"allow"⟩

/-- The identifier a request is followed by through all services. -/
def correlationId : HeaderName := ⟨"x-correlation-id"⟩

/-- The authenticated user, as told to services. -/
def userId : HeaderName := ⟨"x-user-id"⟩

/-- The service that answered. -/
def gatewayService : HeaderName := ⟨"x-gateway-service"⟩

/-- How long the service took. -/
def responseTime : HeaderName := ⟨"x-response-time"⟩

/-- The addresses a request came through. -/
def forwardedFor : HeaderName := ⟨"x-forwarded-for"⟩

/-- The address a request came from. -/
def realIp : HeaderName := ⟨"x-real-ip"⟩

/-- Requests allowed in a window. -/
def rateLimit : HeaderName := ⟨"x-ratelimit-limit"⟩

/-- Requests left in the window. -/
def rateRemaining : HeaderName := ⟨"x-ratelimit-remaining"⟩

/-- When the window frees up. -/
def rateReset : HeaderName := ⟨"x-ratelimit-reset"⟩

end HeaderName

/-- The bytes of a header value: tab, and everything from the blank on but for delete. -/
def isHeaderByte (b : UInt8) : Bool :=
  b == 9 || (32 ≤ b && b != 127)

/-- The bytes a header value can be read as text with: tab and the printable ones below 127. -/
def isReadableByte (b : UInt8) : Bool :=
  b == 9 || (32 ≤ b && b < 127)

/-- The value a text stands for, if all its bytes are legal. -/
def headerValue? (s : String) : Option Bytes :=
  let value := Bytes.ofText s
  if value.all isHeaderByte then some value else none

/-- The text of a value that is readable as such. -/
def readableText? (value : Bytes) : Option String :=
  if value.all isReadableByte then some (Bytes.asciiText value) else none

/-- Header fields, in order. -/
abbrev Headers := List (HeaderName × Bytes)

namespace Headers

/-- The first value of a name. -/
def get? (h : Headers) (name : HeaderName) : Option Bytes :=
  (h.find? fun f => f.1 = name).map Prod.snd

/-- All values of a name, in order. -/
def getAll (h : Headers) (name : HeaderName) : List Bytes :=
  (h.filter fun f => f.1 = name).map Prod.snd

/-- The fields without those of a name. -/
def remove (h : Headers) (name : HeaderName) : Headers :=
  h.filter fun f => f.1 ≠ name

/-- The fields with exactly one of that name. -/
def set (h : Headers) (name : HeaderName) (value : Bytes) : Headers :=
  h.remove name ++ [(name, value)]

/-- The fields with one more at the end. -/
def add (h : Headers) (name : HeaderName) (value : Bytes) : Headers :=
  h ++ [(name, value)]

/-- The first value of a name as a text without blanks around it, if that is readable and not
empty. -/
def text? (h : Headers) (name : HeaderName) (trim : String → String) : Option String :=
  ((h.get? name).bind readableText?).map trim |>.filter fun s => s ≠ ""

end Headers

end Tollgate
