import Tollgate.Http.Message
import Tollgate.Text.Split

/-!
# Exchanges

What one exchange with an instance comes to: the request as it is written, and the reply read from
the bytes of a connection. A reply is whole when its framing says so: its length, chunks, or the end
of the connection. The deadline covers the whole exchange, so a reply that is not whole while the
connection stays open is a timeout.
-/

namespace Tollgate

/-- What is at the other end of a connection. -/
inductive Peer where
  | unreachable
  /-- It writes these bytes, and then closes the connection or leaves it open. -/
  | writing (reply : Bytes) (staysOpen : Bool)
deriving DecidableEq, Repr

/-- Why some bytes are no reply. -/
inductive ReplyFlaw where
  /-- More bytes would have to come. -/
  | incomplete
  | malformed
deriving DecidableEq, Repr

/-- How the end of a body is known. -/
inductive Framing where
  | length (n : Nat)
  | chunks
  | untilClosed
deriving DecidableEq, Repr

/-- Reads from the front of the bytes of a reply. -/
abbrev ReplyReader (α : Type) := Bytes → Except ReplyFlaw (α × Bytes)

/-! ### Writing -/

namespace Uri

/-- The identifier as it stands in the first line of a request to the host itself. -/
def originText (u : Uri) : String :=
  u.path ++ (match u.query with | some q => "?" ++ q | none => "")

end Uri

namespace Outbound

/-- The first line of the request. -/
def requestLine (o : Outbound) : String :=
  o.method ++ " " ++ o.uri.originText ++ " HTTP/1.1"

/-- The fields as they are written: the length of a body that is not empty is told. -/
def writtenHeaders (o : Outbound) : Headers :=
  if o.body.content = [] then o.headers
  else o.headers.set .contentLength (Bytes.ofText (toString o.body.content.length))

end Outbound

/-! ### Reading -/

namespace ReplyReader

/-- A line, without its end. -/
def rawLine : ReplyReader Bytes
  | [] => .error .incomplete
  | b :: rest =>
    if b = 10 then .ok ([], rest)
    else (rawLine rest).map fun (line, behind) => (b :: line, behind)

/-- A line, without the line feed and the carriage return before it. -/
def line (s : Bytes) : Except ReplyFlaw (Bytes × Bytes) :=
  (rawLine s).map fun (l, behind) => (if l.getLast? = some 13 then l.dropLast else l, behind)

/-- The digit a byte stands for. -/
def digit? (b : UInt8) : Option Nat :=
  if 48 ≤ b ∧ b ≤ 57 then some (b.toNat - 48) else none

/-- The status in the first line of a reply. -/
def status? (first : Bytes) : Option Nat := do
  let version := first.take 9
  if version = Bytes.ofText "HTTP/1.1 " ∨ version = Bytes.ofText "HTTP/1.0 " then
    match first.drop 9 with
    | a :: b :: c :: rest =>
      let n := 100 * (← digit? a) + 10 * (← digit? b) + (← digit? c)
      if 100 ≤ n ∧ (rest = [] ∨ rest.head? = some 32) ∧ rest.all isHeaderByte then some n else none
    | _ => none
  else none

/-- Bytes without blanks and tabulators at their ends. -/
def trim (value : Bytes) : Bytes :=
  let blank (b : UInt8) : Bool := b == 32 || b == 9
  ((value.dropWhile blank).reverse.dropWhile blank).reverse

/-- The field of a line. -/
def field? (l : Bytes) : Option (HeaderName × Bytes) := do
  let name := l.takeWhile (· != 58)
  if name.length < l.length ∧ name.all (· < 128) then do
    let name ← HeaderName.ofText? (Bytes.asciiText name)
    let value := trim (l.drop (name.text.length + 1))
    if value.all isHeaderByte then some (name, value) else none
  else none

/-- Fields up to an empty line, of which there are at most `fuel`. -/
def fields : Nat → ReplyReader Headers
  | 0, _ => .error .malformed
  | fuel + 1, s => do
    let (l, rest) ← line s
    if l = [] then .ok ([], rest)
    else
      match field? l with
      | none => .error .malformed
      | some f => do
        let (fs, rest) ← fields fuel rest
        .ok (f :: fs, rest)

/-- Status and fields of a reply, behind any empty lines. -/
def head (s : Bytes) : Except ReplyFlaw ((Nat × Headers) × Bytes) := do
  let (first, rest) ← line (s.dropWhile fun b => b == 13 || b == 10)
  match status? first with
  | none => .error .malformed
  | some status => do
    let (headers, rest) ← fields (rest.length + 1) rest
    .ok ((status, headers), rest)

/-- Status and fields of the reply itself, behind those that only announce one. -/
def finalHead : Nat → ReplyReader (Nat × Headers)
  | 0, _ => .error .malformed
  | fuel + 1, s => do
    let ((status, headers), rest) ← head s
    if status < 200 ∧ status ≠ 101 then finalHead fuel rest
    else .ok ((status, headers), rest)

/-- The values of a field that holds a list. -/
def listed (headers : Headers) (name : HeaderName) : List Bytes :=
  (headers.getAll name).flatMap fun value =>
    (splitWhere (· == ',') (Bytes.asciiText value).toList).map fun part =>
      trim (Bytes.ofText (String.ofList part))

/-- The number of decimal digits. -/
def number? (value : Bytes) : Option Nat :=
  if value = [] then none
  else value.foldlM (fun n b => (digit? b).map (10 * n + ·)) 0

/-- The length that the fields tell, if all of them tell the same one. -/
def length? (headers : Headers) : Option Nat :=
  match listed headers .contentLength with
  | [] => none
  | first :: others => if others.all (· = first) then number? first else none

/-- How the body of a reply to `method` ends. -/
def framing (method : String) (status : Nat) (headers : Headers) : Except ReplyFlaw Framing :=
  let encodings := listed headers ⟨"transfer-encoding"⟩
  if method = "HEAD" ∨ status < 200 ∨ status = 204 ∨ status = 304 then .ok (.length 0)
  else if encodings ≠ [] then
    if (encodings.getLast?.map fun e => (Bytes.asciiText e).toLower) = some "chunked" then
      .ok .chunks
    else .ok .untilClosed
  else if headers.getAll .contentLength = [] then .ok .untilClosed
  else
    match length? headers with
    | some n => .ok (.length n)
    | none => .error .malformed

/-- The size a chunk is announced with; what follows a semicolon says nothing about it. -/
def chunkSize? (l : Bytes) : Option Nat :=
  let digits := trim (l.takeWhile (· != 59))
  if digits = [] then none
  else digits.foldlM
    (fun n b => (Bytes.hexValue? (Char.ofNat b.toNat)).map (16 * n + ·)) 0

/-- The content of at most `fuel` chunks. -/
def chunks : Nat → ReplyReader Bytes
  | 0, _ => .error .malformed
  | fuel + 1, s => do
    let (l, rest) ← line s
    match chunkSize? l with
    | none => .error .malformed
    | some 0 => do
      let (_, rest) ← fields (rest.length + 1) rest
      .ok ([], rest)
    | some n =>
      if rest.length < n then .error .incomplete
      else do
        let (gap, behind) ← line (rest.drop n)
        if gap ≠ [] then .error .malformed
        else do
          let (more, behind) ← chunks fuel behind
          .ok (rest.take n ++ more, behind)

/-- The body of a reply. -/
def body (staysOpen : Bool) (s : Bytes) : Framing → Except ReplyFlaw Bytes
  | .length n => if s.length < n then .error .incomplete else .ok (s.take n)
  | .chunks => (chunks (s.length + 1) s).map Prod.fst
  | .untilClosed => if staysOpen then .error .incomplete else .ok s

/-- The reply to `method` that the bytes of a connection hold. -/
def reply (method : String) (staysOpen : Bool) (s : Bytes) : Except ReplyFlaw Response := do
  let ((status, headers), rest) ← finalHead (s.length + 1) s
  let framing ← framing method status headers
  let body ← body staysOpen rest framing
  .ok { status, headers, body }

end ReplyReader

namespace Outbound

/-- What sending a request to a peer comes to. -/
def exchange (o : Outbound) : Peer → Except TransportError Response
  | .unreachable => .error ⟨.connect, "no connection"⟩
  | .writing bytes staysOpen =>
    match ReplyReader.reply o.method staysOpen bytes with
    | .ok r => .ok r
    | .error .malformed => .error ⟨.other, "invalid reply"⟩
    | .error .incomplete =>
      .error (if staysOpen then .timeout o.timeout else ⟨.other, "connection closed early"⟩)

end Outbound

end Tollgate
