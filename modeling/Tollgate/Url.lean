import Tollgate.Text.Blank
import Tollgate.Url.Host

/-!
# URLs

Which texts are URLs, with what scheme and which host. The web's own rules are lenient: blanks at the
ends and line breaks inside are dropped, any number of slashes of either kind may precede the
authority of a web scheme, and one without slashes is complete as well.
-/

namespace Tollgate

/-- A URL, as far as it locates a host. -/
structure Url where
  scheme : String
  host : Option Host
deriving DecidableEq, Repr

namespace Url

/-- Schemes that name a host on the web. -/
def isWeb (scheme : String) : Bool :=
  ["http", "https", "ws", "wss", "ftp"].contains scheme

/-- The text that counts: without control characters and spaces at the ends, and without tabulators
and line breaks anywhere. -/
def relevant (s : List Char) : List Char :=
  (trimList (fun c => decide (c.toNat ≤ 0x20)) s).filter fun c =>
    c != '\t' && c != '\n' && c != '\x0d'

/-- The scheme, in lower case, and what follows its colon. -/
def splitScheme? (s : List Char) : Option (String × List Char) :=
  let name := s.takeWhile fun c => c.isAlphanum || c == '+' || c == '-' || c == '.'
  match s.drop name.length, name with
  | ':' :: rest, first :: _ =>
    if first.isAlpha then some (String.ofList (name.map Char.toLower), rest) else none
  | _, _ => none

/-- The character ends the authority. -/
def endsAuthority (web : Bool) (c : Char) : Bool :=
  c == '/' || c == '?' || c == '#' || web && c == '\\'

/-- What precedes and what follows the last at-sign; everything follows where there is none. -/
def splitUserInfo (authority : List Char) : Option (List Char) × List Char :=
  let behind := (authority.reverse.takeWhile (· != '@')).reverse
  if behind.length = authority.length then (none, authority)
  else (some (authority.take (authority.length - behind.length - 1)), behind)

/-- The length of the text of a host: up to a colon outside brackets. -/
def hostLength : Bool → List Char → Nat
  | _, [] => 0
  | inside, c :: rest =>
    if c = ':' ∧ ¬ inside then 0
    else hostLength (if c = '[' then true else if c = ']' then false else inside) rest + 1

/-- A port is a number of 16 bits, or left out behind its colon. -/
def isPort (digits : List Char) : Bool :=
  digits.all Char.isDigit && decimalValue digits < 65536

/-- The host of an authority, checking the port that may follow it. -/
def hostOfAuthority? (web : Bool) (authority : List Char) (terminated : Bool) :
    Except UrlError (Option Host) :=
  let (user, place) := splitUserInfo authority
  if user = some [] ∧ place = [] ∧ terminated then .error .emptyHost
  else
    let name := place.take (hostLength false place)
    let behind := place.drop name.length
    let portOk := match behind with
      | [] => true
      | _ :: port => isPort (port.takeWhile (· != '\\'))
    if name = [] then
      if web ∨ behind ≠ [] ∨ (user ≠ none ∧ user ≠ some [] ∧ user ≠ some [':']) then
        .error .emptyHost
      else .ok none
    else do
      let host ← if web then Host.parse? name else Host.parseUninterpreted? name
      if portOk then .ok (some host) else .error .invalidPort

/-- The host behind the slashes, which ends where a path, a query or a fragment starts. -/
def hostBehindSlashes? (web : Bool) (s : List Char) : Except UrlError (Option Host) :=
  let authority := s.takeWhile fun c => !endsAuthority web c
  hostOfAuthority? web authority (authority.length < s.length)

/-- The text is the letter of a drive, which no host is named by. -/
def isDrive : List Char → Bool
  | [letter, mark] => letter.isAlpha && (mark == ':' || mark == '|')
  | _ => false

/-- The host of a file, which the machine at hand need not be named as. -/
def hostOfFile? (s : List Char) : Except UrlError (Option Host) :=
  match s with
  | a :: b :: rest =>
    if (a = '/' ∨ a = '\\') ∧ (b = '/' ∨ b = '\\') then
      let name := rest.takeWhile fun c => !endsAuthority true c
      if name = [] ∨ isDrive name then .ok none
      else do
        let host ← Host.parse? name
        .ok (if host = .domain ["localhost".toList] then none else some host)
    else .ok none
  | _ => .ok none

/-- The URL of a text. -/
def parse? (text : String) : Except UrlError Url :=
  match splitScheme? (relevant text.toList) with
  | none => .error .relative
  | some (scheme, rest) => do
    let host ←
      if scheme = "file" then hostOfFile? rest
      else if isWeb scheme then
        hostBehindSlashes? true (rest.dropWhile fun c => c == '/' || c == '\\')
      else
        match rest with
        | '/' :: '/' :: behind => hostBehindSlashes? false behind
        | _ => .ok none
    .ok ⟨scheme, host⟩

end Url

end Tollgate
