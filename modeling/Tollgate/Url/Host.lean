import Tollgate.Url.Domain

/-!
# Hosts

What stands between the slashes and the port of a URL: a domain name, or an address of either
version. A name whose last label is a number is an address and nothing else; its parts may be
decimal, octal or hexadecimal, and the last one fills what the others leave.
-/

namespace Tollgate

/-- A host. -/
inductive Host where
  | domain (labels : List (List Char))
  | address (ip : IpAddress)
  /-- The host of a scheme that gives hosts no meaning. -/
  | uninterpreted (text : List Char)
deriving DecidableEq, Repr

/-- Why a text is no URL. -/
inductive UrlError where
  | relative
  | emptyHost
  | invalidPort
  | invalidIpv4
  | invalidIpv6
  | invalidDomain
  | invalidDomainCharacter
deriving DecidableEq, Repr

namespace UrlError

/-- The reason as a text. -/
def message : UrlError → String
  | relative => "relative URL without a base"
  | emptyHost => "empty host"
  | invalidPort => "invalid port number"
  | invalidIpv4 => "invalid IPv4 address"
  | invalidIpv6 => "invalid IPv6 address"
  | invalidDomain => "invalid international domain name"
  | invalidDomainCharacter => "invalid domain character"

end UrlError

namespace Host

/-- The byte that two hexadecimal digits stand for. -/
def hexPair? (a b : UInt8) : Option UInt8 := do
  let high ← Bytes.hexValue? (Char.ofNat a.toNat)
  let low ← Bytes.hexValue? (Char.ofNat b.toNat)
  some (UInt8.ofNat (16 * high + low))

/-- The bytes of a text with each pair of hexadecimal digits behind a percent sign read as a byte. -/
def percentDecode : Bytes → Bytes
  | [] => []
  | [x] => [x]
  | [x, y] => [x, y]
  | x :: a :: b :: rest =>
    match if x = 0x25 then hexPair? a b else none with
    | some byte => byte :: percentDecode rest
    | none => x :: percentDecode (a :: b :: rest)

/-- The number a part of a version 4 address stands for: hexadecimal behind `0x`, octal behind `0`,
decimal otherwise, and zero where no digit is left. -/
def partValue? (digits : List Char) : Option Nat :=
  let read (base : Nat) (digits : List Char) : Option Nat :=
    if digits.all fun c => (Bytes.hexValue? c).any (· < base) then
      some (radixValue base digits)
    else none
  match digits with
  | [] => none
  | '0' :: 'x' :: rest => read 16 rest
  | '0' :: 'X' :: rest => read 16 rest
  | '0' :: c :: rest => read 8 (c :: rest)
  | _ => read 10 digits

/-- The parts of a name, without an empty last one. -/
def numericParts (labels : List (List Char)) : List (List Char) :=
  if labels.getLast? = some [] ∧ 1 < labels.length then labels.dropLast else labels

/-- The last label is a number, so that the name can only be an address. -/
def endsInNumber (labels : List (List Char)) : Bool :=
  match (numericParts labels).getLast? with
  | none => false
  | some last =>
    last != [] && last.all Char.isDigit
      || (match last with
        | '0' :: 'x' :: rest => rest.all fun c => (Bytes.hexValue? c).isSome
        | '0' :: 'X' :: rest => rest.all fun c => (Bytes.hexValue? c).isSome
        | _ => false)

/-- The address that numeric parts give: all but the last are octets, and the last one fills the
octets that are left. -/
def ipv4OfParts? (labels : List (List Char)) : Option (List Nat) := do
  let parts := numericParts labels
  if 4 < parts.length then none
  else do
    let values ← parts.mapM partValue?
    let last ← values.getLast?
    let octets := values.dropLast
    let left := 4 - octets.length
    if octets.all (· ≤ 255) ∧ last < Nat.pow 256 left then
      some (octets ++ ((List.range left).map fun i => last / Nat.pow 256 (left - 1 - i) % 256))
    else none

/-- The host that a name gives. -/
def ofName? (name : List Char) : Except UrlError Host :=
  match Bytes.text? (percentDecode (Bytes.ofText (String.ofList name))) with
  | none => .error .invalidDomain
  | some decoded =>
    match Domain.labels? decoded.toList with
    | none => .error .invalidDomain
    | some labels =>
      if labels.flatten = [] ∧ labels.length ≤ 1 then .error .emptyHost
      else if endsInNumber labels then
        match ipv4OfParts? labels with
        | some octets => .ok (.address (.v4 octets))
        | none => .error .invalidIpv4
      else .ok (.domain labels)

/-- The address between brackets. -/
def ofBrackets? (rest : List Char) : Except UrlError Host :=
  if rest.getLast? = some ']' then
    match IpAddress.sixGroups? rest.dropLast with
    | some groups => .ok (.address (.v6 groups))
    | none => .error .invalidIpv6
  else .error .invalidIpv6

/-- The host of a text that is not empty, for the schemes of the web. -/
def parse? (s : List Char) : Except UrlError Host :=
  match s with
  | '[' :: rest => ofBrackets? rest
  | _ => ofName? s

/-- Characters that no host holds, whatever its scheme. -/
def isForbidden (c : Char) : Bool :=
  ['\x00', '\t', '\n', '\x0d', ' ', '#', '/', ':', '<', '>', '?', '@', '[', '\\', ']', '^', '|'].contains c

/-- The host of a text, for a scheme that gives hosts no meaning. -/
def parseUninterpreted? (s : List Char) : Except UrlError Host :=
  match s with
  | '[' :: rest => ofBrackets? rest
  | _ => if s.any isForbidden then .error .invalidDomainCharacter else .ok (.uninterpreted s)

end Host

end Tollgate
