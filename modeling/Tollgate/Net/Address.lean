import Tollgate.Number.Digits
import Tollgate.Text.Split

/-!
# Internet addresses

Addresses of both versions: reading a text, and the canonical text. In a version 6 address the first
longest run of at least two zero groups is written as a double colon, and an address that stands for
a version 4 address ends in its dotted form.
-/

namespace Tollgate

/-- An address of version 4 by its four octets, or of version 6 by its eight groups. -/
inductive IpAddress where
  | v4 (octets : List Nat)
  | v6 (groups : List Nat)
deriving DecidableEq, Repr

namespace IpAddress

/-- One octet of a dotted address: decimal, without leading zeros. -/
def octet? (digits : List Char) : Option Nat :=
  if digits.all Char.isDigit ∧ digits ≠ [] ∧ digits.length ≤ 3
      ∧ (digits.head? ≠ some '0' ∨ digits.length = 1) ∧ decimalValue digits ≤ 255 then
    some (decimalValue digits)
  else none

/-- Four octets between dots. -/
def octets? (s : List Char) : Option (List Nat) :=
  let parts := splitWhere (· == '.') s
  if parts.length = 4 then parts.mapM octet? else none

/-- One group of a version 6 address: one to four hexadecimal digits. -/
def group? (digits : List Char) : Option Nat :=
  if digits.all (fun c => (Bytes.hexValue? c).isSome) ∧ digits ≠ [] ∧ digits.length ≤ 4 then
    some (radixValue 16 digits)
  else none

/-- The groups of a list of parts, of which the last may be a dotted address. -/
def groupsOfParts? : List (List Char) → Option (List Nat)
  | [] => some []
  | [last] =>
    match group? last with
    | some g => some [g]
    | none => (octets? last).bind fun
      | [a, b, c, d] => some [256 * a + b, 256 * c + d]
      | _ => none
  | part :: parts => do
    let g ← group? part
    let gs ← groupsOfParts? parts
    some (g :: gs)

/-- The text before and after the first double colon. -/
def splitDoubleColon : List Char → Option (List Char × List Char)
  | ':' :: ':' :: rest => some ([], rest)
  | [] => none
  | c :: rest => (splitDoubleColon rest).map fun (before, behind) => (c :: before, behind)

/-- The groups of a text; nothing for the empty one. -/
def groups? (s : List Char) : Option (List Nat) :=
  if s = [] then some [] else groupsOfParts? (splitWhere (· == ':') s)

/-- The eight groups of a version 6 address. -/
def sixGroups? (s : List Char) : Option (List Nat) :=
  match splitDoubleColon s with
  | none => (groups? s).filter fun gs => gs.length = 8
  | some (before, behind) =>
    if before.contains '.' then none
    else
      match groups? before, groups? behind with
      | some gs, some hs =>
        if gs.length + hs.length ≤ 7 then
          some (gs ++ List.replicate (8 - gs.length - hs.length) 0 ++ hs)
        else none
      | _, _ => none

/-- Hexadecimal digits without leading zeros. -/
def groupText (n : Nat) : String :=
  String.ofList (Nat.toDigits 16 n)

/-- Octets between dots. -/
def dotted (octets : List Nat) : String :=
  ".".intercalate (octets.map toString)

/-- The length of the run of zeros a list starts with. -/
def zeroRun (gs : List Nat) : Nat :=
  (gs.takeWhile (· == 0)).length

/-- Start and length of the first longest run of zeros. -/
def longestZeroRun : List Nat → Nat × Nat
  | [] => (0, 0)
  | g :: gs =>
    let here := zeroRun (g :: gs)
    let (start, length) := longestZeroRun gs
    if length ≤ here then (0, here) else (start + 1, length)

/-- Groups between colons. -/
def groupsText (gs : List Nat) : String :=
  ":".intercalate (gs.map groupText)

/-- The canonical text. -/
def text : IpAddress → String
  | v4 octets => dotted octets
  | v6 gs =>
    match gs with
    | [0, 0, 0, 0, 0, 0xffff, hi, lo] =>
      "::ffff:" ++ dotted [hi / 256, hi % 256, lo / 256, lo % 256]
    | _ =>
      let (start, length) := longestZeroRun gs
      if length < 2 then groupsText gs
      else groupsText (gs.take start) ++ "::" ++ groupsText (gs.drop (start + length))

/-- The address in the text of a socket address: `192.0.2.1:80` or `[2001:db8::1]:80`. -/
def ofSocketText? (s : String) : Option IpAddress :=
  match s.toList with
  | '[' :: rest => (sixGroups? (rest.takeWhile fun c => c != ']' && c != '%')).map v6
  | cs => (octets? (cs.takeWhile (· != ':'))).map v4

end IpAddress

end Tollgate
