/-!
# Bytes

Header values and message bodies are byte strings that may or may not be text. A byte string is a
list of bytes, so that statements about copying and replacing are statements about lists.
-/

namespace Tollgate

/-- A byte string. -/
abbrev Bytes := List UInt8

namespace Bytes

/-- The UTF-8 bytes of a text. -/
def ofText (s : String) : Bytes :=
  s.toUTF8.toList

/-- The text whose UTF-8 bytes these are, if there is one. -/
def text? (b : Bytes) : Option String :=
  String.fromUTF8? (ByteArray.mk b.toArray)

/-- The text of bytes below 128, each byte being one character. -/
def asciiText (b : Bytes) : String :=
  String.ofList (b.map fun x => Char.ofNat x.toNat)

/-- Lower-case hexadecimal digit. -/
def hexDigit (n : Nat) : Char :=
  Nat.digitChar n

/-- The value of a hexadecimal digit of either case. -/
def hexValue? (c : Char) : Option Nat :=
  if '0' ≤ c ∧ c ≤ '9' then some (c.toNat - '0'.toNat)
  else if 'a' ≤ c ∧ c ≤ 'f' then some (c.toNat - 'a'.toNat + 10)
  else if 'A' ≤ c ∧ c ≤ 'F' then some (c.toNat - 'A'.toNat + 10)
  else none

/-- Two lower-case hexadecimal digits a byte. -/
def hex (b : Bytes) : String :=
  String.ofList (b.flatMap fun x => [hexDigit (x.toNat / 16), hexDigit (x.toNat % 16)])

end Bytes

/-- The lowest `width` hexadecimal digits of `n`, lower case, with leading zeros. -/
def fixedHex : Nat → Nat → List Char
  | 0, _ => []
  | width + 1, n => fixedHex width (n / 16) ++ [Nat.digitChar (n % 16)]

/-- Number of bytes of the UTF-8 form of a list of characters. -/
def utf8Size (cs : List Char) : Nat :=
  cs.foldr (fun c n => c.utf8Size + n) 0

end Tollgate
