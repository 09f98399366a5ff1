/-!
# Blank characters

The characters with the Unicode property `White_Space`, and trimming by them. Core's
`Char.isWhitespace` knows four of them only, so names and header values are trimmed by this table.
-/

namespace Tollgate

/-- The character has the Unicode property `White_Space`. -/
def isBlank (c : Char) : Bool :=
  let n := c.toNat
  (0x09 ≤ n && n ≤ 0x0D) || n == 0x20 || n == 0x85 || n == 0xA0 || n == 0x1680
    || (0x2000 ≤ n && n ≤ 0x200A) || n == 0x2028 || n == 0x2029 || n == 0x202F || n == 0x205F
    || n == 0x3000

/-- The list without the leading and the trailing characters that satisfy `p`. -/
def trimList (p : Char → Bool) (cs : List Char) : List Char :=
  ((cs.dropWhile p).reverse.dropWhile p).reverse

/-- The list without the trailing characters that satisfy `p`. -/
def trimListEnd (p : Char → Bool) (cs : List Char) : List Char :=
  (cs.reverse.dropWhile p).reverse

/-- The text without blank characters at either end. -/
def trimBlank (s : String) : String :=
  String.ofList (trimList isBlank s.toList)

/-- The text without trailing slashes. -/
def trimSlashes (s : String) : String :=
  String.ofList (trimListEnd (· == '/') s.toList)

end Tollgate
