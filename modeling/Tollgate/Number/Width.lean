/-!
# Machine widths

Counters and clocks of the gateway are machine words that stop at their bounds instead of wrapping.
The words themselves are `Nat` and `Int`; this module names the bounds and the additions that stop
there, so that a statement about a counter is a statement in ordinary arithmetic with an explicit
`min` or `max`.
-/

namespace Tollgate

/-- The largest unsigned 32-bit word. -/
def maxUnsigned32 : Nat := 4294967295

/-- The largest unsigned 64-bit word. -/
def maxUnsigned64 : Nat := 18446744073709551615

/-- The largest signed 64-bit word. -/
def maxSigned64 : Int := 9223372036854775807

/-- The smallest signed 64-bit word. -/
def minSigned64 : Int := -9223372036854775808

namespace Saturating

/-- The signed 64-bit word closest to `x`. -/
def clamp64 (x : Int) : Int :=
  max minSigned64 (min maxSigned64 x)

/-- Addition of signed 64-bit words, stopping at the bounds. -/
def add64 (x y : Int) : Int :=
  clamp64 (x + y)

/-- Subtraction of signed 64-bit words, stopping at the bounds. -/
def sub64 (x y : Int) : Int :=
  clamp64 (x - y)

/-- An unsigned word read as a signed 64-bit word, stopping at the upper bound. -/
def ofUnsigned (n : Nat) : Int :=
  min maxSigned64 (n : Int)

/-- Addition of unsigned words, stopping at `bound`. -/
def addUpTo (bound m n : Nat) : Nat :=
  min bound (m + n)

end Saturating

end Tollgate
