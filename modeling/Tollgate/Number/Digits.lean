import Tollgate.Number.Double
import Tollgate.Text.Bytes

/-!
# Digits

The numbers that digits stand for, in base ten and in any base up to sixteen, and the doubles that
decimals stand for.
-/

namespace Tollgate

/-- The number decimal digits stand for. -/
def decimalValue (digits : List Char) : Nat :=
  digits.foldl (fun n c => 10 * n + (c.toNat - '0'.toNat)) 0

/-- The number digits of a base up to sixteen stand for. -/
def radixValue (base : Nat) (digits : List Char) : Nat :=
  digits.foldl (fun n c => base * n + (Bytes.hexValue? c).getD 0) 0

/-- The double nearest to digits times a power of ten. Powers far beyond those of doubles are decided
by the place of the first digit alone. -/
def Double.ofDigits (negative : Bool) (digits : List Char) (exponent : Int) : Double :=
  let significant := digits.dropWhile (· == '0')
  let place := significant.length + exponent
  if significant = [] ∨ place < -400 then .finite negative .zero
  else if 400 < place then .infinite negative
  else .ofDecimal negative (decimalValue significant) exponent

end Tollgate
