/-!
# Doubles

A double is a sign and a magnitude `significand * 2 ^ exponent`, an infinity, or not a number. The
arithmetic here is exact arithmetic on naturals followed by one rounding to the nearest double, a
tie going to the even significand. Only the operations the gateway performs on durations and on
configured numbers are given.
-/

namespace Tollgate

/-- Half-way cases of a division go to the even quotient. -/
def divNearestEven (n d : Nat) : Nat :=
  let q := n / d
  let r := n % d
  if 2 * r < d then q
  else if d < 2 * r then q + 1
  else if q % 2 = 0 then q else q + 1

/-- The non-negative number `significand * 2 ^ exponent`. -/
structure Magnitude where
  significand : Nat
  exponent : Int
deriving DecidableEq, Repr

namespace Magnitude

/-- Nothing. -/
def zero : Magnitude := ⟨0, 0⟩

/-- The exponent of the smallest positive double. -/
def minExponent : Int := -1074

/-- The exponent of the largest doubles. -/
def maxExponent : Int := 971

/-- Two to the 53: the significand of a double is below it. -/
def significandBound : Nat := 9007199254740992

/-- Two to the 52: the significand is at least this, unless the exponent is the smallest one. -/
def normalBound : Nat := 4503599627370496

/-- The quotient `n / d` scaled by `2 ^ (-e)` and rounded. -/
def scaledQuotient (n d : Nat) (e : Int) : Nat :=
  if 0 ≤ e then divNearestEven n (d * Nat.pow 2 e.toNat)
  else divNearestEven (n * Nat.pow 2 (-e).toNat) d

/-- The exponent at which the quotient `n / d` has 53 significant bits, or the smallest one. -/
def quotientExponent (n d : Nat) : Int :=
  let guess : Int := (Nat.log2 n : Int) - (Nat.log2 d : Int) - 53
  let truncated (e : Int) : Nat :=
    if 0 ≤ e then n / (d * Nat.pow 2 e.toNat) else n * Nat.pow 2 (-e).toNat / d
  let e := if truncated guess < significandBound then guess else guess + 1
  max minExponent e

/-- The double nearest to `n / d`, or nothing when that is beyond the largest one. -/
def ofQuotient? (n d : Nat) : Option Magnitude :=
  if n = 0 then some zero
  else
    let e := quotientExponent n d
    let m := scaledQuotient n d e
    let (m, e) := if m = significandBound then (normalBound, e + 1) else (m, e)
    if maxExponent < e then none else some ⟨m, e⟩

/-- The double nearest to `n / d` for quotients that are known to be in range. -/
def ofQuotient (n d : Nat) : Magnitude :=
  (ofQuotient? n d).getD zero

/-- The value as a quotient. -/
def toQuotient (x : Magnitude) : Nat × Nat :=
  if 0 ≤ x.exponent then (x.significand * Nat.pow 2 x.exponent.toNat, 1)
  else (x.significand, Nat.pow 2 (-x.exponent).toNat)

/-- The double nearest to the sum. -/
def add (x y : Magnitude) : Magnitude :=
  let (a, b) := x.toQuotient
  let (c, d) := y.toQuotient
  ofQuotient (a * d + c * b) (b * d)

/-- The double nearest to the product with a natural number. -/
def scale (k : Nat) (x : Magnitude) : Magnitude :=
  let (a, b) := x.toQuotient
  ofQuotient (k * a) b

/-- The 63 bits below the sign: eleven of exponent, fifty-two of significand. -/
def bits (x : Magnitude) : Nat :=
  if x.significand = 0 then 0
  else if x.significand < normalBound then x.significand
  else (x.exponent + 1075).toNat * normalBound + (x.significand - normalBound)

/-- The whole part. -/
def floor (x : Magnitude) : Nat :=
  let (a, b) := x.toQuotient
  a / b

/-- Decimal text with exactly two places, rounded from the exact value, a tie going to even. -/
def twoPlaces (x : Magnitude) : String :=
  let (a, b) := x.toQuotient
  let hundredths := divNearestEven (100 * a) b
  let places := hundredths % 100
  toString (hundredths / 100) ++ "." ++ (if places < 10 then "0" else "") ++ toString places

end Magnitude

/-- A double. -/
inductive Double where
  | finite (negative : Bool) (magnitude : Magnitude)
  | infinite (negative : Bool)
  | notANumber
deriving DecidableEq, Repr

namespace Double

/-- A non-negative double. -/
def ofMagnitude (x : Magnitude) : Double := .finite false x

/-- The double nearest to a natural number. -/
def ofNat (n : Nat) : Double := ofMagnitude (Magnitude.ofQuotient n 1)

/-- Two to the 63: the bit of the sign. -/
def signBit : Nat := 0x8000000000000000

/-- The 64 bits of the interchange format. -/
def bits : Double → Nat
  | finite negative x => (if negative then signBit else 0) + x.bits
  | infinite negative => (if negative then signBit else 0) + 0x7ff0000000000000
  | notANumber => 0x7ff8000000000000

/-- The double nearest to `± n * 10 ^ e`. -/
def ofDecimal (negative : Bool) (n : Nat) (e : Int) : Double :=
  let nearest :=
    if 0 ≤ e then Magnitude.ofQuotient? (n * Nat.pow 10 e.toNat) 1
    else Magnitude.ofQuotient? n (Nat.pow 10 (-e).toNat)
  match nearest with
  | some x => finite negative x
  | none => infinite negative

/-- The whole number reached by dropping the fraction, stopping at the signed 64-bit bounds. -/
def truncate64 : Double → Int
  | finite false x => min maxSigned (x.floor : Int)
  | finite true x => max minSigned (-(x.floor : Int))
  | infinite false => maxSigned
  | infinite true => minSigned
  | notANumber => 0
where
  maxSigned : Int := 9223372036854775807
  minSigned : Int := -9223372036854775808

end Double

end Tollgate
