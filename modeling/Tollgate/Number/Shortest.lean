import Tollgate.Number.Double

/-!
# Shortest decimals

The decimal with the fewest digits that reads back as a given double, and of those the nearest to
it. For one digit, two digits and so on up to seventeen, the two neighbours of the value on that
decimal grid are tested in exact arithmetic; the first grid with a hit wins.

A double `m * 2 ^ e` is read back from the decimals between the middles of the gaps on its two
sides, the middles themselves included when `m` is even. The gap below a power of two is half the
gap above it.
-/

namespace Tollgate

namespace Magnitude

/-- The value and the ends of its interval, times four, over a common denominator. -/
structure Interval where
  low : Nat
  value : Nat
  high : Nat
  denominator : Nat
  closed : Bool

/-- The decimals that read back as `x`. -/
def interval (x : Magnitude) : Interval :=
  let below := if x.significand = normalBound ∧ minExponent < x.exponent then 1 else 2
  let (num, den) :=
    if 0 ≤ x.exponent then (Nat.pow 2 x.exponent.toNat, 1) else (1, Nat.pow 2 (-x.exponent).toNat)
  { low := (4 * x.significand - below) * num
    value := 4 * x.significand * num
    high := (4 * x.significand + 2) * num
    denominator := 4 * den
    closed := x.significand % 2 = 0 }

namespace Interval

/-- The decimal `n * 10 ^ k` reads back as the value. -/
def holds (i : Interval) (n : Nat) (k : Int) : Bool :=
  let scaled := if 0 ≤ k then n * Nat.pow 10 k.toNat * i.denominator else n * i.denominator
  let unit := if 0 ≤ k then 1 else Nat.pow 10 (-k).toNat
  if i.closed then i.low * unit ≤ scaled && scaled ≤ i.high * unit
  else i.low * unit < scaled && scaled < i.high * unit

/-- The value over `10 ^ k`, rounded down, and whether the next whole number is nearer to it. -/
def neighbour (i : Interval) (k : Int) : Nat × Bool :=
  let (n, d) :=
    if 0 ≤ k then (i.value, i.denominator * Nat.pow 10 k.toNat)
    else (i.value * Nat.pow 10 (-k).toNat, i.denominator)
  (n / d, d < 2 * (n % d) || (d == 2 * (n % d) && n / d % 2 == 1))

/-- The neighbour on the grid of `10 ^ k` that reads back, the nearer one first. -/
def onGrid? (i : Interval) (k : Int) : Option (Nat × Int) :=
  let (below, up) := i.neighbour k
  let (first, second) := if up then (below + 1, below) else (below, below + 1)
  if i.holds first k then some (first, k)
  else if i.holds second k then some (second, k)
  else none

end Interval

/-- Number of decimal digits of the whole part, or minus the number of zeros behind the point. -/
def decimalExponent (x : Magnitude) : Int :=
  let (a, b) := x.toQuotient
  if b ≤ a then ((Nat.toDigits 10 (a / b)).length : Int)
  else 1 - ((Nat.toDigits 10 (b / a)).length : Int)

/-- Digits without trailing zeros. -/
def dropZeros : Nat → Nat → Int → Nat × Int
  | 0, n, k => (n, k)
  | fuel + 1, n, k => if n % 10 = 0 ∧ n ≠ 0 then dropZeros fuel (n / 10) (k + 1) else (n, k)

/-- Digits `n` and exponent `k` of the shortest decimal `n * 10 ^ k` that reads back as `x`. -/
def shortest (x : Magnitude) : Nat × Int :=
  if x.significand = 0 then (0, 0)
  else
    let i := x.interval
    let p := x.decimalExponent
    let hit := (List.range 19).findSome? fun digits : Nat => i.onGrid? (p - (digits : Int))
    match hit with
    | some (n, k) => dropZeros 20 n k
    | none => (0, 0)

/-- The shortest decimal without an exponent, always with a point. -/
def positionalText (x : Magnitude) : String :=
  let (n, k) := x.shortest
  let digits := Nat.toDigits 10 n
  if 0 ≤ k then String.ofList (digits ++ List.replicate k.toNat '0') ++ ".0"
  else
    let places := (-k).toNat
    let padded := List.replicate (places + 1 - digits.length) '0' ++ digits
    String.ofList (padded.take (padded.length - places)) ++ "."
      ++ String.ofList (padded.drop (padded.length - places))

/-- The shortest decimal, positional from 0.00001 up to sixteen digits before the point, and with
an exponent beyond that. -/
def compactText (x : Magnitude) : String :=
  let (n, k) := x.shortest
  let digits := Nat.toDigits 10 n
  let point : Int := digits.length + k
  if n = 0 ∨ (-5 < point ∧ point ≤ 16) then x.positionalText
  else
    let fraction := digits.drop 1
    String.ofList (digits.take 1)
      ++ (if fraction = [] then "" else "." ++ String.ofList fraction)
      ++ "e" ++ toString (point - 1)

end Magnitude

namespace Double

/-- The shortest decimal without an exponent, `inf` or `NaN`. -/
def positionalText : Double → String
  | finite negative x => (if negative then "-" else "") ++ x.positionalText
  | infinite negative => (if negative then "-" else "") ++ "inf"
  | notANumber => "NaN"

end Double

end Tollgate
