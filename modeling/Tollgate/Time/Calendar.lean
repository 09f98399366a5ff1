import Tollgate.Time

/-!
# Calendar text

An instant in the proleptic Gregorian calendar, written as RFC 3339 text in UTC. Days are counted
in eras of 400 years that begin on the first of March, so that a leap day is the last day of its
year.
-/

namespace Tollgate

/-- A day of the proleptic Gregorian calendar. -/
structure Date where
  year : Int
  month : Nat
  day : Nat
deriving DecidableEq, Repr

namespace Date

/-- The day that is `days` after the first of January 1970. -/
def ofDays (days : Int) : Date :=
  let shifted := days + 719468
  let era := shifted / 146097
  let dayOfEra := (shifted % 146097).toNat
  let yearOfEra :=
    (dayOfEra - dayOfEra / 1460 + dayOfEra / 36524 - dayOfEra / 146096) / 365
  let dayOfYear := dayOfEra - (365 * yearOfEra + yearOfEra / 4 - yearOfEra / 100)
  let fromMarch := (5 * dayOfYear + 2) / 153
  let month := if fromMarch < 10 then fromMarch + 3 else fromMarch - 9
  { year := yearOfEra + era * 400 + (if month ≤ 2 then 1 else 0)
    month := month
    day := dayOfYear - (153 * fromMarch + 2) / 5 + 1 }

end Date

/-- Decimal digits of `n`, with leading zeros up to `width`. -/
def paddedDecimal (width n : Nat) : String :=
  let digits := toString n
  String.ofList (List.replicate (width - digits.length) '0') ++ digits

namespace Timestamp

/-- Four digits, and a sign outside the years 0 to 9999. -/
def yearText (year : Int) : String :=
  if year < 0 then "-" ++ paddedDecimal 4 (-year).toNat
  else if 9999 < year then "+" ++ paddedDecimal 4 year.toNat
  else paddedDecimal 4 year.toNat

/-- The fewest of 0, 3, 6 or 9 decimals that are exact. -/
def fractionText (nanos : Nat) : String :=
  if nanos = 0 then ""
  else if nanos % 1000000 = 0 then "." ++ paddedDecimal 3 (nanos / 1000000)
  else if nanos % 1000 = 0 then "." ++ paddedDecimal 6 (nanos / 1000)
  else "." ++ paddedDecimal 9 nanos

/-- RFC 3339 text in UTC, such as `2023-11-14T22:13:20Z`. -/
def text (t : Timestamp) : String :=
  let date := Date.ofDays (t.seconds / 86400)
  let ofDay := (t.seconds % 86400).toNat
  yearText date.year ++ "-" ++ paddedDecimal 2 date.month ++ "-" ++ paddedDecimal 2 date.day
    ++ "T" ++ paddedDecimal 2 (ofDay / 3600) ++ ":" ++ paddedDecimal 2 (ofDay / 60 % 60)
    ++ ":" ++ paddedDecimal 2 (ofDay % 60) ++ fractionText t.subsecond ++ "Z"

end Timestamp

end Tollgate
