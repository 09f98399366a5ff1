import Tollgate.Number.Width
import Tollgate.Toml.Text
import Tollgate.Toml.Value

/-!
# Numbers, dates and times of TOML

Integers have 64 bits with a sign, in decimal or behind a prefix for another base. Floats are doubles:
one beyond the largest double is refused, one below the smallest is minus infinity.
-/

namespace Tollgate

namespace Toml

/-- The digits at the front of a text, between any two of which one underscore may stand. -/
def moreDigits? (p : Char → Bool) : Reader (List Char)
  | [] => some ([], [])
  | c :: rest =>
    if p c then (moreDigits? p rest).map fun (ds, rest) => (c :: ds, rest)
    else if c = '_' then
      match rest with
      | [] => none
      | d :: rest =>
        if p d then (moreDigits? p rest).map fun (ds, rest) => (d :: ds, rest) else none
    else some ([], c :: rest)

/-- At least one digit, without the underscores. -/
def digits? (p : Char → Bool) : Reader (List Char)
  | [] => none
  | c :: rest => if p c then (moreDigits? p rest).map fun (ds, rest) => (c :: ds, rest) else none

/-- Whether a minus sign stands in front, and the text behind a sign of either kind. -/
def sign : List Char → Bool × List Char
  | '-' :: rest => (true, rest)
  | '+' :: rest => (false, rest)
  | s => (false, s)

/-- The digits of a decimal number; none follows a leading zero. -/
def decimalDigits? : Reader (List Char)
  | '0' :: rest => some (['0'], rest)
  | s => digits? Char.isDigit s

/-- The digits behind a point. -/
def fraction? : Reader (List Char)
  | '.' :: rest => digits? Char.isDigit rest
  | s => some ([], s)

/-- The exponent behind its letter. -/
def exponent? : Reader Int
  | [] => some (0, [])
  | c :: rest =>
    if c = 'e' ∨ c = 'E' then
      let (negative, rest) := sign rest
      (digits? Char.isDigit rest).map fun (ds, rest) =>
        (if negative then -(decimalValue ds : Int) else decimalValue ds, rest)
    else some (0, c :: rest)

/-- Integers that fit into 64 bits with a sign. -/
def integer? (n : Int) : Option Value :=
  if minSigned64 ≤ n ∧ n ≤ maxSigned64 then some (.integer n) else none

/-- A decimal number: a float where a point or an exponent follows the whole part. -/
def decimal? (s : List Char) : Option (Value × List Char) := do
  let (negative, s) := sign s
  let (whole, rest) ← decimalDigits? s
  let (fraction, behind) ← fraction? rest
  let (exponent, last) ← exponent? behind
  if last.length = rest.length then do
    let n : Int := decimalValue whole
    let value ← integer? (if negative then -n else n)
    some (value, rest)
  else
    match Double.ofDigits negative (whole ++ fraction) (exponent - fraction.length) with
    | .infinite false => none
    | x => some (.float x, last)

/-- An integer in another base, read behind its prefix. -/
def based? (base : Nat) (s : List Char) : Option (Value × List Char) := do
  let (digits, rest) ← digits? (fun c => (Bytes.hexValue? c).any (· < base)) s
  let value ← integer? (radixValue base digits)
  some (value, rest)

/-- Infinities and what is not a number, with or without a sign. -/
def special? (s : List Char) : Option (Value × List Char) :=
  match sign s with
  | (negative, 'i' :: 'n' :: 'f' :: rest) => some (.float (.infinite negative), rest)
  | (_, 'n' :: 'a' :: 'n' :: rest) => some (.float .notANumber, rest)
  | _ => none

/-! ### Dates and times -/

/-- A number of exactly `count` digits between two bounds. -/
def fixed? (count low high : Nat) (s : List Char) : Option (Nat × List Char) :=
  let digits := s.take count
  let n := decimalValue digits
  if digits.length = count ∧ digits.all Char.isDigit ∧ low ≤ n ∧ n ≤ high then
    some (n, s.drop count)
  else none

/-- The text behind a given character. -/
def behind? (c : Char) : List Char → Option (List Char)
  | d :: rest => if d = c then some rest else none
  | [] => none

/-- Days of a month. -/
def daysOf (year month : Nat) : Nat :=
  if month = 2 then
    if year % 4 = 0 ∧ (year % 100 ≠ 0 ∨ year % 400 = 0) then 29 else 28
  else if month = 4 ∨ month = 6 ∨ month = 9 ∨ month = 11 then 30
  else 31

/-- The text behind a date. -/
def date? (s : List Char) : Option (List Char) := do
  let (year, s) ← fixed? 4 0 9999 s
  let (month, s) ← fixed? 2 1 12 (← behind? '-' s)
  let (_, s) ← fixed? 2 1 (daysOf year month) (← behind? '-' s)
  some s

/-- The text behind hours and minutes. -/
def clock? (s : List Char) : Option (List Char) := do
  let (_, s) ← fixed? 2 0 23 s
  let (_, s) ← fixed? 2 0 59 (← behind? ':' s)
  some s

/-- The text behind a time of day, which may name a leap second. -/
def time? (s : List Char) : Option (List Char) := do
  let s ← clock? s
  let (_, s) ← fixed? 2 0 60 (← behind? ':' s)
  match s with
  | '.' :: d :: rest => some (if d.isDigit then rest.dropWhile Char.isDigit else s)
  | _ => some s

/-- The text behind the offset that may follow a time. -/
def skipOffset (s : List Char) : List Char :=
  match s with
  | 'Z' :: rest => rest
  | 'z' :: rest => rest
  | '+' :: rest => (clock? rest).getD s
  | '-' :: rest => (clock? rest).getD s
  | _ => s

/-- A date, a time, or both. -/
def moment? (s : List Char) : Option (Value × List Char) :=
  match date? s with
  | none => (time? s).map (.moment, ·)
  | some rest =>
    match rest with
    | c :: behind =>
      if c = 'T' ∨ c = 't' ∨ c = ' ' then
        some (.moment, ((time? behind).map skipOffset).getD rest)
      else some (.moment, rest)
    | [] => some (.moment, [])

/-- A number, a date or a time. -/
def number? (s : List Char) : Option (Value × List Char) :=
  match moment? s with
  | some result => some result
  | none =>
    match s with
    | '0' :: 'x' :: rest => based? 16 rest
    | '0' :: 'o' :: rest => based? 8 rest
    | '0' :: 'b' :: rest => based? 2 rest
    | _ =>
      match special? s with
      | some result => some result
      | none => decimal? s

end Toml

end Tollgate
