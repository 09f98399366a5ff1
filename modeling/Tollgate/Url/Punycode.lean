import Tollgate.Number.Width

/-!
# Punycode

Reading a label of a domain name whose characters outside ASCII are written as digits: the ASCII
characters come first, and each run of digits behind the last hyphen says how far the next character
is from the one before it, in code point and place together. Numbers stay below 2 to the 32.
-/

namespace Tollgate

namespace Punycode

/-- The value of a digit: letters of either case count from zero, decimal digits from 26. -/
def digitValue? (c : Char) : Option Nat :=
  if 'a' ≤ c ∧ c ≤ 'z' then some (c.toNat - 'a'.toNat)
  else if 'A' ≤ c ∧ c ≤ 'Z' then some (c.toNat - 'A'.toNat)
  else if '0' ≤ c ∧ c ≤ '9' then some (c.toNat - '0'.toNat + 26)
  else none

/-- The least digit that is followed by another one, at the place `k`. -/
def threshold (k bias : Nat) : Nat :=
  if k ≤ bias then 1 else if bias + 26 ≤ k then 26 else k - bias

/-- What a distance adds to the bias, with `k` carried along. -/
def biasOf (delta k : Nat) : Nat :=
  if 455 < delta then biasOf (delta / 35) (k + 36) else k + 36 * delta / (delta + 38)
termination_by delta
decreasing_by omega

/-- The bias behind a distance, when there are `count` characters. -/
def adapt (delta count : Nat) (isFirst : Bool) : Nat :=
  let scaled := if isFirst then delta / 700 else delta / 2
  biasOf (scaled + scaled / count) 0

/-- The number, if it is below 2 to the 32. -/
def word? (n : Nat) : Option Nat :=
  if n ≤ maxUnsigned32 then some n else none

/-- A label that is being read. -/
structure Reading where
  /-- The characters so far. -/
  out : List Char
  /-- The last code point. -/
  codePoint : Nat := 128
  /-- The place behind the last character, to which distances are added. -/
  place : Nat := 0
  bias : Nat := 72
  /-- The distance so far, the weight of its next digit and where that digit stands; nothing
  between two distances. -/
  pending : Option (Nat × Nat × Nat) := none

namespace Reading

/-- Take a whole distance: insert the character it leads to. -/
def insert? (r : Reading) (delta : Nat) : Option Reading := do
  let total ← word? (r.place + delta)
  let count := r.out.length + 1
  let codePoint := r.codePoint + total / count
  if codePoint.isValidChar then
    some
      { out := r.out.insertIdx (total % count) (Char.ofNat codePoint)
        codePoint
        place := total % count + 1
        bias := adapt delta count (r.place = 0)
        pending := none }
  else none

/-- Read one digit. -/
def step? (r : Reading) (c : Char) : Option Reading := do
  let digit ← digitValue? c
  let (delta, weight, k) := r.pending.getD (0, 1, 36)
  let delta ← word? (delta + digit * weight)
  let t := threshold k r.bias
  if digit < t then r.insert? delta
  else do
    let weight ← word? (weight * (36 - t))
    some { r with pending := some (delta, weight, k + 36) }

end Reading

/-- The characters a label stands for, read without what marks it as written in digits. -/
def decode? (label : List Char) : Option (List Char) := do
  let digits := (label.reverse.takeWhile (· != '-')).reverse
  let plain := label.take (label.length - digits.length - 1)
  if plain = [] ∧ digits.length < label.length then none
  else do
    let r ← digits.foldlM Reading.step? { out := plain }
    if r.pending.isNone then some r.out else none

end Punycode

end Tollgate
