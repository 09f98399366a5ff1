/-!
# Sets of characters

A set of characters is given by the list of the code points at which it begins and ends in turn, in
ascending order, so that a whole Unicode property takes one short table.
-/

namespace Tollgate

/-- The code points at which a set of characters begins and ends in turn. -/
abbrev CharacterSet := Array Nat

namespace CharacterSet

/-- An odd number of the bounds from `low` to `high` is not beyond the code point, those before
`low` counted as well. The search halves the part of the list that can hold the place. -/
def memFrom (bounds : CharacterSet) (n : Nat) : Nat → Nat → Nat → Bool
  | 0, low, _ => low % 2 == 1
  | fuel + 1, low, high =>
    if high ≤ low then low % 2 == 1
    else
      let middle := (low + high) / 2
      if (bounds[middle]?.getD 0) ≤ n then memFrom bounds n fuel (middle + 1) high
      else memFrom bounds n fuel low middle

/-- The character is in the set. -/
def mem (bounds : CharacterSet) (c : Char) : Bool :=
  memFrom bounds c.toNat 32 0 bounds.size

end CharacterSet

end Tollgate
