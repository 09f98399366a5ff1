/-!
# Splitting

A list cut at its separators.
-/

namespace Tollgate

/-- Split a list at every element that satisfies `p`; there is one part more than separators. -/
def splitWhere (p : Char → Bool) : List Char → List (List Char)
  | [] => [[]]
  | c :: rest =>
    if p c then [] :: splitWhere p rest
    else
      match splitWhere p rest with
      | [] => [[c]]
      | part :: parts => (c :: part) :: parts

end Tollgate
