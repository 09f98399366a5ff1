import Tollgate.Url.CompositionTable

/-!
# Composed text

A letter and the marks on it can be written in more than one way. In the composed form (NFC) they take
as few characters as there are for them, and the marks that are left stand in the order of their
classes. A text is in that form if it comes back when it is taken apart, put in order and joined again.

The texts that are asked about are folded: they hold no capitals, and no character that is always
replaced.
-/

namespace Tollgate

namespace Composition

/-- Where a mark stands among the marks on a letter; zero for a letter. -/
def classOf (c : Char) : Nat :=
  ((CompositionTable.classes.find? fun (_, marks) => marks.mem c).map Prod.fst).getD 0

/-! ### Two characters and one -/

/-- The two characters that a syllable of Hangul is written for: the syllable without its last letter
and that letter, or its first letter and its vowel. -/
def splitSyllable? (c : Char) : Option (Char × Char) :=
  let n := c.toNat - 0xAC00
  if c.toNat < 0xAC00 ∨ 19 * 21 * 28 ≤ n then none
  else if n % 28 = 0 then
    some (Char.ofNat (0x1100 + n / (21 * 28)), Char.ofNat (0x1161 + n / 28 % 21))
  else some (Char.ofNat (0xAC00 + n / 28 * 28), Char.ofNat (0x11A7 + n % 28))

/-- The syllable of Hangul that two characters make. -/
def joinSyllable? (a b : Char) : Option Char :=
  let first := a.toNat - 0x1100
  let syllable := a.toNat - 0xAC00
  if 0x1100 ≤ a.toNat ∧ first < 19 ∧ 0x1161 ≤ b.toNat ∧ b.toNat < 0x1161 + 21 then
    some (Char.ofNat (0xAC00 + (first * 21 + (b.toNat - 0x1161)) * 28))
  else if 0xAC00 ≤ a.toNat ∧ syllable < 19 * 21 * 28 ∧ syllable % 28 = 0
      ∧ 0x11A7 < b.toNat ∧ b.toNat < 0x11A7 + 28 then
    some (Char.ofNat (a.toNat + (b.toNat - 0x11A7)))
  else none

/-- The letter and the mark that a character is written for. -/
def splitLetter? (c : Char) : Option (Char × Char) :=
  CompositionTable.composites.findSome? fun (mark, letters) =>
    (letters.find? fun (_, both) => both == c.toNat).map fun (letter, _) =>
      (Char.ofNat letter, Char.ofNat mark)

/-- The character that a letter with a mark is written as. -/
def joinLetter? (a b : Char) : Option Char := do
  let (_, letters) ← CompositionTable.composites.find? fun (mark, _) => mark == b.toNat
  let (_, both) ← letters.find? fun (letter, _) => letter == a.toNat
  some (Char.ofNat both)

/-- The characters that one is written for; itself, if it is not written for two. -/
def apart (c : Char) : List Char :=
  match splitSyllable? c <|> splitLetter? c with
  | some (a, b) => [a, b]
  | none => [c]

/-! ### The composed form -/

/-- The text with all its characters taken apart, none of which is written for more than three. -/
def decomposed (cs : List Char) : List Char :=
  (cs.flatMap apart).flatMap apart

/-- Put a character before others that are in order: a mark goes behind those of lower classes. -/
def place (c : Char) : List Char → List Char
  | [] => [c]
  | d :: rest =>
    if 0 < classOf d ∧ classOf d < classOf c then d :: place c rest else c :: d :: rest

/-- The text with the marks on each letter in order. -/
def ordered (cs : List Char) : List Char :=
  cs.foldr place []

/-- Join a letter with what follows it, `marks` being those that have not gone into it. A mark goes
into the letter only past marks of lower classes, and a letter past none. -/
def joined (letter : Char) (marks : List Char) : List Char → List Char
  | [] => letter :: marks
  | c :: rest =>
    let isNext := marks.getLast?.all fun mark => classOf mark < classOf c
    match if isNext then joinSyllable? letter c <|> joinLetter? letter c else none with
    | some both => joined both marks rest
    | none =>
      if classOf c = 0 then letter :: marks ++ joined c [] rest
      else joined letter (marks ++ [c]) rest

/-- The text with all letters joined with their marks. -/
def composed : List Char → List Char
  | [] => []
  | c :: rest => joined c [] rest

/-- The text is in the composed form. -/
def isComposed (cs : List Char) : Bool :=
  composed (ordered (decomposed cs)) == cs

end Composition

end Tollgate
