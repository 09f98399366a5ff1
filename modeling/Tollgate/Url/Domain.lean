import Tollgate.Net.Address
import Tollgate.Url.Composition
import Tollgate.Url.DomainTable
import Tollgate.Url.Punycode

/-!
# Domain names

A name is folded character by character into the form that is looked up, and each of its labels has
to be one that a name may have: letters that join and letters written from right to left are subject
to rules of their own.
-/

namespace Tollgate

namespace Domain

/-- ASCII characters that cannot stand in the name of a host. -/
def isForbidden (c : Char) : Bool :=
  c.toNat ≤ 0x20 || c.toNat == 0x7F
    || ['#', '/', ':', '<', '>', '?', '@', '[', '\\', ']', '^', '|', '%'].contains c

/-- The character is outside ASCII. -/
def isForeign (c : Char) : Bool :=
  0x80 ≤ c.toNat

/-- The character is in a table, which all hold characters outside ASCII only. -/
def isIn (table : CharacterSet) (c : Char) : Bool :=
  isForeign c && table.mem c

/-- What a character stands for in a name; nothing where no name may hold it. -/
def foldChar? (c : Char) : Option (List Char) :=
  if ¬ isForeign c then
    if isForbidden c then none else some [c.toLower]
  else if isIn DomainTable.refused c then none
  else if isIn DomainTable.dropped c then some []
  else
    let n := c.toNat
    match DomainTable.constant.find? fun (first, last, _) => first ≤ n && n ≤ last with
    | some (_, _, text) => some text.toList
    | none =>
      match DomainTable.successive.find? fun (first, last, _) => first ≤ n && n ≤ last with
      | some (first, _, target) => some [Char.ofNat (target + (n - first))]
      | none => some [c]

/-- The character is in its folded form. -/
def isFolded (c : Char) : Bool :=
  foldChar? c == some [c] && !isIn DomainTable.replaced c

/-- The characters of a label that is written in digits behind `xn--`. They include one outside
ASCII, each is in its folded form already, and the label is in the composed one. -/
def ofDigits? (label : List Char) : Option (List Char) :=
  if label.any isForeign then none
  else
    (Punycode.decode? label).filter fun cs =>
      cs.any isForeign && cs.all isFolded && Composition.isComposed cs

/-- The characters a folded label stands for. -/
def unfoldLabel? (label : List Char) : Option (List Char) :=
  match label with
  | 'x' :: 'n' :: '-' :: '-' :: rest => ofDigits? rest
  | _ => some label

/-! ### Joining -/

/-- The nearest character that joining does not look through satisfies `p`. -/
def nearest (p : Char → Bool) (cs : List Char) : Bool :=
  ((cs.dropWhile (isIn DomainTable.transparent)).head?.map p).getD false

/-- Joiners stand only where they change how letters are written: `before` is what precedes, last
character first. -/
def joinersFit : List Char → List Char → Bool
  | _, [] => true
  | before, c :: rest =>
    let fits :=
      if c.toNat = 0x200C ∨ c.toNat = 0x200D then
        (before.head?.map (isIn DomainTable.virama)).getD false
          || c.toNat == 0x200C && nearest (isIn DomainTable.joinsBehind) before
            && nearest (isIn DomainTable.joinsBefore) rest
      else true
    fits && joinersFit (c :: before) rest

/-! ### Direction -/

/-- The directions characters have. -/
inductive Direction where
  | leftToRight
  | rightToLeft
  | arabicNumber
  | europeanNumber
  | mark
  | neutral
deriving DecidableEq, Repr

/-- The direction of a character. -/
def directionOf (c : Char) : Direction :=
  if ¬ isForeign c then
    if c.isAlpha then .leftToRight else if c.isDigit then .europeanNumber else .neutral
  else if isIn DomainTable.rightToLeft c then .rightToLeft
  else if isIn DomainTable.arabicNumber c then .arabicNumber
  else if isIn DomainTable.europeanNumber c then .europeanNumber
  else if isIn DomainTable.spacelessMark c then .mark
  else if isIn DomainTable.neutral c then .neutral
  else .leftToRight

/-- A name with such a character has to keep the rules on direction. -/
def isRightToLeft (c : Char) : Bool :=
  directionOf c == .rightToLeft || directionOf c == .arabicNumber

/-- The label is written in one direction, which its first character sets and its last one keeps. -/
def keepsDirection (label : List Char) : Bool :=
  let directions := label.map directionOf
  let last := (directions.reverse.dropWhile (· == .mark)).head?
  match directions.head? with
  | none => true
  | some .leftToRight =>
    directions.all (fun d => d != .rightToLeft && d != .arabicNumber)
      && (last == some .leftToRight || last == some .europeanNumber)
  | some .rightToLeft =>
    directions.all (· != .leftToRight)
      && (last == some .rightToLeft || last == some .arabicNumber || last == some .europeanNumber)
      && !(directions.contains .arabicNumber && directions.contains .europeanNumber)
  | some _ => false

/-- The label does not begin with a combining mark, and its joiners fit. -/
def isWellFormed (label : List Char) : Bool :=
  !((label.head?.map (isIn DomainTable.mark)).getD false) && joinersFit [] label

/-! ### Names -/

/-- The labels of a name, folded. -/
def labels? (name : List Char) : Option (List (List Char)) := do
  let folded ← name.mapM foldChar?
  let labels ← (splitWhere (· == '.') folded.flatten).mapM unfoldLabel?
  if labels.all isWellFormed ∧ (labels.any (·.any isRightToLeft) → labels.all keepsDirection) then
    some labels
  else none

end Domain

end Tollgate
