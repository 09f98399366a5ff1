import Tollgate.Toml.Node
import Tollgate.Toml.Number

/-!
# TOML documents

A document is read in two steps: its lines, each of which is a header or a key with its value, and
then the tables that those lines make up. The table of a document is all that is kept of it.
-/

namespace Tollgate

namespace Toml

/-- Arrays and tables on one line may be nested less deep than this, and keys have fewer parts. -/
def depthLimit : Nat := 80

/-! ### Keys -/

/-- A character of a key without quotes. -/
def isKeyCharacter (c : Char) : Bool :=
  c.isAlphanum || c == '_' || c == '-'

/-- One part of a key. -/
def keyPart? : Reader String
  | [] => none
  | c :: rest =>
    if c = '"' ∨ c = '\'' then lineString? (c :: rest)
    else
      let name := (c :: rest).takeWhile isKeyCharacter
      if name = [] then none else some (String.ofList name, (c :: rest).drop name.length)

/-- One part of a key with the blanks around it, and the point behind it. -/
def keyStep (s : List Char) : Option (String × Bool × List Char) := do
  let (part, rest) ← keyPart? (skipSpace s)
  match skipSpace rest with
  | '.' :: rest => some (part, true, rest)
  | rest => some (part, false, rest)

/-- A key, in its parts. -/
def key? (s : List Char) : Option (List String × List Char) := do
  let (parts, rest) ← collectAll keyStep s
  if parts.length < depthLimit then some (parts, rest) else none

/-! ### Values -/

/-- The values that hold no others. -/
def scalar? (s : List Char) : Option (Value × List Char) :=
  match s with
  | '"' :: _ => (string? s).map fun (text, rest) => (.string text, rest)
  | '\'' :: _ => (string? s).map fun (text, rest) => (.string text, rest)
  | 't' :: 'r' :: 'u' :: 'e' :: rest => some (.boolean true, rest)
  | 'f' :: 'a' :: 'l' :: 's' :: 'e' :: rest => some (.boolean false, rest)
  | _ => number? s

/-- A key, the sign behind it, and a value. -/
def pair? (value? : Reader Value) (s : List Char) :
    Option ((List String × Value) × List Char) := do
  let (key, rest) ← key? s
  match rest with
  | '=' :: rest =>
    let (v, rest) ← value? (skipSpace rest)
    some ((key, v), rest)
  | _ => none

/-- One item of a list, and the comma or the bracket behind it. -/
def itemStep (value? : Reader Value) (s : List Char) : Option (Value × Bool × List Char) := do
  let (v, rest) ← value? s
  match skipBlank rest with
  | ',' :: rest =>
    match skipBlank rest with
    | ']' :: rest => some (v, false, rest)
    | rest => some (v, true, rest)
  | ']' :: rest => some (v, false, rest)
  | _ => none

/-- A list, read behind its opening bracket. A comma may follow the last item. -/
def list? (value? : Reader Value) (s : List Char) : Option (Value × List Char) :=
  match skipBlank s with
  | ']' :: rest => some (.list [], rest)
  | s => (collectAll (itemStep value?) s).map fun (items, rest) => (.list items, rest)

/-- One entry of a table on one line, and the comma or the brace behind it. -/
def entryStep (value? : Reader Value) (s : List Char) :
    Option ((List String × Value) × Bool × List Char) := do
  let (pair, rest) ← pair? value? s
  match skipSpace rest with
  | ',' :: rest => some (pair, true, rest)
  | '\x7d' :: rest => some (pair, false, rest)
  | _ => none

/-- A table on one line, read behind its opening brace. -/
def lineTable? (value? : Reader Value) (s : List Char) : Option (Value × List Char) :=
  match skipSpace s with
  | '\x7d' :: rest => some (.table [], rest)
  | s => do
    let (pairs, rest) ← collectAll (entryStep value?) s
    let nodes ← Nodes.insertAll? pairs []
    some (.table (Node.finishEntries nodes), rest)

/-- A value, in which lists and tables are nested at most `depth` times. -/
def value? : Nat → Reader Value
  | 0, s => scalar? s
  | depth + 1, s =>
    match s with
    | '[' :: rest => list? (value? depth) rest
    | '\x7b' :: rest => lineTable? (value? depth) rest
    | _ => scalar? s

/-! ### Lines -/

/-- A line of a document. -/
inductive Line where
  | blank
  | header (key : List String)
  | itemHeader (key : List String)
  | pair (key : List String) (v : Value)

/-- The key of a header, read behind its opening brackets. -/
def headerKey? (closing : Nat) (s : List Char) : Option (List String × List Char) := do
  let (key, rest) ← key? s
  if rest.take closing = List.replicate closing ']' then do
    let rest ← lineEnd? (rest.drop closing)
    some (key, rest)
  else none

/-- A line, read from its first character that is no blank. -/
def line? (s : List Char) : Option (Line × List Char) :=
  match s with
  | '[' :: '[' :: rest => (headerKey? 2 rest).map fun (key, rest) => (.itemHeader key, rest)
  | '[' :: rest => (headerKey? 1 rest).map fun (key, rest) => (.header key, rest)
  | _ =>
    match lineEnd? s with
    | some rest => some (.blank, rest)
    | none => do
      let ((key, v), rest) ← pair? (value? (depthLimit - 1)) s
      let rest ← lineEnd? rest
      some (.pair key v, rest)

/-- A line, and whether anything is left behind it. -/
def lineStep (s : List Char) : Option (Line × Bool × List Char) :=
  (line? (skipSpace s)).map fun (line, rest) => (line, rest ≠ [], rest)

/-! ### Documents -/

/-- The tables of a document in the making: the entries so far, how the table that is open was
opened, and its entries, last one first. -/
structure Draft where
  nodes : Nodes := []
  /-- The header of the open table and whether it is an item of a list; nothing before the first
  header. -/
  opened : Option (List String × Bool) := none
  pairs : List (List String × Value) := []

namespace Draft

/-- Close the open table. -/
def close? (d : Draft) : Option Nodes :=
  match d.opened with
  | none => d.nodes.insertAll? d.pairs.reverse
  | some (key, true) => d.nodes.descend? (Nodes.addItem? d.pairs.reverse) key
  | some (key, false) => d.nodes.descend? (Nodes.addTable? d.pairs.reverse) key

/-- Take one more line. -/
def add? (d : Draft) : Line → Option Draft
  | .blank => some d
  | .pair key v => some { d with pairs := (key, v) :: d.pairs }
  | .header key => d.close?.map fun nodes => { nodes, opened := some (key, false) }
  | .itemHeader key => d.close?.map fun nodes => { nodes, opened := some (key, true) }

end Draft

/-- The table of a document. A byte order mark may stand in front. -/
def parse? (text : String) : Option Table := do
  let s := match text.toList with
    | '\ufeff' :: rest => rest
    | s => s
  let (lines, _) ← collectAll lineStep s
  let draft ← lines.foldlM Draft.add? {}
  let nodes ← draft.close?
  some (Node.finishEntries nodes)

end Toml

end Tollgate
