import Tollgate.Toml.Value

/-!
# Tables in the making

While a document is read, each table remembers how it came to be, because that decides what may still
be added to it: a table with a header of its own takes no second header, one that only deeper headers
imply may still get its own, and one made by a dotted key grows by dotted keys alone. Lists of tables
take a new table per header, and whatever is addressed through them goes into the last one.
-/

namespace Tollgate

namespace Toml

/-- How a table came to be. -/
inductive Origin where
  /-- By its own header. -/
  | header
  /-- By the header of a table inside it. -/
  | implied
  /-- By a dotted key. -/
  | dotted
deriving DecidableEq, Repr

/-- An entry of a table in the making. -/
inductive Node where
  | value (v : Value)
  | table (origin : Origin) (entries : List (String × Node))
  | tables (items : List (List (String × Node)))

/-- The entries of a table in the making. -/
abbrev Nodes := List (String × Node)

namespace Node

mutual

/-- The finished value of an entry. -/
def finish : Node → Value
  | value v => v
  | table _ entries => .table (finishEntries entries)
  | tables items => .list (finishItems items)

/-- The finished entries of a table. -/
def finishEntries : List (String × Node) → List (String × Value)
  | [] => []
  | (key, node) :: rest => (key, finish node) :: finishEntries rest

/-- The finished tables of a list. -/
def finishItems : List (List (String × Node)) → List Value
  | [] => []
  | entries :: rest => .table (finishEntries entries) :: finishItems rest

end

end Node

namespace Nodes

/-- Enter a value under a key, of which all but the last part name tables. Only tables made by dotted
keys take it, and the tables on the way must not have a header of their own. -/
def insert? (v : Value) : List String → Nodes → Option Nodes
  | [], _ => none
  | [key], nodes =>
    match Keyed.get? key nodes with
    | none => some (nodes ++ [(key, .value v)])
    | some _ => none
  | key :: next :: keys, nodes =>
    match Keyed.get? key nodes with
    | none => (insert? v (next :: keys) []).map fun inner =>
        nodes ++ [(key, .table .dotted inner)]
    | some (.value _) => none
    | some (.table origin inner) =>
      if origin = .header ∨ (keys = [] ∧ origin ≠ .dotted) then none
      else (insert? v (next :: keys) inner).map fun inner =>
        Keyed.put key (.table origin inner) nodes
    | some (.tables items) =>
      if keys = [] then none
      else (insert? v (next :: keys) (items.getLastD [])).map fun inner =>
        Keyed.put key (.tables (items.dropLast ++ [inner])) nodes

/-- The entries with each of a list of values entered under its key. -/
def insertAll? (pairs : List (List String × Value)) (nodes : Nodes) : Option Nodes :=
  pairs.foldlM (fun nodes pair => nodes.insert? pair.2 pair.1) nodes

/-- Change the table in which the last part of a header stands. Tables on the way that are missing
are implied by the header. -/
def descend? (change : String → Nodes → Option Nodes) : List String → Nodes → Option Nodes
  | [], _ => none
  | [key], nodes => change key nodes
  | key :: next :: keys, nodes =>
    match Keyed.get? key nodes with
    | none => (descend? change (next :: keys) []).map fun inner =>
        nodes ++ [(key, .table .implied inner)]
    | some (.value _) => none
    | some (.table origin inner) => (descend? change (next :: keys) inner).map fun inner =>
        Keyed.put key (.table origin inner) nodes
    | some (.tables items) =>
      (descend? change (next :: keys) (items.getLastD [])).map fun inner =>
        Keyed.put key (.tables (items.dropLast ++ [inner])) nodes

/-- The entries with a table under its own header. One that was implied moves to the end. -/
def addTable? (pairs : List (List String × Value)) (key : String) (nodes : Nodes) :
    Option Nodes := do
  let before ← match Keyed.get? key nodes with
    | none => some []
    | some (.table .implied inner) => some inner
    | some _ => none
  let inner ← insertAll? pairs before
  some (Keyed.erase key nodes ++ [(key, .table .header inner)])

/-- The entries with one more table in a list of tables. -/
def addItem? (pairs : List (List String × Value)) (key : String) (nodes : Nodes) :
    Option Nodes := do
  let item ← insertAll? pairs []
  match Keyed.get? key nodes with
  | none => some (nodes ++ [(key, .tables [item])])
  | some (.tables items) => some (Keyed.put key (.tables (items ++ [item])) nodes)
  | some _ => none

end Nodes

end Toml

end Tollgate
