import Tollgate.Number.Shortest
import Tollgate.Text.Bytes

/-!
# JSON values

The values the gateway reports in response bodies, and their compact text: no blanks, the shortest
escapes, and characters outside ASCII as they are.
-/

namespace Tollgate

/-- A JSON value. Members of an object keep the order they are written in. -/
inductive Json where
  | null
  | bool (b : Bool)
  | integer (n : Int)
  | number (x : Magnitude)
  | string (s : String)
  | array (items : List Json)
  | object (members : List (String × Json))
deriving Repr

namespace Json

/-- How one character stands inside a string. -/
def escape (c : Char) : List Char :=
  match c with
  | '"' => ['\\', '"']
  | '\\' => ['\\', '\\']
  | '\n' => ['\\', 'n']
  | '\r' => ['\\', 'r']
  | '\t' => ['\\', 't']
  | c =>
    if c.toNat = 0x08 then ['\\', 'b']
    else if c.toNat = 0x0C then ['\\', 'f']
    else if c.toNat < 0x20 then ['\\', 'u'] ++ fixedHex 4 c.toNat
    else [c]

/-- A text between quotes. -/
def quoted (s : String) : String :=
  String.ofList ('"' :: s.toList.flatMap escape ++ ['"'])

mutual

/-- The compact text of a value. -/
def text : Json → String
  | null => "null"
  | bool b => if b then "true" else "false"
  | integer n => toString n
  | number x => x.compactText
  | string s => quoted s
  | array items => "[" ++ ",".intercalate (itemTexts items) ++ "]"
  | object members => "\x7b" ++ ",".intercalate (memberTexts members) ++ "\x7d"

/-- The compact texts of the items of a list. -/
def itemTexts : List Json → List String
  | [] => []
  | item :: items => item.text :: itemTexts items

/-- The compact texts of the members of an object. -/
def memberTexts : List (String × Json) → List String
  | [] => []
  | (key, value) :: members => (quoted key ++ ":" ++ value.text) :: memberTexts members

end

end Json

end Tollgate
