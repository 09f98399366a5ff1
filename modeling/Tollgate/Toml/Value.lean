import Tollgate.Keyed
import Tollgate.Number.Double

/-!
# TOML values

What a configuration text says, before anything is known about which settings there are. Tables keep
the order of the text, because the first fault in that order is the one reported.
-/

namespace Tollgate

namespace Toml

/-- A value of a document. No setting is a date or a time, so these are told apart from the rest but
not read. -/
inductive Value where
  | string (s : String)
  | integer (n : Int)
  | float (x : Double)
  | boolean (b : Bool)
  | moment
  | list (items : List Value)
  | table (entries : List (String × Value))
deriving Repr, Inhabited

/-- The entries of a table. -/
abbrev Table := List (String × Value)

end Toml

end Tollgate
