import Tollgate.Text.Blank

/-!
# Path prefixes

A prefix matches whole segments: `/users` matches `/users` and `/users/1`, never `/usersx`.
Trailing slashes of a prefix carry no meaning, so the prefix is kept without them and the root is
the empty prefix, which matches every path that is empty or starts with a slash.
-/

namespace Tollgate

/-- A prefix of paths, without trailing slashes. -/
structure PathPrefix where
  bare : String
deriving DecidableEq, Repr

namespace PathPrefix

/-- The prefix a text stands for. -/
def ofText (s : String) : PathPrefix :=
  ⟨trimSlashes s⟩

/-- The prefix as a path; the root is `/`. -/
def text (p : PathPrefix) : String :=
  if p.bare = "" then "/" else p.bare

/-- Length in bytes. Longer prefixes are more specific. -/
def specificity (p : PathPrefix) : Nat :=
  p.bare.utf8ByteSize

/-- What is left of `path` after `p`, if `path` starts with it. -/
def dropList? : List Char → List Char → Option (List Char)
  | [], path => some path
  | _ :: _, [] => none
  | c :: p, d :: path => if c = d then dropList? p path else none

/-- The part of the path after the prefix, which is empty or starts with a slash. -/
def remainder? (p : PathPrefix) (path : String) : Option String :=
  match dropList? p.bare.toList path.toList with
  | some [] => some ""
  | some ('/' :: rest) => some (String.ofList ('/' :: rest))
  | _ => none

/-- The prefix matches the path. -/
def isMatch (p : PathPrefix) (path : String) : Bool :=
  (p.remainder? path).isSome

/-- The path with the prefix replaced, starting with a slash. -/
def replace? (p : PathPrefix) (path replacement : String) : Option String :=
  (p.remainder? path).map fun rest =>
    let joined := trimSlashes replacement ++ rest
    match joined.toList with
    | '/' :: _ => joined
    | _ => "/" ++ joined

end PathPrefix

end Tollgate
