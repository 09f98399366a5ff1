import Tollgate.Text.Bytes

/-!
# Request identifiers

The identifiers requests are made with: an absolute one with scheme and authority, a path with or
without a query, an authority alone, or a single asterisk. Nothing is decoded and nothing is encoded
anew; what follows a number sign is dropped.
-/

namespace Tollgate

/-- A request identifier. -/
structure Uri where
  scheme : Option String
  authority : Option String
  path : String
  query : Option String
deriving DecidableEq, Repr

namespace Uri

/-- The longest identifier in bytes. -/
def maxLength : Nat := 65534

/-- The longest scheme that is not one of the two well-known ones. -/
def maxSchemeLength : Nat := 64

/-- As many colons as an address in brackets with a port has, which no part of an authority exceeds. -/
def maxColons : Nat := 8

/-- Characters outside ASCII. -/
def isBeyondAscii (c : Char) : Bool :=
  0x80 ≤ c.toNat

/-- Characters of a path. -/
def isPathChar (c : Char) : Bool :=
  let n := c.toNat
  n == 0x21 || n == 0x22 || (0x24 ≤ n && n ≤ 0x3B) || n == 0x3D || (0x40 ≤ n && n ≤ 0x5F)
    || (0x61 ≤ n && n ≤ 0x7E) || isBeyondAscii c

/-- Characters of a query. -/
def isQueryChar (c : Char) : Bool :=
  let n := c.toNat
  n == 0x21 || (0x24 ≤ n && n ≤ 0x3B) || n == 0x3D || (0x3F ≤ n && n ≤ 0x7E) || isBeyondAscii c

/-- Characters of a scheme. -/
def isSchemeChar (c : Char) : Bool :=
  c.isAlphanum || c == '+' || c == '-' || c == '.' || c == '~'

/-- Characters an authority may hold anywhere, brackets, colons and the at sign apart. -/
def isAuthorityChar (c : Char) : Bool :=
  c.isAlphanum || "!$&'()*+,-.;=_~".toList.contains c

/-- The character ends an authority. -/
def endsAuthority (c : Char) : Bool :=
  c == '/' || c == '?' || c == '#'

/-- What has been seen of an authority. Colons and percent signs are forgotten at an at sign and at
a closing bracket, because they were part of the user or of the address in brackets. -/
structure AuthorityScan where
  colons : Nat := 0
  opened : Bool := false
  closed : Bool := false
  percent : Bool := false
deriving DecidableEq, Repr

namespace AuthorityScan

/-- Read one character. -/
def step (s : AuthorityScan) (c : Char) : Option AuthorityScan :=
  if c = ':' then if maxColons ≤ s.colons then none else some { s with colons := s.colons + 1 }
  else if c = '[' then if s.percent || s.opened then none else some { s with opened := true }
  else if c = ']' then
    if !s.opened || s.closed then none
    else some { s with closed := true, colons := 0, percent := false }
  else if c = '@' then some { s with colons := 0, percent := false }
  else if c = '%' then some { s with percent := true }
  else if isAuthorityChar c then some s
  else none

/-- The authority may end here. -/
def accepts (s : AuthorityScan) : Bool :=
  s.opened == s.closed && s.colons ≤ 1 && !s.percent

end AuthorityScan

/-- A list of characters that is an authority. -/
def isAuthority (cs : List Char) : Bool :=
  match cs.foldlM AuthorityScan.step {} with
  | some s => s.accepts && cs.getLast? != some '@'
  | none => false

/-- Drop a text from the start without regard to case. -/
def dropIgnoringCase? : List Char → List Char → Option (List Char)
  | [], cs => some cs
  | _ :: _, [] => none
  | p :: ps, c :: cs => if c.toLower = p then dropIgnoringCase? ps cs else none

/-- The scheme and what follows the two slashes behind it; nothing where there is no scheme. A
scheme that is too long is an error. -/
def splitScheme? (cs : List Char) : Option (Option (String × List Char)) :=
  match dropIgnoringCase? "http://".toList cs with
  | some rest => some (some ("http", rest))
  | none =>
    match dropIgnoringCase? "https://".toList cs with
    | some rest => some (some ("https", rest))
    | none =>
      let scheme := cs.takeWhile isSchemeChar
      match cs.dropWhile isSchemeChar with
      | ':' :: '/' :: '/' :: rest =>
        if scheme.length ≤ maxSchemeLength then some (some (String.ofList scheme, rest)) else none
      | _ => some none

/-- Path and query of what follows an authority. An empty path is the root. -/
def pathAndQuery? (cs : List Char) : Option (String × Option String) :=
  let isEnd (c : Char) : Bool := c == '?' || c == '#'
  let path := cs.takeWhile fun c => !isEnd c
  let pathText := if path = [] then "/" else String.ofList path
  if path.all isPathChar then
    match cs.dropWhile fun c => !isEnd c with
    | '?' :: rest =>
      let query := rest.takeWhile (· != '#')
      if query.all isQueryChar then some (pathText, some (String.ofList query)) else none
    | _ => some (pathText, none)
  else none

/-- The identifier made of a scheme and what follows it, or of an authority alone. -/
def ofScheme? (scheme : Option String) (cs : List Char) : Option Uri :=
  let authority := cs.takeWhile fun c => !endsAuthority c
  let rest := cs.dropWhile fun c => !endsAuthority c
  if isAuthority authority then
    match scheme with
    | none =>
      if rest = [] then some ⟨none, some (String.ofList authority), "", none⟩ else none
    | some scheme =>
      if authority = [] then none
      else
        (pathAndQuery? rest).map fun (path, query) =>
          ⟨some scheme, some (String.ofList authority), path, query⟩
  else none

/-- Read an identifier. -/
def parse? (s : String) : Option Uri :=
  if s.utf8ByteSize = 0 ∨ maxLength < s.utf8ByteSize then none
  else
    match s.toList with
    | ['*'] => some ⟨none, none, "*", none⟩
    | '/' :: rest => (pathAndQuery? ('/' :: rest)).map fun (path, query) => ⟨none, none, path, query⟩
    | cs =>
      match splitScheme? cs with
      | none => none
      | some none => ofScheme? none cs
      | some (some (scheme, rest)) => ofScheme? (some scheme) rest

/-- Write an identifier. -/
def text (u : Uri) : String :=
  (match u.scheme with | some s => s ++ "://" | none => "")
    ++ u.authority.getD ""
    ++ u.path
    ++ (match u.query with | some q => "?" ++ q | none => "")

end Uri

end Tollgate
