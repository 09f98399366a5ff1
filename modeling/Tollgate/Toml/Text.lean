import Tollgate.Number.Digits

/-!
# Characters, line ends and strings of TOML

A reader takes the text that is left and gives what it read with the text behind that, or nothing.
Loops are `collect`, whose steps say whether another one follows; each step that does consumes a
character, so a loop over a text needs no more steps than the text has characters.
-/

namespace Tollgate

namespace Toml

/-- Reads a value from the front of a text. -/
abbrev Reader (α : Type) := List Char → Option (α × List Char)

/-- At most `fuel` values, read one behind the other until a step says that none follows. -/
def collect {α : Type} (step : List Char → Option (α × Bool × List Char)) : Nat → Reader (List α)
  | 0, _ => none
  | fuel + 1, s => do
    let (a, more, rest) ← step s
    if more then do
      let (as, rest) ← collect step fuel rest
      some (a :: as, rest)
    else some ([a], rest)

/-- Values read one behind the other until a step says that none follows. -/
def collectAll {α : Type} (step : List Char → Option (α × Bool × List Char)) : Reader (List α) :=
  fun s => collect step (s.length + 1) s

/-- A blank inside a line. -/
def isSpace (c : Char) : Bool :=
  c == ' ' || c == '\t'

/-- A character that may stand in a string or a comment: no control character but the tabulator. -/
def isPlain (c : Char) : Bool :=
  c == '\t' || 0x20 ≤ c.toNat && c.toNat != 0x7F

/-- The text behind the blanks it starts with. -/
def skipSpace (s : List Char) : List Char :=
  s.dropWhile isSpace

/-- The text behind the line break it starts with. -/
def newline? : List Char → Option (List Char)
  | '\n' :: rest => some rest
  | '\r' :: '\n' :: rest => some rest
  | _ => none

/-- The text behind the comment it may start with. -/
def skipComment : List Char → List Char
  | '#' :: rest => rest.dropWhile isPlain
  | s => s

/-- The text behind the end of a line: blanks and a comment may precede the break, and the text may
end instead. -/
def lineEnd? (s : List Char) : Option (List Char) :=
  match skipComment (skipSpace s) with
  | [] => some []
  | rest => newline? rest

/-- The text behind blanks, line breaks and comments that end in a break. -/
def skipLines : Nat → List Char → List Char
  | 0, s => s
  | fuel + 1, s =>
    match newline? (skipComment (skipSpace s)) with
    | some rest => skipLines fuel rest
    | none => skipSpace s

/-- The text behind all blank lines and comments. -/
def skipBlank (s : List Char) : List Char :=
  skipLines s.length s

/-! ### Strings -/

/-- The character that hexadecimal digits name. -/
def namedCharacter? (digits : List Char) : Option Char :=
  if digits.all fun c => (Bytes.hexValue? c).isSome then
    let n := radixValue 16 digits
    if n.isValidChar then some (Char.ofNat n) else none
  else none

/-- The character an escape stands for, read behind its backslash. -/
def escaped? : Reader Char
  | 'b' :: rest => some ('\x08', rest)
  | 't' :: rest => some ('\t', rest)
  | 'n' :: rest => some ('\n', rest)
  | 'f' :: rest => some ('\x0c', rest)
  | 'r' :: rest => some ('\r', rest)
  | '"' :: rest => some ('"', rest)
  | '\\' :: rest => some ('\\', rest)
  | 'u' :: rest =>
    if 4 ≤ rest.length then (namedCharacter? (rest.take 4)).map (·, rest.drop 4) else none
  | 'U' :: rest =>
    if 8 ≤ rest.length then (namedCharacter? (rest.take 8)).map (·, rest.drop 8) else none
  | _ => none

/-- One character of a string in double quotes, or the closing quote. -/
def basicStep : List Char → Option (List Char × Bool × List Char)
  | '"' :: rest => some ([], false, rest)
  | '\\' :: rest => (escaped? rest).map fun (c, rest) => ([c], true, rest)
  | c :: rest => if isPlain c then some ([c], true, rest) else none
  | [] => none

/-- One character of a string in single quotes, or the closing quote. -/
def literalStep : List Char → Option (List Char × Bool × List Char)
  | '\'' :: rest => some ([], false, rest)
  | c :: rest => if isPlain c then some ([c], true, rest) else none
  | [] => none

/-- The quotes at the front of a string over lines: three of them close it, and up to two more before
those belong to it; fewer belong to it and close nothing. -/
def quoteStep (quote : Char) (s : List Char) : List Char × Bool × List Char :=
  let run := (s.takeWhile (· == quote)).length
  if run < 3 then (List.replicate run quote, true, s.drop run)
  else
    let inside := min 2 (run - 3)
    (List.replicate inside quote, false, s.drop (inside + 3))

/-- One character of a string in three double quotes, its closing quotes, or a line break that is
escaped together with all blanks behind it. -/
def basicLinesStep (s : List Char) : Option (List Char × Bool × List Char) :=
  match s with
  | '"' :: _ => some (quoteStep '"' s)
  | '\\' :: rest =>
    match newline? (skipSpace rest) with
    | some below => some ([], true, skipEmpty below.length below)
    | none => (escaped? rest).map fun (c, rest) => ([c], true, rest)
  | c :: rest =>
    match newline? s with
    | some below => some (['\n'], true, below)
    | none => if isPlain c then some ([c], true, rest) else none
  | [] => none
where
  /-- The text behind blanks and line breaks. -/
  skipEmpty : Nat → List Char → List Char
    | 0, s => s
    | fuel + 1, s =>
      match newline? (skipSpace s) with
      | some below => skipEmpty fuel below
      | none => skipSpace s

/-- One character of a string in three single quotes, or its closing quotes. -/
def literalLinesStep (s : List Char) : Option (List Char × Bool × List Char) :=
  match s with
  | '\'' :: _ => some (quoteStep '\'' s)
  | c :: rest =>
    match newline? s with
    | some below => some (['\n'], true, below)
    | none => if isPlain c then some ([c], true, rest) else none
  | [] => none

/-- The text of a string whose characters are read by `step`. -/
def stringBy (step : List Char → Option (List Char × Bool × List Char)) : Reader String :=
  fun s => (collectAll step s).map fun (parts, rest) => (String.ofList parts.flatten, rest)

/-- The text behind a line break that follows the opening quotes of a string over lines. -/
def belowOpening (s : List Char) : List Char :=
  (newline? s).getD s

/-- A string on one line, in quotes of either kind. -/
def lineString? : Reader String
  | '"' :: rest => stringBy basicStep rest
  | '\'' :: rest => stringBy literalStep rest
  | _ => none

/-- A string in any of the four forms. -/
def string? : Reader String
  | '"' :: '"' :: '"' :: rest => stringBy basicLinesStep (belowOpening rest)
  | '\'' :: '\'' :: '\'' :: rest => stringBy literalLinesStep (belowOpening rest)
  | s => lineString? s

end Toml

end Tollgate
