import Tollgate.Config.Decode
import Tollgate.Config.Problem
import Tollgate.Text.Bytes
import Tollgate.Toml.Document

/-!
# Configuration texts

A configuration text is read, brought into shape and validated; the first of these steps that fails
says why.
-/

namespace Tollgate

/-- What keeps a file from being read as a text. -/
inductive FileError where
  | missing
  | isDirectory
  | notADirectory
  | notText
  /-- Any other reason, in the words of the system. -/
  | other (reason : String)
deriving DecidableEq, Repr

namespace FileError

/-- The reason as a text, with the number the system gives it. -/
def message : FileError → String
  | missing => "No such file or directory (os error 2)"
  | isDirectory => "Is a directory (os error 21)"
  | notADirectory => "Not a directory (os error 20)"
  | notText => "stream did not contain valid UTF-8"
  | other reason => reason

end FileError

/-- Why a configuration is refused. -/
inductive ConfigError where
  | file (reason : FileError)
  /-- The text is no TOML document. -/
  | grammar
  | shape (fault : ShapeError)
  | invalid (problems : List Problem)

namespace ConfigError

/-- The reason as a text. -/
def message : ConfigError → String
  | file reason => "IO error: " ++ reason.message
  | grammar => "Parse error: invalid TOML"
  | shape fault => "Parse error: " ++ fault.message
  | invalid problems =>
    "Validation failed: " ++ ", ".intercalate (problems.map Problem.message)

end ConfigError

namespace Config

/-- The configuration, unless something is wrong with it. -/
def validate (c : Config) : Except (List Problem) Config :=
  if c.problems = [] then .ok c else .error c.problems

/-- The configuration of a TOML text. -/
def parse (text : String) : Except ConfigError Config :=
  match Toml.parse? text with
  | none => .error .grammar
  | some table =>
    match Decoder.config (.table table) with
    | .error fault => .error (.shape fault)
    | .ok c => c.validate.mapError .invalid

/-- The configuration of a file, given what reading the file comes to. -/
def load : Except FileError Bytes → Except ConfigError Config
  | .error reason => .error (.file reason)
  | .ok content =>
    match content.text? with
    | none => .error (.file .notText)
    | some text => parse text

end Config

end Tollgate
