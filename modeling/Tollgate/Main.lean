import Tollgate.Invocation

/-!
# The command

Loads the configuration that is asked for, or the default one, and tells what it says or what is
wrong with it.
-/

namespace Tollgate

/-- What reading a file comes to. -/
def readContent (path : String) : IO (Except FileError Bytes) := do
  try
    let content ← IO.FS.readBinFile path
    return .ok content.toList
  catch
    | .noFileOrDirectory _ _ _ => return .error .missing
    | .inappropriateType _ 21 _ => return .error .isDirectory
    | .inappropriateType _ 20 _ => return .error .notADirectory
    | e => return .error (.other (toString e))

/-- The configuration of a file, or the default one. -/
def loadConfig : Option String → IO (Except ConfigError Config)
  | none => return .ok {}
  | some path => return Config.load (← readContent path)

end Tollgate

open Tollgate in
/-- Run the command. -/
def main (arguments : List String) : IO UInt32 := do
  match Invocation.parse arguments with
  | .error e =>
    IO.eprintln ("error: " ++ e.message)
    return 2
  | .ok invocation =>
    let path ← match invocation.config with
      | some path => pure (some path)
      | none => IO.getEnv "GATEWAY_CONFIG"
    match ← loadConfig path with
    | .error e =>
      IO.eprintln ("Error: " ++ e.message)
      return 1
    | .ok config =>
      IO.println ("Configuration loaded: " ++ (invocation.apply config).summary)
      return 0
