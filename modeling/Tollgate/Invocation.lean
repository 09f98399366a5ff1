import Tollgate.Config.Text

/-!
# Command line

What a command line asks for: a configuration file, and an address to listen on that wins over the
configured one. Both may be given behind their option or joined to it by an equals sign.
-/

namespace Tollgate

/-- What a command line asks for. -/
structure Invocation where
  /-- The path of the configuration. -/
  config : Option String := none
  /-- The address to listen on. -/
  bind : Option String := none
deriving DecidableEq, Repr

/-- Why a command line asks for nothing that can be done. -/
inductive InvocationError where
  | unknownArgument (argument : String)
  | missingValue (option : String)
deriving DecidableEq, Repr

namespace InvocationError

/-- The reason as a text. -/
def message : InvocationError → String
  | unknownArgument a => "unexpected argument '" ++ a ++ "' found"
  | missingValue o => "a value is required for '" ++ o ++ "' but none was supplied"

end InvocationError

namespace Invocation

/-- The value that an argument joins to an option. -/
def joined? (option argument : String) : Option String :=
  let opening := (option ++ "=").toList
  let s := argument.toList
  if s.take opening.length = opening then some (String.ofList (s.drop opening.length)) else none

/-- Read arguments one by one. -/
def parseFrom (i : Invocation) : List String → Except InvocationError Invocation
  | [] => .ok i
  | argument :: rest =>
    if argument = "-c" ∨ argument = "--config" then
      match rest with
      | [] => .error (.missingValue "--config <CONFIG>")
      | path :: rest => parseFrom { i with config := some path } rest
    else if argument = "--bind" then
      match rest with
      | [] => .error (.missingValue "--bind <BIND>")
      | address :: rest => parseFrom { i with bind := some address } rest
    else
      match joined? "--config" argument, joined? "--bind" argument with
      | some path, _ => parseFrom { i with config := some path } rest
      | none, some address => parseFrom { i with bind := some address } rest
      | none, none => .error (.unknownArgument argument)

/-- What a command line asks for. -/
def parse (arguments : List String) : Except InvocationError Invocation :=
  parseFrom {} arguments

/-- The configuration with the address asked for. -/
def apply (i : Invocation) (c : Config) : Config :=
  match i.bind with
  | some address => { c with listener := { bindAddress := address } }
  | none => c

end Invocation

namespace Config

/-- What is told about a configuration before the gateway starts. -/
def summary (c : Config) : String :=
  "bind_address=" ++ c.listener.bindAddress
    ++ " services=" ++ toString c.services.length
    ++ " routes=" ++ toString c.routes.length
    ++ " request_timeout_secs=" ++ toString c.timeouts.requestSeconds

end Config

end Tollgate
