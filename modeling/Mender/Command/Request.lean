namespace Mender

structure Overrides where
  source : Option String := none
  command : Option String := none
  testFile : Option String := none
  tests : List String := []
  lookahead : Option Nat := none
  deriving DecidableEq, Repr, Inhabited

namespace Command

inductive UsageFault where
  | displayHelp
  | displayVersion
  | unknownArgument
  | invalidSubcommand
  /-- An option without its value, or an empty path. -/
  | invalidValue
  | valueValidation
  | argumentConflict
  | missingRequiredArgument
  | tooManyValues
  deriving DecidableEq, Repr, Inhabited

structure RepairArguments where
  config : String := "autofix.toml"
  overrides : Overrides := {}
  json : Bool := false
  deriving DecidableEq, Repr, Inhabited

inductive Request where
  | repair (arguments : RepairArguments)
  | hotspots (file : String) (json : Bool)
  deriving DecidableEq, Repr, Inhabited

structure Invocation where
  verbose : Bool
  /-- Without a request the program tells how it is used. -/
  request : Option Request
  deriving DecidableEq, Repr, Inhabited

end Command

end Mender
