/-!
# Faults of a command line

Why the arguments of a command line are not accepted. Asking for help is treated as one of them,
since nothing else is done then.
-/

namespace FieldSearch.Cli

/-- Why a command line is not accepted. -/
inductive UsageError where
  | displayHelp
  | unknownArgument
  /-- A switch with a value. -/
  | tooManyValues
  /-- A value that is missing, or empty where it must not be. -/
  | invalidValue
  /-- Two arguments that exclude each other, or one that is repeated. -/
  | argumentConflict
  /-- A value that cannot be read. -/
  | valueValidation (reason : String)
  | missingRequiredArgument
deriving DecidableEq, Repr

/-- The wording of a fault. -/
def UsageError.message : UsageError → String
  | .displayHelp => "help was asked for"
  | .unknownArgument => "an argument is not known"
  | .tooManyValues => "a switch has a value"
  | .invalidValue => "a value is missing"
  | .argumentConflict => "two arguments exclude each other"
  | .valueValidation reason => reason
  | .missingRequiredArgument => "no record schema is given"

/-- Why a run fails, with the chain of causes. -/
structure Failure where
  message : String
  causes : List String := []
deriving DecidableEq, Repr

end FieldSearch.Cli
