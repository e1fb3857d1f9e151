/-!
# Faults of a request

Why a request for records, or a record to be stored, is refused.
-/

namespace FieldSearch

/-- Why a request is refused. -/
inductive QueryError where
  | unfilteredFetchNotAllowed (record : String)
  | invalidPaging (argument : String) (value : Int)
  | notFound (record id : String)
  | rejected (record reason : String)
  | unknownColumn (record column : String)
  | typeMismatch (record column expected : String)
deriving DecidableEq, Repr

/-- The wording of the fault. -/
def QueryError.message : QueryError → String
  | .unfilteredFetchNotAllowed record => s!"record {record} cannot be fetched without ids"
  | .invalidPaging argument value => s!"invalid {argument}: {value}"
  | .notFound record id => s!"{record} not found: {id}"
  | .rejected record reason => s!"query rejected for {record}: {reason}"
  | .unknownColumn record column => s!"{record} has no column '{column}'"
  | .typeMismatch record column expected => s!"column '{column}' of {record} expects {expected}"

end FieldSearch
