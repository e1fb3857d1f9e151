/-!
# Faults of a declaration

Why a record type cannot be declared as asked.
-/

namespace FieldSearch

/-- Why a declaration of a record type, or of its searchable fields, is refused. -/
inductive SchemaError where
  | invalidIdentifier (identifier : String)
  | duplicateColumn (record column : String)
  | unknownPrimaryKey (record column : String)
  | unknownSearchField (record field : String)
  | nonTextualSearchField (record field columnType : String)
  | duplicateSearchField (field : String)
  | searchRequiresUnfilteredFetch (record : String)
  | noColumns (record : String)
deriving DecidableEq, Repr

/-- The wording of the fault. -/
def SchemaError.message : SchemaError → String
  | .invalidIdentifier identifier =>
      "invalid identifier '" ++ identifier ++ "': expected [A-Za-z_][A-Za-z0-9_]*"
  | .duplicateColumn record column => s!"duplicate column '{column}' on record {record}"
  | .unknownPrimaryKey record column =>
      s!"primary key '{column}' is not a column of record {record}"
  | .unknownSearchField record field =>
      s!"searchable field '{field}' is not a column of record {record}"
  | .nonTextualSearchField record field columnType =>
      s!"searchable field '{field}' on record {record} must be a text column, found {columnType}"
  | .duplicateSearchField field => s!"searchable field '{field}' declared more than once"
  | .searchRequiresUnfilteredFetch record =>
      s!"record {record} declares searchable fields but does not allow unfiltered fetch"
  | .noColumns record => s!"record {record} declares no columns"

end FieldSearch
