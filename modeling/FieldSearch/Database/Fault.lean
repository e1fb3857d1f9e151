import FieldSearch.Text.Utf8

/-!
# Faults of the database

Why the database refuses a statement, or its answer cannot be read as asked: a stored value is of
another kind than its column, or rows, columns and parameters are not as expected. Faults other than
those of reading have a code and a wording for it.
-/

namespace FieldSearch.Database

/-- Why a statement fails. -/
inductive Fault where
  | noSuchTable (table : String)
  /-- A question about a schema that is not there, by its quoted name. -/
  | unknownSchema (quoted : String)
  /-- A table that can only be used with arguments, by its kind. -/
  | invalidArguments (kind : String)
  /-- A text that is no JSON. -/
  | malformedJson
  /-- A path into JSON that cannot be read, by its quoted text. -/
  | badPath (quoted : String)
  /-- A question that lacks what it is about. -/
  | logicError
  | reservedName (name : String)
  | duplicateColumn (column : String)
  | tooManyColumns (table : String)
  | noSuchColumn (table column : String)
  /-- A change of a table that the database answers from what it knows. -/
  | readOnlyTable (table : String)
  /-- A change of a database that is only to be read. -/
  | readOnlyDatabase
  | tooManyResultColumns
  /-- Conditions within conditions beyond the greatest height. -/
  | expressionTooHigh (limit : Nat)
  | datatypeMismatch
  | keyExists (table column : String)
  | rowIdExists (table : String)
  | patternTooComplex
  /-- An empty choice among conditions, with the statement and the place of its end. -/
  | emptyChoice (sql : String) (offset : Nat)
  | tooManyParameters (sql : String) (offset : Nat)
  /-- A part of a statement that does not end, with the statement and the place of its start. -/
  | unrecognizedToken (token sql : String) (offset : Nat)
  /-- A value of a kind that its column does not have, by place and name of the column. -/
  | invalidColumnType (kind : String) (index : Nat) (column : String)
  /-- A text that is not made of characters, by place of its column. -/
  | brokenText (index : Nat) (fault : Text.Utf8.Fault)
  /-- A row was asked for, and there is none. -/
  | noRows
  /-- A change was asked for, and there are rows. -/
  | unexpectedRows
  | invalidColumnIndex (index : Nat)
  | invalidColumnName (column : String)
  | invalidParameterName (parameter : String)
deriving DecidableEq, Repr

namespace Fault

/-- The wording of the fault. -/
def message : Fault → String
  | .noSuchTable table => s!"no such table: {table}"
  | .unknownSchema quoted => s!"unknown database {quoted}"
  | .invalidArguments kind => s!"invalid arguments to {kind} constructor"
  | .malformedJson => "malformed JSON"
  | .badPath quoted => s!"bad JSON path: {quoted}"
  | .logicError => "SQL logic error"
  | .reservedName name => s!"object name reserved for internal use: {name}"
  | .duplicateColumn column => s!"duplicate column name: {column}"
  | .tooManyColumns table => s!"too many columns on {table}"
  | .noSuchColumn table column => s!"table {table} has no column named {column}"
  | .readOnlyTable table => s!"table {table} may not be modified"
  | .readOnlyDatabase => "attempt to write a readonly database"
  | .tooManyResultColumns => "too many columns in result set"
  | .expressionTooHigh limit => s!"Expression tree is too large (maximum depth {limit})"
  | .datatypeMismatch => "datatype mismatch"
  | .keyExists table column => s!"UNIQUE constraint failed: {table}.{column}"
  | .rowIdExists table => s!"UNIQUE constraint failed: {table}.rowid"
  | .patternTooComplex => "LIKE or GLOB pattern too complex"
  | .emptyChoice sql offset => s!"near \")\": syntax error in {sql} at offset {offset}"
  | .tooManyParameters sql offset =>
      s!"variable number must be between ?1 and ?32766 in {sql} at offset {offset}"
  | .unrecognizedToken token sql offset =>
      s!"unrecognized token: \"{token}\" in {sql} at offset {offset}"
  | .invalidColumnType kind index column =>
      s!"Invalid column type {kind} at index: {index}, name: {column}"
  | .brokenText index fault =>
      s!"Conversion error from type Text at index: {index}, {fault.message}"
  | .noRows => "Query returned no rows"
  | .unexpectedRows => "Execute returned results - did you mean to call query?"
  | .invalidColumnIndex index => s!"Invalid column index: {index}"
  | .invalidColumnName column => s!"Invalid column name: {column}"
  | .invalidParameterName parameter => s!"Invalid parameter name: {parameter}"

/-- Whether the fault is found in a row and not in the statement. -/
def isOfRow : Fault → Bool
  | .datatypeMismatch | .keyExists _ _ | .rowIdExists _ => true
  | _ => false

/-- The code of the fault with the wording of the code. -/
def code? : Fault → Option (Nat × String)
  | .invalidColumnType _ _ _ | .brokenText _ _ | .noRows | .unexpectedRows | .invalidColumnIndex _
  | .invalidColumnName _ | .invalidParameterName _ => none
  | .readOnlyDatabase => some (8, "Attempt to write a readonly database")
  | .datatypeMismatch => some (20, "Data type mismatch")
  | .keyExists _ _ => some (1555, "A PRIMARY KEY constraint failed")
  | .rowIdExists _ => some (2579, "rowid is not unique")
  | _ => some (1, "SQL error or missing database")

/-- The chain of causes under which the fault is reported. -/
def causes (fault : Fault) : List String :=
  match fault, fault.code? with
  | .brokenText _ reason, _ => [fault.message, reason.message]
  | _, some (code, text) => [fault.message, s!"Error code {code}: {text}"]
  | _, none => [fault.message]

end Fault
end FieldSearch.Database
