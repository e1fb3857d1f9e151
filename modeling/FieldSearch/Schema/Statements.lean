import FieldSearch.Number.Digits
import FieldSearch.Query.Error
import FieldSearch.Record
import FieldSearch.Schema.Basic
import FieldSearch.Sql.Template

/-!
# Tables and rows of a record type

The statement that creates the table of a record type, and the statement that stores a record.
Values of a record are stored by the types of their columns; a null value is stored as no value at
all, so the column is left out of the statement.
-/

namespace FieldSearch

open Number (Binary64)

/-! ## Creating a table -/

/-- The type of a column in a dialect. -/
def ColumnType.sqlType : ColumnType → Sql.Dialect → String
  | .text, _ => "TEXT"
  | .integer, .sqlite => "INTEGER"
  | .integer, .postgres => "BIGINT"
  | .float, .sqlite => "REAL"
  | .float, .postgres => "DOUBLE PRECISION"
  | .boolean, .sqlite => "INTEGER"
  | .boolean, .postgres => "BOOLEAN"

/-- A column to be created. -/
structure NewColumn where
  name : String
  type : ColumnType
  isKey : Bool
deriving DecidableEq, Repr

/-- A table to be created unless there is one of its name. -/
structure CreateTable where
  table : String
  columns : List NewColumn
deriving DecidableEq, Repr

namespace CreateTable

/-- A column in the statement. -/
def columnTemplate (dialect : Sql.Dialect) (column : NewColumn) : Sql.Template :=
  [.name column.name, .fixed (" " ++ column.type.sqlType dialect ++
    (if column.isKey then " PRIMARY KEY" else ""))]

/-- The statement. -/
def template (statement : CreateTable) (dialect : Sql.Dialect) : Sql.Template :=
  [.fixed "CREATE TABLE IF NOT EXISTS ", .name statement.table, .fixed " ("] ++
    Sql.Template.joined ", " (statement.columns.map (columnTemplate dialect)) ++ [.fixed ")"]

end CreateTable

/-- The table of a record type. -/
def Schema.createTable (schema : Schema) : CreateTable where
  table := schema.table
  columns := schema.columns.map fun column =>
    ⟨column.name, column.type, column.name == schema.primaryKey⟩

/-! ## Storing a record -/

/-- The value of a column of a type, if the value fits the type. -/
def ColumnType.toValue? : ColumnType → Json → Option Sql.Value
  | _, .null => some .null
  | .text, .text value => some (.text value)
  | .integer, .integer value =>
      if Number.fitsInt64 value then some (.integer value) else none
  | .float, .integer value => some (.real (Binary64.ofInt value))
  | .float, .real value => some (.real value)
  | .boolean, .bool value => some (.bool value)
  | _, _ => none

/-- The fault of a value that does not fit its column. -/
def Schema.mismatch (schema : Schema) (column : Column) : QueryError :=
  .typeMismatch schema.name column.name column.type.name

/-- The value of a named column. -/
def Schema.columnValue (schema : Schema) (name : String) (value : Json) :
    Except QueryError Sql.Value :=
  match schema.column? name with
  | none => throw (.unknownColumn schema.name name)
  | some column =>
      match column.type.toValue? value with
      | some value => pure value
      | none => throw (schema.mismatch column)

/-- A row to be stored: values for some of the columns of a table. -/
structure Insert where
  table : String
  cells : List (String × Sql.Value)
deriving DecidableEq, Repr

namespace Insert

/-- The statement. -/
def template (statement : Insert) : Sql.Template :=
  if statement.cells.isEmpty then
    [.fixed "INSERT INTO ", .name statement.table, .fixed " DEFAULT VALUES"]
  else
    [.fixed "INSERT INTO ", .name statement.table, .fixed " ("] ++
      Sql.Template.joined ", " (statement.cells.map fun cell => [.name cell.1]) ++
      [.fixed ") VALUES ("] ++
      Sql.Template.joined ", " (statement.cells.map fun cell => [.value cell.2]) ++
      [.fixed ")"]

end Insert

/-- The cells of a record, in the order of the columns. -/
def Schema.cells (schema : Schema) (record : Record) :
    List Column → Except QueryError (List (String × Sql.Value))
  | [] => pure []
  | column :: rest =>
      match record.get? column.name with
      | none | some .null => schema.cells record rest
      | some value => do
          let value ← schema.columnValue column.name value
          let cells ← schema.cells record rest
          pure ((column.name, value) :: cells)

/-- The row of a record; a column that the type does not have is reported before a value that does
not fit. -/
def Schema.insertion (schema : Schema) (record : Record) : Except QueryError Insert :=
  match record.values.keys.find? fun name => (schema.column? name).isNone with
  | some name => throw (.unknownColumn schema.name name)
  | none => do
      let cells ← schema.cells record schema.columns
      pure ⟨schema.table, cells⟩

end FieldSearch
