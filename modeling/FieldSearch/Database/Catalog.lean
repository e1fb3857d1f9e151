import FieldSearch.Database.Table
import FieldSearch.Text.Identifier

/-!
# The catalog

A database keeps a table of its tables: a row for each table with the statement that defines it, and
a row for the index of a key that is not the number of the row. Behind each of them stands the page
where it begins.
-/

namespace FieldSearch.Database

/-- The name of a type in a definition. -/
def Affinity.keyword : Affinity → String
  | .text => "TEXT"
  | .integer => "INTEGER"
  | .real => "REAL"
  | .any => ""

namespace Table

/-- The definition of a column. -/
def columnDefinition (table : Table) (column : StoredColumn) (index : Nat) : String :=
  Text.quoteIdentifier column.name ++ " " ++ column.affinity.keyword ++
    (if index = table.key then " PRIMARY KEY" else "")

/-- The statement that defines a table. Tables that the database keeps for itself, which have no
key, are defined without quotes and types. -/
def definition (table : Table) : String :=
  if table.hasKey then
    "CREATE TABLE " ++ Text.quoteIdentifier table.name ++ " (" ++
      ", ".intercalate (table.columns.zipIdx.map fun (column, index) =>
        table.columnDefinition column index) ++ ")"
  else
    "CREATE TABLE " ++ table.name ++ "(" ++
      ",".intercalate (table.columns.map StoredColumn.name) ++ ")"

/-- The name of the index of the key. -/
def indexName (table : Table) : String := s!"sqlite_autoindex_{table.name}_1"

/-- The row of a table in the catalog, with the page where it begins. -/
def catalogRow (table : Table) (page : Nat) : List Cell :=
  [.text "table", .text table.name, .text table.name, .integer page, .text table.definition]

/-- The row of the index of a table in the catalog, with the page where it begins. -/
def indexRow (table : Table) (page : Nat) : List Cell :=
  [.text "index", .text table.indexName, .text table.name, .integer page, .null]

/-- The rows of a table in the catalog, with the pages where it and its index begin. -/
def catalogRows (table : Table) (page : Nat) (index : Option Nat) : List (List Cell) :=
  table.catalogRow page :: (index.map table.indexRow).toList

end Table
end FieldSearch.Database
