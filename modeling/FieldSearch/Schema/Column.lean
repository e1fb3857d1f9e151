/-!
# Columns

A column has a name and a storage type. Only text columns can be searched.
-/

namespace FieldSearch

/-- The storage type of a column. -/
inductive ColumnType where
  | text
  | integer
  | float
  | boolean
deriving DecidableEq, Repr, Inhabited

/-- The name of the type in declarations and messages. -/
def ColumnType.name : ColumnType → String
  | .text => "text"
  | .integer => "integer"
  | .float => "float"
  | .boolean => "boolean"

/-- All types under their names. -/
def ColumnType.named : List (String × ColumnType) :=
  [.text, .integer, .float, .boolean].map fun type => (type.name, type)

/-- Whether text search can operate on columns of the type. -/
def ColumnType.isTextual : ColumnType → Bool
  | .text => true
  | _ => false

/-- A typed column of a record. -/
structure Column where
  name : String
  type : ColumnType
deriving DecidableEq, Repr, Inhabited

end FieldSearch
