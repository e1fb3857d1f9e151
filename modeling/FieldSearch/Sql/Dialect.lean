import FieldSearch.Json.Decoder

/-!
# Dialects

Two dialects of SQL. They agree on how names are quoted, and differ in how parameters are numbered,
in the types of columns, and in whether text vectors can be searched.
-/

namespace FieldSearch.Sql

/-- A dialect of SQL. -/
inductive Dialect where
  | sqlite
  | postgres
deriving DecidableEq, Repr, Inhabited

namespace Dialect

/-- The name of the dialect. -/
def name : Dialect → String
  | .sqlite => "sqlite"
  | .postgres => "postgres"

/-- The dialects under their names. -/
def named : List (String × Dialect) := [("sqlite", .sqlite), ("postgres", .postgres)]

/-- How the parameter of a number, counted from one, is written. -/
def placeholder : Dialect → Nat → String
  | .sqlite, index => s!"?{index}"
  | .postgres, index => s!"${index}"

/-- Whether text vectors and positions of substrings can be asked for. -/
def supportsFullText : Dialect → Bool
  | .sqlite => false
  | .postgres => true

/-- Reads a dialect by its name. -/
def decoder : Json.Decoder Dialect := .choice named

end Dialect
end FieldSearch.Sql
