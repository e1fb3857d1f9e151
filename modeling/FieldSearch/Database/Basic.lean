import FieldSearch.Database.Table
import FieldSearch.Text.Identifier

/-!
# Databases

A database is a list of tables with different names, compared regardless of ASCII case. A statement
is carried out as a whole or leaves the database as it is. In which order tables were created and
rows inserted can still be told from where they are kept, so a database remembers it.

## Main results

* `create_of_exists`: creating a table that is there changes nothing.
-/

namespace FieldSearch

/-- Something that was done to a database. -/
inductive Database.Change where
  | created (table : String)
  | inserted (table : String) (number : Int)
deriving DecidableEq, Repr

/-- A database. -/
structure Database where
  tables : List Database.Table := []
  /-- What was done to it, the last first. -/
  history : List Database.Change := []
deriving DecidableEq, Repr

namespace Database

/-- The database without tables. -/
def empty : Database := {}

/-- The table of a name. -/
def table? (database : Database) (name : String) : Option Table :=
  database.tables.find? fun table => Text.sameIgnoringAsciiCase table.name name

/-- Whether a name is kept for the database itself. -/
def isReserved (name : String) : Bool :=
  "sqlite_".toList.isPrefixOf (Text.asciiLowercase name).toList

/-- The first column that repeats the name of an earlier one. -/
def repeatedColumn? : List String → List String → Option String
  | _, [] => none
  | seen, name :: rest =>
      if seen.any (Text.sameIgnoringAsciiCase name) then some name
      else repeatedColumn? (name :: seen) rest

/-- The greatest number of columns in a table. -/
def maxColumns : Nat := 2000

/-- Creates a table unless there is one of its name. -/
def create (database : Database) (statement : CreateTable) : Except Fault Database :=
  if isReserved statement.table then throw (.reservedName statement.table)
  else if (database.table? statement.table).isSome then pure database
  else
    match repeatedColumn? [] ((statement.columns.map NewColumn.name).take (maxColumns + 1)) with
    | some column => throw (.duplicateColumn column)
    | none =>
        if maxColumns < statement.columns.length then throw (.tooManyColumns statement.table)
        else
          pure
            { tables := database.tables ++ [Table.ofStatement statement]
              history := .created statement.table :: database.history }

/-- The database with one table replaced. -/
def replace (database : Database) (table : Table) : Database :=
  { database with
    tables := database.tables.map fun other =>
      if Text.sameIgnoringAsciiCase other.name table.name then table else other }

/-- Inserts a row into a table of the database. -/
def insertInto (database : Database) (table : Table) (statement : Insert) :
    Except Fault Database := do
  let (number, table) ← table.insert statement
  let changed := database.replace table
  pure { changed with history := .inserted table.name number :: changed.history }

theorem create_of_exists {database : Database} {statement : CreateTable} {table : Table}
    (hReserved : isReserved statement.table = false)
    (hTable : database.table? statement.table = some table) :
    database.create statement = .ok database := by
  simp [create, hReserved, hTable, pure, Except.pure]

end Database
end FieldSearch
