import FieldSearch.Database.Layout
import FieldSearch.Database.SystemTable

/-!
# What a database knows

A database is used through a connection. What can be told about it depends on the database itself,
on what it was told when it was opened, and on what the connection has come upon: the spelling in
which a setting was asked for first is the one that counts, and the temporary schema is there from
the moment it is mentioned.
-/

namespace FieldSearch.Database

/-- What a database is told when it is opened. -/
structure Settings where
  /-- Where the database is kept; empty for memory. -/
  file : String := ""
  busyTimeoutMs : Nat := 5000
  journal : String := "memory"
  /-- Whether it must not be changed. -/
  isReadOnly : Bool := false
deriving DecidableEq, Repr

/-- What a connection remembers. -/
structure Connection where
  /-- The names under which settings were asked for, the last first. -/
  names : List String := []
  /-- Whether the temporary schema is open. -/
  hasTemporary : Bool := false
deriving DecidableEq, Repr

namespace Connection

/-- The spelling of a name that was come upon, if it was. -/
def spelling? (connection : Connection) (name : String) : Option String :=
  connection.names.find? (Text.sameIgnoringAsciiCase name)

/-- Comes upon a name. -/
def visit (connection : Connection) (name : String) : Connection :=
  if (connection.spelling? name).isSome then connection
  else { connection with names := name :: connection.names }

end Connection

/-- All that answers are drawn from. -/
structure Knowledge where
  settings : Settings := {}
  connection : Connection := {}
  database : Database

/-- The pages of the database: none before the first table, but a log of changes needs the
first page from the beginning. -/
def Knowledge.layout (knowledge : Knowledge) : Layout :=
  let layout := knowledge.database.layout
  if layout.isEmpty && knowledge.settings.journal == "wal" then .opened else layout

/-- Which schema a question is about. -/
inductive Scope where
  /-- No schema is named. -/
  | any
  | main
  | temporary
deriving DecidableEq, Repr

/-- The schema of a name. -/
def Scope.ofName? (name : String) : Option Scope :=
  let lower := Text.asciiLowercase name
  if lower = "main" then some .main else if lower = "temp" then some .temporary else none

/-! ## The catalog as a table -/

/-- The columns of the catalog. -/
def catalogColumns : List SystemColumn :=
  [⟨"type", "TEXT", false⟩, ⟨"name", "TEXT", false⟩, ⟨"tbl_name", "TEXT", false⟩,
    ⟨"rootpage", "INT", false⟩, ⟨"sql", "TEXT", false⟩]

/-- The name of the catalog. -/
def catalogName : String := "sqlite_master"

/-- The name of the catalog of temporary tables. -/
def temporaryCatalogName : String := "sqlite_temp_master"

/-- The catalog that a name stands for in a schema, as the schema it belongs to. -/
def catalogScope? (scope : Scope) (name : String) : Option Scope :=
  let lower := Text.asciiLowercase name
  let isMain := [catalogName, "sqlite_schema"].contains lower
  let isTemporary := [temporaryCatalogName, "sqlite_temp_schema"].contains lower
  match scope with
  | .any => if isMain then some .main else if isTemporary then some .temporary else none
  | .main => if isMain then some .main else none
  | .temporary => if isMain || isTemporary then some .temporary else none

/-- The rows of the catalog. -/
def catalog (database : Database) : List (List Cell) :=
  database.layout.roots.flatMap fun root =>
    match database.table? root.table with
    | some table => table.catalogRows root.page root.index
    | none => []

/-- The catalog of a schema. -/
def catalogTable (database : Database) : Scope → SystemTable
  | .temporary => .ofRows temporaryCatalogName catalogColumns []
  | _ => .ofRows catalogName catalogColumns database.catalog

end FieldSearch.Database
