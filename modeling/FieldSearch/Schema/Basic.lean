import FieldSearch.Schema.Column
import FieldSearch.Search.FieldSet
import FieldSearch.Text.Lowercase

/-!
# Record types

A record type is declared by a name, a table, a primary key, typed columns and search options, and
is checked once: a declaration either becomes a schema or is refused with the first fault found. The
faults are looked for in a fixed order: the two names, the columns from left to right, the primary
key, the searchable fields from left to right as names and again as columns, and at last whether a
searchable record may be listed without ids.
-/

namespace FieldSearch

/-- The search options of a record type. -/
structure SearchOptions where
  /-- The fields that can be searched, in ranking order. -/
  searchableFields : List String := []
  /-- Whether the record can be listed without ids. -/
  allowUnfilteredFetch : Bool := false
deriving DecidableEq, Repr

/-- What is asked for in declaring a record type. -/
structure Declaration where
  name : String
  /-- The table; without one it is the name in lower case. -/
  table : Option String := none
  primaryKey : String := "id"
  columns : List Column := []
  search : SearchOptions := {}
deriving DecidableEq, Repr

/-- A record type whose declaration was accepted. -/
structure Schema where
  name : String
  table : String
  columns : List Column
  /-- The column that is the primary key. -/
  key : Column
  options : SearchOptions
  /-- The searchable fields as a set. -/
  searchable : FieldSet
deriving DecidableEq, Repr

namespace Schema

/-- The name of the primary key. -/
def primaryKey (schema : Schema) : String := schema.key.name

/-- The column of a name. -/
def column? (schema : Schema) (name : String) : Option Column :=
  schema.columns.find? fun column => column.name == name

/-- The names of the columns, in order. -/
def columnNames (schema : Schema) : List String := schema.columns.map Column.name

/-- Whether any field can be searched. -/
def isSearchable (schema : Schema) : Bool := !schema.searchable.isEmpty

/-- Whether the record can be listed without ids. -/
def allowsUnfilteredFetch (schema : Schema) : Bool := schema.options.allowUnfilteredFetch

/-! ## Validation -/

/-- Checks the columns from left to right, each name as an identifier and then against those
seen. -/
def checkColumns (record : String) : List String → List Column → Except SchemaError Unit
  | _, [] => pure ()
  | seen, column :: rest => do
      checkIdentifier column.name
      if seen.contains column.name then throw (.duplicateColumn record column.name)
      checkColumns record (column.name :: seen) rest

/-- Checks that a searchable field is a text column. -/
def checkSearchable (record : String) (columns : List Column) (field : String) :
    Except SchemaError Unit :=
  match columns.find? fun column => column.name == field with
  | none => throw (.unknownSearchField record field)
  | some column =>
      if column.type.isTextual then pure ()
      else throw (.nonTextualSearchField record field column.type.name)

/-- The table of a declaration. -/
def tableName (declaration : Declaration) : String :=
  declaration.table.getD (Text.lowercase declaration.name)

/-- Checks a declaration. -/
def ofDeclaration (declaration : Declaration) : Except SchemaError Schema := do
  let record := declaration.name
  checkIdentifier record
  checkIdentifier (tableName declaration)
  if declaration.columns.isEmpty then throw (.noColumns record)
  checkColumns record [] declaration.columns
  match declaration.columns.find? fun column => column.name == declaration.primaryKey with
  | none => throw (.unknownPrimaryKey record declaration.primaryKey)
  | some key =>
      let searchable ← FieldSet.declare record declaration.search.searchableFields
      searchable.fields.forM (checkSearchable record declaration.columns)
      if !searchable.isEmpty && !declaration.search.allowUnfilteredFetch then
        throw (.searchRequiresUnfilteredFetch record)
      pure ⟨record, tableName declaration, declaration.columns, key, declaration.search, searchable⟩

/-- The declaration that a schema amounts to, everything spelled out. -/
def toDeclaration (schema : Schema) : Declaration where
  name := schema.name
  table := some schema.table
  primaryKey := schema.primaryKey
  columns := schema.columns
  search := schema.options

end Schema
end FieldSearch
