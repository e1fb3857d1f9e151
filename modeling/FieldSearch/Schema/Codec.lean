import FieldSearch.Schema.Basic

/-!
# Record types in JSON

A schema is written as the declaration that it amounts to, and read as a declaration that is then
checked; a refused declaration is reported with the wording of its fault.
-/

namespace FieldSearch

open Json (Decoder)

/-- Reads a column type by its name. -/
def ColumnType.decoder : Decoder ColumnType := .choice ColumnType.named

/-- The name of a column type. -/
def ColumnType.toJson (type : ColumnType) : Json := .text type.name

/-- Reads a column. -/
def Column.decoder : Decoder Column :=
  .struct "struct ColumnDef" ⟨"", .text⟩ [
    .required "name" .text fun name column => { column with name },
    .required "type" ColumnType.decoder fun type column => { column with type }]

/-- A column as an object. -/
def Column.toJson (column : Column) : Json :=
  .object [("name", .text column.name), ("type", column.type.toJson)]

/-- Reads search options; none of them has to be given. -/
def SearchOptions.decoder : Decoder SearchOptions :=
  .struct "struct SearchOptions" {} [
    .defaulted "searchable_fields" (.list .text) fun searchableFields options =>
      { options with searchableFields },
    .defaulted "allow_unfiltered_fetch" .bool fun allowUnfilteredFetch options =>
      { options with allowUnfilteredFetch }]

/-- Search options as an object. -/
def SearchOptions.toJson (options : SearchOptions) : Json :=
  .object [("allow_unfiltered_fetch", .bool options.allowUnfilteredFetch),
    ("searchable_fields", .list (options.searchableFields.map .text))]

/-- Reads a declaration: the name and the columns have to be given. -/
def Declaration.decoder : Decoder Declaration :=
  .struct "struct RecordSchemaDef" { name := "" } [
    .required "name" .text fun name declaration => { declaration with name },
    .defaulted "table" (.optional .text) fun table declaration => { declaration with table },
    .defaulted "primary_key" .text fun primaryKey declaration =>
      { declaration with primaryKey },
    .required "columns" (.list Column.decoder) fun columns declaration =>
      { declaration with columns },
    .defaulted "search" SearchOptions.decoder fun search declaration =>
      { declaration with search }]

/-- A declaration as an object. -/
def Declaration.toJson (declaration : Declaration) : Json :=
  .object [("columns", .list (declaration.columns.map Column.toJson)),
    ("name", .text declaration.name),
    ("primary_key", .text declaration.primaryKey),
    ("search", declaration.search.toJson),
    ("table", Json.ofText? declaration.table)]

/-- Reads a schema. -/
def Schema.decoder : Decoder Schema :=
  Declaration.decoder.verify fun declaration =>
    (Schema.ofDeclaration declaration).mapError SchemaError.message

/-- A schema as an object. -/
def Schema.toJson (schema : Schema) : Json := schema.toDeclaration.toJson

end FieldSearch
