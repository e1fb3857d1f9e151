import FieldSearch.Database.Knowledge
import FieldSearch.Database.NameOrder
import FieldSearch.Database.Statistics

/-!
# Settings

A database has a table for each of its settings, and for each question that it answers about its
tables and indexes. A setting may take an argument, as the table or index that it is asked about,
and the name of a schema; these are columns that are not shown. A setting that takes both takes the
schema only together with an argument, and shows both; one that takes a schema alone does not show
it.
-/

namespace FieldSearch.Database

/-- The description of a column as it is told: name, type, whether it is the key, and whether it is
hidden. -/
structure ToldColumn where
  name : String
  type : String
  isKey : Bool := false
  isHidden : Bool := false
deriving DecidableEq, Repr

/-- The columns of the tables that a database answers by itself, the catalogs excepted. -/
abbrev SystemColumns := String → Except Fault (Option (List SystemColumn))

/-- A setting, or a question. -/
structure Setting where
  name : String
  /-- The columns that it tells by itself. -/
  columns : List String
  takesArgument : Bool := false
  takesSchema : Bool := false
  /-- Whether the temporary schema is opened for an argument when no schema is named. -/
  opensTemporary : Option String → Bool := fun _ => false
  /-- What becomes of the database when the setting is asked for. -/
  effect : Settings → Option String → Database → Database := fun _ _ database => database
  answer : SystemColumns → Knowledge → Scope → Option String → Except Fault (List (List Cell))

namespace Setting

/-! ## Kinds of settings -/

/-- A setting with one value, in a column of its own name. -/
def single (name : String) (value : Knowledge → Cell) : Setting where
  name
  columns := [name]
  answer _ knowledge _ _ := pure [[value knowledge]]

/-- A number. -/
def number (name : String) (value : Int) : Setting := single name fun _ => .integer value

/-- A switch. -/
def switch (name : String) (isOn : Bool) : Setting := number name (if isOn then 1 else 0)

/-- A setting with one value that each schema has for itself, told in a given column. -/
def ofSchemaIn (column name : String) (value : Knowledge → Scope → Cell) : Setting where
  name
  columns := [column]
  takesSchema := true
  answer _ knowledge scope _ := pure [[value knowledge scope]]

/-- A setting with one value that each schema has for itself. -/
def ofSchema (name : String) (value : Knowledge → Scope → Cell) : Setting :=
  ofSchemaIn name name value

/-- A list that does not depend on anything but the database. -/
def list (name : String) (columns : List String) (rows : Knowledge → List (List Cell)) :
    Setting where
  name
  columns
  answer _ knowledge _ _ := pure (rows knowledge)

/-- A question about a table or an index of a schema. -/
def asked (name : String) (columns : List String)
    (rows : SystemColumns → Knowledge → Scope → String → Except Fault (List (List Cell))) :
    Setting where
  name
  columns
  takesArgument := true
  takesSchema := true
  answer system knowledge scope
    | some argument => rows system knowledge scope argument
    | none => pure []

/-! ## Switches and numbers -/

/-- The switches that are off. -/
def switchesOff : List String :=
  ["cell_size_check", "checkpoint_fullfsync", "count_changes", "defer_foreign_keys",
    "empty_result_callbacks", "full_column_names", "fullfsync", "ignore_check_constraints",
    "legacy_alter_table", "query_only", "read_uncommitted", "recursive_triggers",
    "reverse_unordered_selects", "secure_delete", "writable_schema"]

/-- The switches that are on. -/
def switchesOn : List String :=
  ["automatic_index", "foreign_keys", "short_column_names", "trusted_schema"]

/-- The limits and numbers that are zero. -/
def zeroNumbers : List String :=
  ["analysis_limit", "application_id", "hard_heap_limit", "soft_heap_limit", "temp_store",
    "threads", "user_version"]

/-- The names of all settings, those that have no table included. -/
def allNames : List String :=
  ["analysis_limit", "application_id", "auto_vacuum", "automatic_index", "busy_timeout",
    "cache_size", "cache_spill", "case_sensitive_like", "cell_size_check",
    "checkpoint_fullfsync", "collation_list", "compile_options", "count_changes", "data_version",
    "database_list", "default_cache_size", "defer_foreign_keys", "empty_result_callbacks",
    "encoding", "foreign_key_check", "foreign_key_list", "foreign_keys", "freelist_count",
    "full_column_names", "fullfsync", "function_list", "hard_heap_limit",
    "ignore_check_constraints", "incremental_vacuum", "index_info", "index_list", "index_xinfo",
    "integrity_check", "journal_mode", "journal_size_limit", "legacy_alter_table",
    "locking_mode", "max_page_count", "mmap_size", "module_list", "optimize", "page_count",
    "page_size", "pragma_list", "query_only", "quick_check", "read_uncommitted",
    "recursive_triggers", "reverse_unordered_selects", "schema_version", "secure_delete",
    "short_column_names", "shrink_memory", "soft_heap_limit", "synchronous", "table_info",
    "table_list", "table_xinfo", "temp_store", "temp_store_directory", "threads",
    "trusted_schema", "user_version", "wal_autocheckpoint", "wal_checkpoint", "writable_schema"]

/-- A value of the temporary schema, or another one. -/
def temporaryOr (temporary other : Cell) : Scope → Cell
  | .temporary => temporary
  | _ => other

/-- How the file of a schema is locked; what is in memory is locked for good, which is told only of
a schema that is named. -/
def lockingMode (knowledge : Knowledge) : Scope → String
  | .any => "normal"
  | .main => if knowledge.settings.file = "" then "exclusive" else "normal"
  | .temporary => "exclusive"

/-- The settings that each schema has for itself. -/
def schemaSettings : List Setting :=
  [.ofSchema "auto_vacuum" fun _ _ => .integer 0,
    .ofSchema "cache_size" fun _ => temporaryOr (.integer 0) (.integer (-2000)),
    .ofSchema "cache_spill" fun _ _ => .integer 483,
    .ofSchemaIn "cache_size" "default_cache_size" fun _ _ => .integer (-2000),
    .ofSchema "journal_mode" fun knowledge =>
      temporaryOr (.text "delete") (.text knowledge.settings.journal),
    .ofSchema "journal_size_limit" fun _ _ => .integer (-1),
    .ofSchema "locking_mode" fun knowledge scope => .text (lockingMode knowledge scope),
    .ofSchema "max_page_count" fun _ _ => .integer 4294967294,
    .ofSchema "page_count" fun knowledge =>
      temporaryOr (.integer 0) (.integer knowledge.layout.storage.size),
    .ofSchema "page_size" fun _ _ => .integer pageBytes,
    .ofSchema "synchronous" fun _ => temporaryOr (.integer 0) (.integer 2)]

/-- The settings of the whole database. -/
def globalSettings : List Setting :=
  [.list "busy_timeout" ["timeout"] fun knowledge =>
      [[.integer knowledge.settings.busyTimeoutMs]],
    .single "data_version" fun knowledge =>
      .integer (if knowledge.settings.journal == "wal" then 2 else 1),
    .single "encoding" fun _ => .text "UTF-8",
    .single "freelist_count" fun knowledge =>
      .integer knowledge.layout.storage.free.length,
    .single "schema_version" fun knowledge => .integer knowledge.database.version]

/-! ## Questions about tables and indexes -/

/-- The columns of a table that was created. -/
def toldColumns (table : Table) : List ToldColumn :=
  table.columns.zipIdx.map fun (column, index) =>
    { name := column.name, type := column.affinity.keyword, isKey := index == table.key }

/-- A column of a table that the database answers by itself. -/
def toldColumn (column : SystemColumn) : ToldColumn :=
  { name := column.name, type := column.type, isHidden := column.isHidden }

/-- The columns of the table that a name stands for in a schema. Where no table of the schema has
the name it may be one that the database answers by itself, whatever the schema. -/
def columnsOf? (system : SystemColumns) (knowledge : Knowledge) (scope : Scope) (name : String) :
    Except Fault (Option (List ToldColumn)) :=
  let created := if scope = .temporary then none else knowledge.database.table? name
  match created, catalogScope? scope name with
  | some table, _ => pure (some (toldColumns table))
  | none, some _ => pure (some (catalogColumns.map toldColumn))
  | none, none => do pure ((← system name).map fun columns => columns.map toldColumn)

/-- A column as a row. -/
def columnRow (column : ToldColumn) (index : Nat) : List Cell :=
  [.integer index, .text column.name, .text column.type, .integer 0, .null,
    .integer (if column.isKey then 1 else 0)]

/-- The columns of a table, those that are hidden left out. -/
def tableInfo (system : SystemColumns) (knowledge : Knowledge) (scope : Scope) (name : String) :
    Except Fault (List (List Cell)) := do
  let columns := (← columnsOf? system knowledge scope name).getD []
  pure ((columns.filter fun column => !column.isHidden).zipIdx.map fun (column, index) =>
    columnRow column index)

/-- All columns of a table. -/
def fullTableInfo (system : SystemColumns) (knowledge : Knowledge) (scope : Scope)
    (name : String) : Except Fault (List (List Cell)) := do
  let columns := (← columnsOf? system knowledge scope name).getD []
  pure (columns.zipIdx.map fun (column, index) =>
    columnRow column index ++ [.integer (if column.isHidden then 1 else 0)])

/-- The created tables that a schema holds. -/
def tablesOf (knowledge : Knowledge) : Scope → List Table
  | .temporary => []
  | _ => knowledge.database.tables

/-- The indexes of a table. -/
def indexList (knowledge : Knowledge) (scope : Scope) (name : String) : List (List Cell) :=
  (tablesOf knowledge scope).filterMap fun table =>
    if Text.sameIgnoringAsciiCase table.name name && table.hasIndex then
      some [.integer 0, .text table.indexName, .integer 1, .text "pk", .integer 0]
    else none

/-- The table that has an index of a name. Where there is no such index the name may yet be that of
a table, so that a table that cannot be used is a fault. -/
def indexed? (system : SystemColumns) (knowledge : Knowledge) (scope : Scope) (name : String) :
    Except Fault (Option Table) := do
  let found := (tablesOf knowledge scope).find? fun table =>
    Text.sameIgnoringAsciiCase table.indexName name && table.hasIndex
  if found.isNone then discard (columnsOf? system knowledge scope name)
  pure found

/-- The columns of an index. -/
def indexInfo (system : SystemColumns) (knowledge : Knowledge) (scope : Scope) (name : String) :
    Except Fault (List (List Cell)) := do
  match ← indexed? system knowledge scope name with
  | some table => pure [[.integer 0, .integer table.key, .text table.keyName]]
  | none => pure []

/-- The columns of an index, the number of the row that stands behind them included. -/
def fullIndexInfo (system : SystemColumns) (knowledge : Knowledge) (scope : Scope)
    (name : String) : Except Fault (List (List Cell)) := do
  match ← indexed? system knowledge scope name with
  | some table =>
      pure [[.integer 0, .integer table.key, .text table.keyName, .integer 0, .text "BINARY",
          .integer 1],
        [.integer 1, .integer (-1), .null, .integer 0, .text "BINARY", .integer 0]]
  | none => pure []

/-- Gives up unless a name stands for a table in a schema. -/
def checkTable (system : SystemColumns) (knowledge : Knowledge) (scope : Scope) (name : String) :
    Except Fault Unit := do
  if (← columnsOf? system knowledge scope name).isNone then
    throw (.noSuchTable (match scope with
      | .any => name
      | .main => "main." ++ name
      | .temporary => "temp." ++ name))

/-- A check of the whole database or of one table, in which nothing is ever found. -/
def check (name : String) : Setting where
  name
  columns := [name]
  takesArgument := true
  takesSchema := true
  opensTemporary := fun _ => true
  answer system knowledge scope argument := do
    if let some argument := argument then checkTable system knowledge scope argument
    pure [[.text "ok"]]

/-- A table in the list of tables. -/
def listedTable (schema name : String) (columns : Nat) : List Cell :=
  [.text schema, .text name, .text "table", .integer columns, .integer 0, .integer 0]

/-- The names of the tables of a database, its catalog included, in the order in which they are gone
through. -/
def tableOrder (database : Database) : List String :=
  (NameOrder.ofList (catalogName :: database.tables.map Table.name)).names

/-- The tables of the database with the names that they are listed under, in the order of their
names. -/
def listedTables (knowledge : Knowledge) : List (String × List Cell) :=
  let main := (tableOrder knowledge.database).map fun name =>
    match knowledge.database.table? name with
    | some table => (name, listedTable "main" name table.columns.length)
    | none => (name, listedTable "main" "sqlite_schema" catalogColumns.length)
  main ++ [(temporaryCatalogName, listedTable "temp" "sqlite_temp_schema" catalogColumns.length)]

/-- The list of tables, or those of one name. -/
def tableList : Setting where
  name := "table_list"
  columns := ["schema", "name", "type", "ncol", "wr", "strict"]
  takesArgument := true
  answer _ knowledge _ argument :=
    pure (((listedTables knowledge).filter fun entry =>
      argument.all (Text.sameIgnoringAsciiCase entry.1)).map Prod.snd)

/-- The questions. -/
def questions : List Setting :=
  [.check "integrity_check", .check "quick_check", tableList,
    .asked "foreign_key_check" ["table", "rowid", "parent", "fkid"]
      fun system knowledge scope name => do
        checkTable system knowledge scope name
        pure [],
    .asked "foreign_key_list"
      ["id", "seq", "table", "from", "to", "on_update", "on_delete", "match"]
      fun _ _ _ _ => pure [],
    .asked "index_info" ["seqno", "cid", "name"] indexInfo,
    { Setting.asked "index_list" ["seq", "name", "unique", "origin", "partial"]
        fun _ knowledge scope name => pure (indexList knowledge scope name) with
      opensTemporary := fun argument =>
        (argument.bind (catalogScope? .any)) == some .temporary },
    .asked "index_xinfo" ["seqno", "cid", "name", "desc", "coll", "key"] fullIndexInfo,
    .asked "table_info" ["cid", "name", "type", "notnull", "dflt_value", "pk"] tableInfo,
    .asked "table_xinfo" ["cid", "name", "type", "notnull", "dflt_value", "pk", "hidden"]
      fullTableInfo]

/-! ## Settings as tables -/

/-- The columns that a setting tells by itself. -/
def shownColumns (setting : Setting) : List SystemColumn :=
  setting.columns.map fun name => { name }

/-- All columns of a setting. -/
def allColumns (setting : Setting) : List SystemColumn :=
  setting.shownColumns ++
    (if setting.takesArgument then [{ name := "arg", isHidden := true }] else []) ++
    (if setting.takesSchema then [{ name := "schema", isHidden := true }] else [])

/-- The place of the argument among the columns. -/
def argumentColumn (setting : Setting) : Nat := setting.columns.length

/-- The place of the schema among the columns. -/
def schemaColumn (setting : Setting) : Nat :=
  setting.columns.length + (if setting.takesArgument then 1 else 0)

/-- The text that a question gives for the argument. -/
def argument? (setting : Setting) (question : Question) : Option String :=
  if setting.takesArgument then question.text? setting.argumentColumn else none

/-- The text that a question gives for the schema. -/
def schema? (setting : Setting) (question : Question) : Option String :=
  if setting.takesSchema then question.text? setting.schemaColumn else none

/-- The values of the columns that are not shown. -/
def hiddenCells (setting : Setting) (question : Question) : List Cell :=
  let cell (text : Option String) : Cell := (text.map Cell.text).getD .null
  match setting.takesArgument, setting.takesSchema with
  | true, true => [cell (setting.argument? question), cell (setting.schema? question)]
  | true, false => [cell (setting.argument? question)]
  | false, true => [.null]
  | false, false => []

/-- The schema that a question is about. -/
def scope (setting : Setting) (question : Question) : Except Fault Scope :=
  match setting.schema? question with
  | none => pure .any
  | some name =>
      match Scope.ofName? name with
      | some scope => pure scope
      | none => throw (.unknownSchema (quoteText name))

/-- The rows with which a question is answered. -/
def rows (setting : Setting) (system : SystemColumns) (knowledge : Knowledge)
    (question : Question) : Except Fault (List Row) := do
  let scope ← setting.scope question
  let rows ← setting.answer system knowledge scope (setting.argument? question)
  pure (rows.zipIdx.map fun (cells, index) =>
    ⟨index + 1, cells ++ setting.hiddenCells question⟩)

/-- Whether the temporary schema is opened when a question is answered. -/
def opens (setting : Setting) (question : Question) : Bool :=
  match setting.scope question with
  | .ok .temporary => true
  | .ok .any => setting.opensTemporary (setting.argument? question)
  | _ => false

/-- A setting as a table under a name. -/
def toTable (setting : Setting) (system : SystemColumns) (knowledge : Knowledge)
    (name : String) : SystemTable where
  name
  columns := setting.allColumns
  taking :=
    { columns :=
        (if setting.takesArgument then [setting.argumentColumn] else []) ++
          (if setting.takesSchema then [setting.schemaColumn] else []) }
  answer := setting.rows system knowledge
  opensTemporary := setting.opens
  effect question := setting.effect knowledge.settings (setting.argument? question)

end Setting
end FieldSearch.Database
