import FieldSearch.Database.JsonTable
import FieldSearch.Database.SettingList
import FieldSearch.Database.TokenTable
import FieldSearch.Database.Usage

/-!
# Access to a database

A statement names a table. That is one that was created, or else one that the database answers by
itself, and these cannot be changed. To name the table of a setting and to open the temporary
schema leaves a trace in the connection, whether or not the statement can be carried out.

## Main results

* `source_of_table?`: a created table is found before any other.
* `insert_of_table?`, `select_of_table?`: what statements on a created table come to.
* `afterSelect_of_table?`: a selection from a created table leaves no trace.
-/

namespace FieldSearch.Database

/-- A change that a database is asked for. -/
inductive Command where
  | create (statement : CreateTable)
  | insert (statement : Insert)

/-- The statement of a change in a dialect. -/
def Command.template (dialect : Sql.Dialect) : Command → Sql.Template
  | .create statement => statement.template dialect
  | .insert statement => statement.template

/-- What the name of a table stands for. -/
inductive Source where
  | created (table : Table)
  | system (table : SystemTable)

/-! ## Tables that are always there -/

/-- The tables, settings and catalogs excepted, that a database answers by itself, under their names
in small letters. -/
def standingTables (layout : Thunk Layout) (tables : List Table) : List SystemTable :=
  [JsonTable.table false, JsonTable.table true, UsageTable.table layout tables, TokenTable.table]

/-- The kinds of tables that are of no use without arguments. -/
def kindsWithArguments : List String := ["fts4aux"]

/-- The standing table of a name. -/
def standingTable? (layout : Thunk Layout) (tables : List Table) (name : String) :
    Except Fault (Option SystemTable) :=
  let lower := Text.asciiLowercase name
  if kindsWithArguments.contains lower then throw (.invalidArguments lower)
  else pure ((standingTables layout tables).find? fun table => table.name == lower)

/-- The columns of the tables that a database answers by itself, catalogs excepted. -/
def systemColumns : SystemColumns := fun name => do
  match ← standingTable? Layout.opened [] name with
  | some table => pure (some table.columns)
  | none => pure (Setting.columnsOfTable? name)

/-- The selected cells of a row with the names under which they are reported. -/
def Table.project (table : Table) (columns : List String) (row : Row) : List (String × Cell) :=
  columns.map fun name =>
    let target := table.resolve name
    (table.reportedName target, target.value row)

namespace Knowledge

/-- The table of a name that the database answers by itself. -/
def systemTable? (knowledge : Knowledge) (name : String) : Except Fault (Option SystemTable) := do
  match catalogScope? .any name with
  | some scope => pure (some (knowledge.database.catalogTable scope))
  | none =>
      match ← standingTable? knowledge.layout knowledge.database.tables name with
      | some table => pure (some table)
      | none =>
          let shown := (knowledge.connection.spelling? name).getD name
          pure ((Setting.ofTable? name).map fun setting =>
            setting.toTable systemColumns knowledge shown)

/-- What a name stands for. -/
def source (knowledge : Knowledge) (name : String) : Except Fault Source :=
  match knowledge.database.table? name with
  | some table => pure (.created table)
  | none => do
      match ← knowledge.systemTable? name with
      | some table => pure (.system table)
      | none => throw (.noSuchTable name)

theorem source_of_table? {knowledge : Knowledge} {name : String} {table : Table}
    (h : knowledge.database.table? name = some table) :
    knowledge.source name = .ok (.created table) := by
  simp [source, h, pure, Except.pure]

/-! ## Statements -/

/-- What is known once a statement has named a table: the name of a setting is come upon. -/
def naming (knowledge : Knowledge) (name : String) : Knowledge :=
  if (knowledge.database.table? name).isNone && (Setting.ofTable? name).isSome then
    { knowledge with connection := knowledge.connection.visit name }
  else knowledge

/-- What a change of the database comes to. -/
def run (knowledge : Knowledge) : Command → Except Fault Database
  | .create statement => knowledge.database.create statement
  | .insert statement => do
      match ← (knowledge.naming statement.table).source statement.table with
      | .created table => knowledge.database.insertInto table statement
      | .system table => throw (.readOnlyTable table.name)

/-- The connection after a change of the database. -/
def afterRun (knowledge : Knowledge) : Command → Connection
  | .create _ => knowledge.connection
  | .insert statement => (knowledge.naming statement.table).connection

/-- The rows of a selection. -/
def select (knowledge : Knowledge) (select : Select) :
    Except Fault (List (List (String × Cell))) := do
  let source ← (knowledge.naming select.table).source select.table
  if maxColumns < select.columns.length then throw .tooManyResultColumns
  let (table, rows) ← match source with
    | .created table => do pure (table, ← table.select select)
    | .system table => table.select select
  pure (rows.map (table.project select.columns))

/-- The questions that a selection asks, with the table that answers them. -/
def asked (knowledge : Knowledge) (select : Select) : Option (SystemTable × List Question) :=
  match knowledge.source select.table with
  | .ok (.system table) =>
      if maxColumns < select.columns.length then some (table, [])
      else some (table, (table.questions select).toOption.getD [])
  | _ => none

/-- What is known after questions have been asked. -/
def afterQuestions (knowledge : Knowledge) (table : SystemTable) (questions : List Question) :
    Knowledge :=
  let opens := table.name == temporaryCatalogName || questions.any table.opensTemporary
  { knowledge with
    connection := if opens then { knowledge.connection with hasTemporary := true }
      else knowledge.connection
    database := questions.foldl (fun database question => table.effect question database)
      knowledge.database }

/-- What is known after a selection. -/
def afterSelect (knowledge : Knowledge) (select : Select) : Knowledge :=
  let named := knowledge.naming select.table
  match named.asked select with
  | some (table, questions) => named.afterQuestions table questions
  | none => named

theorem naming_of_table? {knowledge : Knowledge} {name : String} {table : Table}
    (h : knowledge.database.table? name = some table) : knowledge.naming name = knowledge := by
  simp [naming, h]

theorem afterSelect_of_table? {knowledge : Knowledge} {select : Select} {table : Table}
    (h : knowledge.database.table? select.table = some table) :
    knowledge.afterSelect select = knowledge := by
  simp [afterSelect, naming_of_table? h, asked, source_of_table? h]

theorem insert_of_table? {knowledge : Knowledge} {statement : Insert} {table : Table}
    (h : knowledge.database.table? statement.table = some table) :
    knowledge.run (.insert statement) = knowledge.database.insertInto table statement := by
  simp only [run, naming_of_table? h, source_of_table? h]
  rfl

theorem select_of_table? {knowledge : Knowledge} {select : Select} {table : Table}
    (h : knowledge.database.table? select.table = some table)
    (hColumns : select.columns.length ≤ maxColumns) :
    knowledge.select select =
      (table.select select).map fun rows => rows.map (table.project select.columns) := by
  simp only [Knowledge.select, naming_of_table? h, source_of_table? h, Nat.not_lt.mpr hColumns]
  cases hRows : table.select select <;>
    simp [hRows, bind, Except.bind, pure, Except.pure, Except.map]

end Knowledge
end FieldSearch.Database
