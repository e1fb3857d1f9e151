import FieldSearch.Database.Access
import FieldSearch.Logged
import FieldSearch.Search.Backend
import FieldSearch.Store.Error
import FieldSearch.Store.Location
import FieldSearch.Store.Pool
import FieldSearch.Store.Statement

/-!
# Stores

A store keeps records. One kind keeps them in a database, in memory or in a file; the other, a
recorder, keeps a record of the statements that it is given and answers with rows laid down in
advance. What is read of a database is read by the types of the record type, and a cell of another
kind is a fault.

## Main results

* `afterFetch_of_table?`: reading a created table leaves everything as it is.
-/

namespace FieldSearch

/-! ## Reading rows -/

/-- The value of a cell in a column of a type; whole numbers are read as floats and truth values. -/
def ColumnType.read? : ColumnType → Database.Cell → Option Json
  | _, .null => some .null
  | .text, .text value => some (.text value)
  | .integer, .integer value => some (.integer value)
  | .float, .integer value => some (.real (Number.Binary64.ofInt value))
  | .float, .real value => some (if value.isFinite then .real value else .null)
  | .boolean, .integer value => some (.bool (value != 0))
  | _, _ => none

/-- Why a cell cannot be read in a column of a type. -/
def unreadable (index : Nat) (name : String) (type : ColumnType) (cell : Database.Cell) :
    Database.Fault :=
  match type, cell with
  | .text, .broken bytes =>
      match Text.Utf8.decode bytes with
      | .error fault => .brokenText index fault
      | .ok _ => .invalidColumnType cell.kind index name
  | _, _ => .invalidColumnType cell.kind index name

/-- The record of a row: its cells, under the names by which they are reported, in the order of the
columns. -/
def readRow : Nat → Record → List Column → List (String × Database.Cell) →
    Except Database.Fault Record
  | _, record, [], _ => pure record
  | _, record, _, [] => pure record
  | index, record, column :: columns, (name, cell) :: cells =>
      match column.type.read? cell with
      | some value => readRow (index + 1) (record.set column.name value) columns cells
      | none => throw (unreadable index name column.type cell)

/-! ## Databases behind a pool -/

/-- A store in a database, in memory or in a file. -/
structure FileStore where
  path : String
  options : FileOptions := {}
  location : Location := {}
  /-- Why the database cannot be opened, if it cannot. -/
  refusal : Option OpeningFault := none
  database : Database := {}
  connection : Database.Connection := {}

namespace FileStore

/-- Whether a path stands for a database in memory. -/
def isMemoryPath (path : String) : Bool := path == Location.memoryPath

/-- Whether the database is in memory. -/
def inMemory (store : FileStore) : Bool := isMemoryPath store.path

/-- The pool of the store. -/
def pool (store : FileStore) : PoolSettings := store.options.pool store.inMemory

/-- What the database is told when it is opened. -/
def settings (store : FileStore) : Database.Settings where
  file := store.location.file.getD ""
  busyTimeoutMs := store.options.busyTimeoutMs
  journal :=
    if store.location.file.isNone then "memory"
    else if store.options.writeAheadLog && store.location.keepsLog then "wal"
    else "delete"
  isReadOnly := store.location.readOnly

/-- What answers are drawn from. -/
def knowledge (store : FileStore) : Database.Knowledge :=
  ⟨store.settings, store.connection, store.database⟩

/-- The store opened anew. -/
def reopened (store : FileStore) : FileStore := { store with connection := {} }

/-- The store of a path. -/
def ofPath (path : String) (options : FileOptions) : FileStore :=
  match Location.ofPath path with
  | .ok location => { path, options, location }
  | .error fault => { path, options, refusal := some fault }

/-- The store of a path on a machine without files that could be opened. -/
def nowhere (path : String) (options : FileOptions) : FileStore :=
  let store := ofPath path options
  if store.location.file.isNone then store
  else { store with refusal := some (.unreachable path) }

/-- Whether a connection is opened and told how long to wait. -/
def connects (store : FileStore) : Bool := store.refusal.all OpeningFault.isOfConnection

/-- The fault of a database that cannot be opened. What is wrong on a connection is not found where
none can be told how long to wait. -/
def unreachable (store : FileStore) : StorageError :=
  let found := store.refusal.filter fun fault => store.pool.canConnect || !fault.isOfConnection
  let reason := (found.map fun fault => ": " ++ fault.message).getD ""
  .backend (.connectionFailed "sqlite" ("timed out waiting for connection" ++ reason))

/-- Whether connections can be had: the database can be opened, and it can be told how long to wait
for a lock. -/
def isReachable (store : FileStore) : Bool := store.refusal.isNone && store.pool.canConnect

/-- Opens a store: the connections that are kept are opened at once. -/
def open? (store : FileStore) : Logged StorageError FileStore := do
  if !store.pool.isAdmissible || (!store.isReachable && 0 < store.pool.idle) then
    .fail store.unreachable
  .report .info "SQLite backend initialized"
    [("path", .text store.path), ("is_memory", .bool store.inMemory),
      ("max_connections", .integer store.pool.size)]
  pure store

/-- Opens a store; if the pool does not take its settings, the program stops instead. -/
def launch? (store : FileStore) : Option (Logged StorageError FileStore) :=
  if store.pool.isAdmissible then some store.open? else none

/-- The store as it is shown. -/
def describe (store : FileStore) : String :=
  s!"SqliteBackend \x7b config: {store.options.describe}, is_memory: {store.inMemory}, " ++
  s!"pool_size: {store.pool.idle}, .. \x7d"

/-- A fault of the database. -/
def fault (fault : Database.Fault) : StorageError := .backend (.ofDatabase fault)

/-- The records of a selection. -/
def fetchRecords (store : FileStore) (schema : Schema) (prepared : Prepared) :
    Except StorageError (List Record) :=
  if !store.isReachable then throw store.unreachable
  else
    match prepared.fault? with
    | some broken => throw (fault broken)
    | none => do
        let rows ← (store.knowledge.select prepared.select).mapError fault
        (rows.mapM (readRow 0 .empty schema.columns)).mapError fault

/-- The store after a selection. -/
def afterFetch (store : FileStore) (prepared : Prepared) : FileStore :=
  if store.isReachable && prepared.fault?.isNone then
    let after := store.knowledge.afterSelect prepared.select
    { store with connection := after.connection, database := after.database }
  else store

theorem afterFetch_of_table? {store : FileStore} {prepared : Prepared} {table : Database.Table}
    (h : store.database.table? prepared.select.table = some table) :
    store.afterFetch prepared = store := by
  have hAfter : store.knowledge.afterSelect prepared.select = store.knowledge :=
    Database.Knowledge.afterSelect_of_table? h
  unfold afterFetch
  split
  · simp only [hAfter]
    rfl
  · rfl

/-- Reads the records of a selection. -/
def fetch (store : FileStore) (schema : Schema) (prepared : Prepared) :
    Logged StorageError (List Record) := do
  let records ← .of (store.fetchRecords schema prepared)
  .report .debug "SQLite fetch complete"
    [("table", .text schema.table), ("rows", .integer records.length)]
  pure records

/-- What a change of the database comes to where it must not be changed: what is wrong with the
statement is found before, and what is wrong with a row is not. -/
def refuseChange (before : Database) (result : Except Database.Fault Database) :
    Except Database.Fault Database :=
  match result with
  | .ok after => if after = before then result else throw .readOnlyDatabase
  | .error fault => throw (if fault.isOfRow then .readOnlyDatabase else fault)

/-- Carries out a change of the database. -/
def change (store : FileStore) (command : Database.Command) :
    Except StorageError Unit × FileStore :=
  if !store.isReachable then (throw store.unreachable, store)
  else
    let result := store.knowledge.run command
    let store := { store with connection := store.knowledge.afterRun command }
    match if store.location.readOnly then refuseChange store.database result else result with
    | .ok database => (pure (), { store with database })
    | .error broken => (throw (fault broken), store)

end FileStore

/-! ## Recorders -/

/-- What a recorder was asked to do. -/
inductive CallKind where
  | fetch
  | execute
deriving DecidableEq, Repr

/-- A statement that a recorder was given. -/
structure Call where
  kind : CallKind
  fragment : Sql.Fragment
deriving DecidableEq, Repr

/-- A store that records statements. -/
structure Recorder where
  backend : Backend
  capabilities : List Capability
  /-- The records that every request is answered with. -/
  rows : List Record := []
  /-- The fault that every call meets with. -/
  failure : Option String := none
  calls : List Call := []

namespace Recorder

/-- Records a call. -/
def call (recorder : Recorder) (kind : CallKind) (fragment : Sql.Fragment) :
    Except StorageError Unit × Recorder :=
  (match recorder.failure with
    | some reason => throw (.backend (.internal recorder.backend.name reason []))
    | none => pure (),
    { recorder with calls := recorder.calls ++ [⟨kind, fragment⟩] })

/-- Records a request and answers it. -/
def fetch (recorder : Recorder) (prepared : Prepared) :
    Except StorageError (List Record) × Recorder :=
  let (answer, next) := recorder.call .fetch prepared.fragment
  (answer.map fun _ => recorder.rows, next)

end Recorder

/-! ## Stores -/

/-- A store of either kind. -/
inductive Store where
  | file (store : FileStore)
  | recorder (recorder : Recorder)

namespace Store

/-- The backend of a store. -/
def backend : Store → Backend
  | .file _ => .sqlite
  | .recorder recording => recording.backend

/-- The name of a store. -/
def name : Store → String
  | .file _ => "sqlite"
  | .recorder _ => "mock"

/-- What a store can do. -/
def capabilities : Store → List Capability
  | .file _ => Backend.sqlite.capabilities
  | .recorder recording => recording.capabilities

/-- Whether a store can do something. -/
def supports (store : Store) (capability : Capability) : Bool :=
  store.capabilities.contains capability

/-- What a store can do for a search. -/
def searchCapabilities (store : Store) : SearchCapabilities := .ofList store.capabilities

/-- The dialect in which a store is spoken to. -/
def dialect (store : Store) : Sql.Dialect := store.backend.dialect

/-- Reads the records of a selection. -/
def fetch (store : Store) (schema : Schema) (prepared : Prepared) :
    Logged StorageError (List Record) × Store :=
  match store with
  | .file files => (files.fetch schema prepared, .file (files.afterFetch prepared))
  | .recorder recording =>
      let (answer, next) := recording.fetch prepared
      (.of answer, .recorder next)

/-- Carries out a change: as a change of the database, or as a statement to be recorded. -/
def execute (store : Store) (command : Database.Command) : Except StorageError Unit × Store :=
  match store with
  | .file files =>
      let (answer, next) := files.change command
      (answer, .file next)
  | .recorder recording =>
      let dialect := recording.backend.dialect
      let writer : Sql.Writer := { dialect }
      let (answer, next) := recording.call .execute (writer.render (command.template dialect))
      (answer, .recorder next)

/-- Creates the table of a record type unless it is there. -/
def ensureTable (store : Store) (schema : Schema) : Except StorageError Unit × Store :=
  store.execute (.create schema.createTable)

/-- Stores a record. -/
def insert (store : Store) (schema : Schema) (record : Record) :
    Except StorageError Unit × Store :=
  match schema.insertion record with
  | .error error => (throw (.query error), store)
  | .ok row => store.execute (.insert row)

end Store
end FieldSearch
