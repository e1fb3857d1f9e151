import FieldSearch.Proofs.Query.Lookup
import Mathlib

/-!
# Runs of a store

A store is asked to create its table, to store records and to answer requests, in
any order.  An operation either stores a record, and then the row of the record is
put in its place among the others, or it leaves the whole store as it was: that
holds of creating the table again, of every request, and of every insertion that
is refused.  So after any run the rows are those that were there before and one
for each record that was stored.

## Main results

* `ensureTable_eq`, `insert_cases`: what creating the table again and inserting a
  record come to.
* `after_cases`: what one operation does.
* `Serves.run`: what a run does.
-/

namespace FieldSearch

open Database (Cell Row Table)

/-! ## Operations -/

/-- Something that a store is asked to do. -/
inductive Operation where
  | ensureTable
  | insert (record : Record)
  | list (resolver : Resolver) (request : ListRequest)
  | lookup (resolver : Resolver) (id : RecordId)

namespace Store

/-- The store after an operation, whatever came of it. -/
def after (schema : Schema) (store : Store) : Operation → Store
  | .ensureTable => (store.ensureTable schema).2
  | .insert record => (store.insert schema record).2
  | .list resolver request => (resolver.list store schema request).2
  | .lookup resolver id => (resolver.lookup store schema id).2

/-- The record that an operation stores, if it stores one. -/
def stored? (schema : Schema) (store : Store) : Operation → Option Record
  | .insert record =>
      match (store.insert schema record).1 with
      | .ok () => some record
      | .error _ => none
  | _ => none

/-- The records that operations store, one after the other, and the store after them. -/
def run (schema : Schema) : Store → List Operation → List Record × Store
  | store, [] => ([], store)
  | store, operation :: rest =>
      let (records, last) := run schema (store.after schema operation) rest
      ((store.stored? schema operation).toList ++ records, last)

end Store

/-- The row is one that the record got in a table. -/
def Schema.IsRowOf (schema : Schema) (record : Record) (row : Row) : Prop :=
  (∃ statement, schema.insertion record = .ok statement) ∧
    ∃ table, row = schema.nextRow table record

/-! ## Tables of a database -/

/-- Once a table has been replaced by one of its name, that one is found where it was found. -/
theorem Database.table?_replace (database : Database) (next : Table) (name : String) :
    (database.replace next).table? name = (database.table? name).map fun other =>
      if Text.sameIgnoringAsciiCase other.name next.name then next else other := by
  have hPredicate : ((fun other : Table => Text.sameIgnoringAsciiCase other.name name) ∘
      fun other => if Text.sameIgnoringAsciiCase other.name next.name then next else other) =
      fun other => Text.sameIgnoringAsciiCase other.name name := by
    funext other
    simp only [Function.comp_apply]
    split
    next hOther =>
      have hLower : Text.asciiLowercase other.name = Text.asciiLowercase next.name :=
        beq_iff_eq.mp hOther
      rw [Text.sameIgnoringAsciiCase, Text.sameIgnoringAsciiCase, hLower]
    · rfl
  rw [table?, table?, replace, List.find?_map, hPredicate]

theorem Database.insertInto_eq_ok {database : Database} {name : String} {table next : Table}
    {statement : Insert} {number : Int} (hFound : database.table? name = some table)
    (hInsert : table.insert statement = .ok (number, next)) (hName : next.name = table.name) :
    ∃ changed, database.insertInto table statement = .ok changed ∧
      changed.table? name = some next := by
  refine ⟨_, bind_eq_ok.mpr ⟨_, hInsert, rfl⟩, ?_⟩
  have hReplaced := database.table?_replace next name
  rwa [hFound, Option.map_some, hName, Text.sameIgnoringAsciiCase_refl, if_pos rfl] at hReplaced

theorem Database.insertInto_eq_error {database : Database} {table : Table} {statement : Insert}
    {broken : Fault} (hInsert : table.insert statement = .error broken) :
    database.insertInto table statement = .error broken :=
  bind_eq_error.mpr (.inl hInsert)

/-! ## Stores that serve a record type -/

namespace FileStore

variable {files : FileStore} {schema : Schema} {table : Table} {record : Record}

/-- The store can be used, and keeps the records of a type in a table of theirs. -/
structure Serves (files : FileStore) (schema : Schema) (table : Table) : Prop where
  reachable : files.isReachable = true
  writable : files.location.readOnly = false
  unreserved : Database.isReserved schema.table = false
  found : files.database.table? schema.table = some table
  made : schema.HasTable table
  stored : schema.Stored table

/-- A store that can be used carries a change out on its database, or stays as it is. -/
theorem change_eq {command : Database.Command} (hReachable : files.isReachable = true)
    (hWritable : files.location.readOnly = false)
    (hConnection : files.knowledge.afterRun command = files.connection) :
    files.change command =
      match files.knowledge.run command with
      | .ok database => (.ok (), { files with database })
      | .error broken => (.error (fault broken), files) := by
  unfold change
  rw [hReachable]
  simp only [Bool.not_true, Bool.false_eq_true, if_false, hWritable, hConnection]
  cases files.knowledge.run command <;> rfl

theorem change_eq_ok {command : Database.Command} {database : Database}
    (hReachable : files.isReachable = true) (hWritable : files.location.readOnly = false)
    (hRun : files.knowledge.run command = .ok database)
    (hConnection : files.knowledge.afterRun command = files.connection) :
    files.change command = (.ok (), { files with database }) := by
  rw [change_eq hReachable hWritable hConnection, hRun]

theorem change_eq_error {command : Database.Command} {broken : Database.Fault}
    (hReachable : files.isReachable = true) (hWritable : files.location.readOnly = false)
    (hRun : files.knowledge.run command = .error broken)
    (hConnection : files.knowledge.afterRun command = files.connection) :
    files.change command = (.error (fault broken), files) := by
  rw [change_eq hReachable hWritable hConnection, hRun]

/-- Creating a table comes to what it comes to in the database. -/
theorem ensureTable_eq_ok {database : Database} (hReachable : files.isReachable = true)
    (hWritable : files.location.readOnly = false)
    (hCreate : files.database.create schema.createTable = .ok database) :
    (Store.file files).ensureTable schema = (.ok (), .file { files with database }) := by
  have hRun : files.knowledge.run (.create schema.createTable) = .ok database := hCreate
  rw [Store.ensureTable, Store.execute, change_eq_ok hReachable hWritable hRun rfl]

theorem ensureTable_eq_error {broken : Database.Fault} (hReachable : files.isReachable = true)
    (hWritable : files.location.readOnly = false)
    (hCreate : files.database.create schema.createTable = .error broken) :
    (Store.file files).ensureTable schema = (.error (fault broken), .file files) := by
  have hRun : files.knowledge.run (.create schema.createTable) = .error broken := hCreate
  rw [Store.ensureTable, Store.execute, change_eq_error hReachable hWritable hRun rfl]

/-- **Creating the table again changes nothing.** -/
theorem Serves.ensureTable_eq (hServes : files.Serves schema table) :
    (Store.file files).ensureTable schema = (.ok (), .file files) :=
  ensureTable_eq_ok hServes.reachable hServes.writable
    (Database.create_of_exists hServes.unreserved hServes.found)

/-- **What inserting a record comes to**: it gets a row, or the store stays as it is, and then
either the record is none of the type or its key is taken. -/
theorem Serves.insert_cases (hValid : schema.Valid) (hServes : files.Serves schema table)
    (record : Record) :
    (∃ statement next, schema.insertion record = .ok statement ∧
        (∀ other ∈ table.rows, ¬ schema.SameKey other (schema.nextRow table record)) ∧
        (Store.file files).insert schema record = (.ok (), .file next) ∧
        next.Serves schema
          { table with rows := Table.place (schema.nextRow table record) table.rows }) ∨
      (∃ error, (Store.file files).insert schema record = (.error error, .file files)) ∧
        ∀ statement, schema.insertion record = .ok statement →
          ∃ other ∈ table.rows, schema.SameKey other (schema.nextRow table record) := by
  rw [Store.insert]
  cases hInsertion : schema.insertion record with
  | error error => exact .inr ⟨⟨_, rfl⟩, nofun⟩
  | ok statement =>
      have hFound : files.database.table? statement.table = some table := by
        obtain ⟨-, rfl⟩ := Schema.insertion_eq_ok hValid hInsertion
        exact hServes.found
      have hRun : files.knowledge.run (.insert statement) =
          files.database.insertInto table statement := Database.Knowledge.insert_of_table? hFound
      have hConnection : files.knowledge.afterRun (.insert statement) = files.connection := by
        rw [Database.Knowledge.afterRun, Database.Knowledge.naming_of_table? hFound]
        rfl
      rcases hServes.stored.insert_cases hValid hServes.made hInsertion with
        ⟨hFresh, hInsert⟩ | ⟨hTaken, hInsert⟩
      · obtain ⟨changed, hInserted, hNext⟩ :=
          Database.insertInto_eq_ok hServes.found hInsert rfl
        have hChange := change_eq_ok hServes.reachable hServes.writable
          (hRun.trans hInserted) hConnection
        refine .inl ⟨statement, { files with database := changed }, rfl,
          fun other hOther => (hFresh other hOther).2, ?_, ?_⟩
        · dsimp only
          rw [Store.execute, hChange]
        · exact
            { hServes with
              found := hNext
              made := ⟨hServes.made.made, hServes.made.unambiguous, hServes.made.length_le⟩
              stored := hServes.stored.place hValid hServes.made hFresh }
      · have hChange := change_eq_error hServes.reachable hServes.writable
          (hRun.trans (Database.insertInto_eq_error hInsert)) hConnection
        refine .inr ⟨⟨fault (.keyExists table.name table.keyName), ?_⟩, fun _ _ => hTaken⟩
        dsimp only
        rw [Store.execute, hChange]

/-! ## Runs -/

/-- **What one operation does**: it stores a record, or it leaves the store as it is. -/
theorem Serves.after_cases (hValid : schema.Valid) (hServes : files.Serves schema table)
    (operation : Operation) :
    ((Store.file files).stored? schema operation = none ∧
        (Store.file files).after schema operation = .file files) ∨
      ∃ record statement next, operation = .insert record ∧
        (Store.file files).stored? schema operation = some record ∧
        schema.insertion record = .ok statement ∧
        (Store.file files).after schema operation = .file next ∧
        next.Serves schema
          { table with rows := Table.place (schema.nextRow table record) table.rows } := by
  cases operation with
  | ensureTable => exact .inl ⟨rfl, congrArg Prod.snd hServes.ensureTable_eq⟩
  | list resolver request => exact .inl ⟨rfl, Resolver.list_store hServes.found request⟩
  | lookup resolver id => exact .inl ⟨rfl, Resolver.lookup_store hServes.found id⟩
  | insert record =>
      rcases hServes.insert_cases hValid record with
        ⟨statement, next, hInsertion, -, hInsert, hNext⟩ | ⟨⟨error, hInsert⟩, -⟩
      · refine .inr ⟨record, statement, next, rfl, ?_, hInsertion, ?_, hNext⟩
        · rw [Store.stored?, hInsert]
        · rw [Store.after, hInsert]
      · refine .inl ⟨?_, ?_⟩
        · rw [Store.stored?, hInsert]
        · rw [Store.after, hInsert]

/-- **What a run does**: it puts one row beside those that are there for every record that it
stores, which are records that it was given. -/
theorem Serves.run (hValid : schema.Valid) (operations : List Operation) :
    ∀ {files : FileStore} {table : Table}, files.Serves schema table →
      ∃ records last final placed,
        (Store.file files).run schema operations = (records, .file last) ∧
        last.Serves schema final ∧ final.rows.Perm (placed ++ table.rows) ∧
        List.Forall₂ schema.IsRowOf records placed ∧
        ∀ record ∈ records, Operation.insert record ∈ operations := by
  induction operations with
  | nil =>
      intro files table hServes
      exact ⟨[], files, table, [], rfl, hServes, .refl _, .nil, nofun⟩
  | cons operation rest ih =>
      intro files table hServes
      rw [Store.run]
      rcases hServes.after_cases hValid operation with
        ⟨hNone, hAfter⟩ | ⟨record, statement, next, rfl, hStored, hInsertion, hAfter, hNext⟩
      · obtain ⟨records, last, final, placed, hRun, hLast, hPerm, hRows, hGiven⟩ := ih hServes
        refine ⟨records, last, final, placed, ?_, hLast, hPerm, hRows, fun record hRecord =>
          List.mem_cons_of_mem _ (hGiven record hRecord)⟩
        rw [hAfter, hRun, hNone]
        rfl
      · obtain ⟨records, last, final, placed, hRun, hLast, hPerm, hRows, hGiven⟩ := ih hNext
        refine ⟨record :: records, last, final, schema.nextRow table record :: placed, ?_, hLast,
          ?_, .cons ⟨⟨statement, hInsertion⟩, table, rfl⟩ hRows,
          List.forall_mem_cons.mpr ⟨List.mem_cons_self, fun other hOther =>
            List.mem_cons_of_mem _ (hGiven other hOther)⟩⟩
        · rw [hAfter, hRun, hStored]
          rfl
        · have hPlace := Table.place_perm (schema.nextRow table record) table.rows
          exact hPerm.trans ((hPlace.append_left placed).trans List.perm_middle)

end FileStore
end FieldSearch
