import FieldSearch.Proofs.Store.Performing
import FieldSearch.Proofs.Store.Run
import Mathlib

/-!
# Creating the table of a record type

A declaration is checked before a store is asked for anything, so whether its table
can be created ought to be settled by then.  It is not: names are checked as
identifiers that differ, while a database keeps some names for itself and does not
look at the case of letters.  A declaration that was accepted is refused for the
name of its table if that begins like the names of the database, and for the name
of a column if that is the name of another one in capitals.  Nothing else can go
wrong up to the number of columns that a table can have.

## Main results

* `opened_of_memory`: what is known of a database in memory that was opened.
* `serves_of_ensureTable`: a store serves a record type once its table was created.
* `ensureTable_eq_ok_iff`: when the table of a record type can be created.
* `ensureTable_of_capital`: two declarations whose tables cannot be.
-/

namespace FieldSearch

open Database (Row Table affinityOf)

/-- The table of a record type is created if its name is not kept for the database and no two of its
columns have the same name. -/
theorem Schema.create_createTable {schema : Schema} {database : Database}
    (hNone : database.table? schema.table = none)
    (hFew : schema.columns.length ≤ Database.maxColumns) :
    database.create schema.createTable =
      if Database.isReserved schema.table then throw (.reservedName schema.table)
      else
        match Database.repeatedColumn? [] schema.columnNames with
        | some column => throw (.duplicateColumn column)
        | none => pure
            { tables := database.tables ++ [Table.ofStatement schema.createTable]
              history := .created schema.table :: database.history } := by
  have hNames : (schema.createTable.columns.map NewColumn.name).take (Database.maxColumns + 1) =
      schema.columnNames := by
    have hAll : schema.createTable.columns.map NewColumn.name = schema.columnNames := by
      simp [createTable, columnNames, Function.comp_def]
    rw [hAll, List.take_of_length_le (by simp [columnNames]; omega)]
  have hNotMany : ¬ Database.maxColumns < schema.createTable.columns.length := by
    simpa [createTable] using hFew
  have hAbsent : (database.table? schema.createTable.table).isSome = false := by
    rw [show schema.createTable.table = schema.table from rfl, hNone]
    rfl
  rw [Database.create, hAbsent, hNames, if_neg hNotMany, if_neg Bool.false_ne_true]
  rfl

/-! ## What is declared and what is written -/

namespace Schema

/-- The name and the columns are those of the table of the record type: a column for each of its
columns, by the same name and of a type that stands for the same affinity, marked if it is the key.
So the names are identifiers, no two of them are equal, and one column is marked. -/
structure Defines (schema : Schema) (name : String) (definitions : List Sql.ColumnDefinition) :
    Prop where
  table_eq : name = schema.table
  columns : List.Forall₂ (fun column definition => definition.name = column.name ∧
      Database.declaredAffinity? definition.type = some (affinityOf column.type) ∧
      (definition.isKey = true ↔ column = schema.key)) schema.columns definitions
  ne_nil : definitions ≠ []
  isIdentifier : Text.isIdentifier name = true ∧
    ∀ definition ∈ definitions, Text.isIdentifier definition.name = true
  nodup : (definitions.map Sql.ColumnDefinition.name).Nodup
  key : ∃! definition, definition ∈ definitions ∧ definition.isKey = true

variable {schema : Schema} {name : String} {definitions : List Sql.ColumnDefinition}

theorem Defines.names_eq (h : schema.Defines name definitions) :
    definitions.map Sql.ColumnDefinition.name = schema.columnNames := by
  rw [columnNames, ← List.forall₂_eq_eq_eq, List.forall₂_map_left_iff, List.forall₂_map_right_iff]
  exact h.columns.flip.imp fun _ _ h => h.1

theorem Valid.isKey_iff {schema : Schema} (hValid : schema.Valid) {column : Column}
    (hColumn : column ∈ schema.columns) :
    (column.name == schema.primaryKey) = true ↔ column = schema.key := by
  rw [beq_iff_eq]
  exact ⟨hValid.column_ext hColumn hValid.key_mem, fun hKey => congrArg Column.name hKey⟩

/-- **What is written is what was declared.** -/
theorem defines_createTable (hValid : schema.Valid) :
    schema.Defines schema.table
      (schema.createTable.columns.map (NewColumn.definition .sqlite)) := by
  have hWritten : schema.createTable.columns.map (NewColumn.definition .sqlite) =
      schema.columns.map fun column => ⟨column.name, column.type.sqlType .sqlite,
        column.name == schema.primaryKey⟩ := by
    simp [createTable, NewColumn.definition, Function.comp_def]
  rw [hWritten]
  refine ⟨rfl, ?_, ?_, ⟨hValid.table, ?_⟩, ?_, ?_⟩
  · rw [List.forall₂_map_right_iff, List.forall₂_same]
    exact fun column hColumn =>
      ⟨rfl, Database.declaredAffinity?_sqlType column.type, hValid.isKey_iff hColumn⟩
  · exact fun hNil => hValid.columns_ne_nil (List.map_eq_nil_iff.mp hNil)
  · exact List.forall_mem_map.mpr hValid.columnNames
  · rw [List.map_map]
    exact hValid.nodup
  · refine ⟨_, ⟨List.mem_map_of_mem hValid.key_mem, beq_self_eq_true _⟩, ?_⟩
    rintro definition ⟨hDefinition, hMarked⟩
    obtain ⟨column, hColumn, rfl⟩ := List.mem_map.mp hDefinition
    rw [(hValid.isKey_iff hColumn).mp hMarked]

/-! ## Two record types without a table -/

/-- Notes with two columns whose names differ in their case only. -/
def capitals : Schema where
  name := "Note"
  table := "notes"
  columns := [⟨"id", .integer⟩, ⟨"ID", .text⟩]
  key := ⟨"id", .integer⟩
  options := {}
  searchable := .empty "Note"

theorem ofDeclaration_capitals : ofDeclaration capitals.toDeclaration = .ok capitals := by rfl

/-- Notes in a table with a name that is kept for the database. -/
def kept : Schema where
  name := "Note"
  table := "sqlite_notes"
  columns := [⟨"id", .integer⟩]
  key := ⟨"id", .integer⟩
  options := {}
  searchable := .empty "Note"

theorem ofDeclaration_kept : ofDeclaration kept.toDeclaration = .ok kept := by rfl

end Schema

namespace FileStore

variable {options : FileOptions} {opened : FileStore} {schema : Schema}

/-- A store that was opened is the one that was to be opened, and if it keeps a connection open, it
can be reached. -/
theorem open?_eq_ok {files : FileStore} (hIdle : 0 < files.pool.idle)
    (hOpened : files.open?.outcome = .ok opened) : opened = files ∧ files.isReachable = true := by
  unfold open? at hOpened
  by_cases hRefused : (!files.pool.isAdmissible ||
      (!files.isReachable && decide (0 < files.pool.idle))) = true
  · rw [if_pos hRefused] at hOpened
    obtain ⟨_, hFail, -⟩ := Logged.outcome_bind_eq_ok.mp hOpened
    cases hFail
  · rw [if_neg hRefused] at hOpened
    obtain ⟨_, -, hOpened⟩ := Logged.outcome_bind_eq_ok.mp hOpened
    obtain rfl := Except.ok.inj hOpened
    exact ⟨rfl, by simpa [hIdle] using (Bool.or_eq_false_iff.mp (Bool.eq_false_iff.mpr hRefused)).2⟩

/-- **A database in memory that was opened** is empty and can be used. -/
theorem opened_of_memory
    (hOpened : (ofPath Location.memoryPath options).open?.outcome = .ok opened) :
    opened.isReachable = true ∧ opened.location.readOnly = false ∧ opened.database = {} := by
  have hIdle : (ofPath Location.memoryPath options).pool.idle = 1 := rfl
  obtain ⟨rfl, hReachable⟩ := open?_eq_ok (hIdle ▸ Nat.one_pos) hOpened
  exact ⟨hReachable, rfl, rfl⟩

/-- **A store serves a record type once its table was created.** -/
theorem serves_of_ensureTable {start : Store}
    (hOpened : (ofPath Location.memoryPath options).open?.outcome = .ok opened)
    (hStart : (Store.file opened).ensureTable schema = (.ok (), start)) :
    ∃ files table, start = .file files ∧ files.Serves schema table ∧ table.rows = [] := by
  obtain ⟨hReachable, hWritable, hEmpty⟩ := opened_of_memory hOpened
  have hNone : opened.database.table? schema.table = none := by
    rw [hEmpty]
    rfl
  cases hCreate : opened.database.create schema.createTable with
  | error broken =>
      rw [ensureTable_eq_error hReachable hWritable hCreate] at hStart
      cases hStart
  | ok created =>
      rw [ensureTable_eq_ok hReachable hWritable hCreate] at hStart
      obtain rfl := (Prod.mk.inj hStart).2
      obtain ⟨table, hFound, hTable, hRows⟩ := Schema.exists_hasTable_of_create hCreate hNone
      refine ⟨_, table, rfl, ⟨hReachable, hWritable, ?_, hFound, hTable,
        Schema.stored_of_rows_eq_nil hRows⟩, hRows⟩
      by_contra hReserved
      rw [Database.create, show schema.createTable.table = schema.table from rfl,
        if_pos (Bool.not_eq_false _ ▸ hReserved)] at hCreate
      cases hCreate

/-- Creating the table of a record type in an empty database. -/
theorem ensureTable_cases (hNodup : schema.columnNames.Nodup)
    (hFew : schema.columns.length ≤ Database.maxColumns)
    (hReachable : opened.isReachable = true) (hWritable : opened.location.readOnly = false)
    (hNone : opened.database.table? schema.table = none) :
    (Database.isReserved schema.table = true ∧ (Store.file opened).ensureTable schema =
        (.error (fault (.reservedName schema.table)), .file opened)) ∨
      (¬ Text.Unambiguous schema.columnNames ∧ ∃ column ∈ schema.columnNames,
        (∃ other ∈ schema.columnNames, other ≠ column ∧
          Text.sameIgnoringAsciiCase column other = true) ∧
        (Store.file opened).ensureTable schema =
          (.error (fault (.duplicateColumn column)), .file opened)) ∨
      Database.isReserved schema.table = false ∧ Text.Unambiguous schema.columnNames ∧
        ∃ start, (Store.file opened).ensureTable schema = (.ok (), start) := by
  have hCreate := Schema.create_createTable hNone hFew
  have hNames : Database.repeatedColumn? [] schema.columnNames = none ↔
      Text.Unambiguous schema.columnNames := by
    rw [Database.repeatedColumn?_eq_none]
    exact ⟨fun h => h.2, fun h => ⟨fun _ _ _ hOther => absurd hOther List.not_mem_nil, h⟩⟩
  cases hReserved : Database.isReserved schema.table with
  | true =>
      rw [hReserved, if_pos rfl] at hCreate
      exact .inl ⟨rfl, ensureTable_eq_error hReachable hWritable hCreate⟩
  | false =>
      rw [hReserved, if_neg Bool.false_ne_true] at hCreate
      rw [← hNames]
      cases hRepeated : Database.repeatedColumn? [] schema.columnNames with
      | none =>
          rw [hRepeated] at hCreate
          exact .inr (.inr ⟨rfl, rfl, _, ensureTable_eq_ok hReachable hWritable hCreate⟩)
      | some column =>
          rw [hRepeated] at hCreate
          obtain ⟨hColumn, hOther⟩ :=
            Database.exists_of_repeatedColumn? (by rwa [List.append_nil]) hRepeated
          rw [List.append_nil] at hOther
          refine .inr (.inl ⟨fun h => ?_, column, hColumn, hOther,
            ensureTable_eq_error hReachable hWritable hCreate⟩)
          cases h

theorem ensureTable_eq_ok_iff_of_names (hNodup : schema.columnNames.Nodup)
    (hFew : schema.columns.length ≤ Database.maxColumns)
    (hReachable : opened.isReachable = true) (hWritable : opened.location.readOnly = false)
    (hNone : opened.database.table? schema.table = none) :
    ((Store.file opened).ensureTable schema).1 = .ok () ↔
      Database.isReserved schema.table = false ∧ Text.Unambiguous schema.columnNames := by
  rcases ensureTable_cases hNodup hFew hReachable hWritable hNone with
    ⟨hReserved, hRefused⟩ | ⟨hAmbiguous, _, -, -, hRefused⟩ |
      ⟨hUnreserved, hUnambiguous, start, hMade⟩
  · refine iff_of_false (fun h => ?_) fun h => ?_
    · rw [hRefused] at h
      cases h
    · rw [hReserved] at h
      cases h.1
  · refine iff_of_false (fun h => ?_) fun h => hAmbiguous h.2
    rw [hRefused] at h
    cases h
  · exact iff_of_true (by rw [hMade]) ⟨hUnreserved, hUnambiguous⟩

/-- If the table is not created, the database says for which name, and stays as it is. -/
theorem ensureTable_eq_error_cause (hNodup : schema.columnNames.Nodup)
    (hFew : schema.columns.length ≤ Database.maxColumns)
    (hReachable : opened.isReachable = true) (hWritable : opened.location.readOnly = false)
    (hNone : opened.database.table? schema.table = none) {error : StorageError} {start : Store}
    (hRefused : (Store.file opened).ensureTable schema = (.error error, start)) :
    start = .file opened ∧
      ((error = fault (.reservedName schema.table) ∧ Database.isReserved schema.table = true) ∨
        ∃ column ∈ schema.columnNames, ∃ other ∈ schema.columnNames, other ≠ column ∧
          Text.sameIgnoringAsciiCase column other = true ∧
          error = fault (.duplicateColumn column)) := by
  rcases ensureTable_cases hNodup hFew hReachable hWritable hNone with
    ⟨hReserved, hCase⟩ | ⟨-, column, hColumn, ⟨other, hOther, hNe, hSame⟩, hCase⟩ |
      ⟨-, -, made, hCase⟩
  · obtain ⟨hError, rfl⟩ := Prod.mk.inj (hRefused.symm.trans hCase)
    exact ⟨rfl, .inl ⟨Except.error.inj hError, hReserved⟩⟩
  · obtain ⟨hError, rfl⟩ := Prod.mk.inj (hRefused.symm.trans hCase)
    exact ⟨rfl, .inr ⟨column, hColumn, other, hOther, hNe, hSame, Except.error.inj hError⟩⟩
  · cases (Prod.mk.inj (hRefused.symm.trans hCase)).1

/-- **When the table of a declared record type can be created.**  The text that is sent to the
database says what was declared: a table with a column for each of the type, by names that are
identifiers and all different, with types that stand for their affinities, and one of them as the
key.  In a database in memory that is opened for it, and with no more columns than a table can have,
the text is carried out as it reads, and that table is created if its name is not kept for the
database and no two of its columns have the same name regardless of case.  Then it is there, without
rows; and else the database says which name it does not take, and stays empty. -/
theorem ensureTable_eq_ok_iff {declaration : Declaration}
    (hSchema : Schema.ofDeclaration declaration = .ok schema)
    (hFew : schema.columns.length ≤ Database.maxColumns)
    (hOpened : (ofPath Location.memoryPath options).open?.outcome = .ok opened) :
    let fragment := Sql.Writer.render { dialect := .sqlite } (schema.createTable.template .sqlite)
    ∃ name columns, fragment.readChange? .sqlite = some (.create name columns) ∧
      schema.Defines name columns ∧
      opened.perform? fragment = some ((Store.file opened).ensureTable schema) ∧
      (((Store.file opened).ensureTable schema).1 = .ok () ↔
        Database.isReserved name = false ∧
          Text.Unambiguous (columns.map Sql.ColumnDefinition.name)) ∧
      (∀ start, (Store.file opened).ensureTable schema = (.ok (), start) →
        ∃ files table, start = .file files ∧ files.Serves schema table ∧ table.rows = []) ∧
      ∀ error start, (Store.file opened).ensureTable schema = (.error error, start) →
        start = .file opened ∧
          ((error = fault (.reservedName name) ∧ Database.isReserved name = true) ∨
            ∃ column ∈ columns, ∃ other ∈ columns, other.name ≠ column.name ∧
              Text.sameIgnoringAsciiCase column.name other.name = true ∧
              error = fault (.duplicateColumn column.name)) := by
  intro fragment
  have hValid := Schema.valid_of_ofDeclaration hSchema
  obtain ⟨hReachable, hWritable, hEmpty⟩ := opened_of_memory hOpened
  have hNone : opened.database.table? schema.table = none := by
    rw [hEmpty]
    rfl
  have hColumns : schema.createTable.columns ≠ [] := by
    simpa [Schema.createTable] using hValid.columns_ne_nil
  have hDefines := schema.defines_createTable hValid
  have hMem {name : String} (hName : name ∈ schema.columnNames) : ∃ column ∈
      schema.createTable.columns.map (NewColumn.definition .sqlite), column.name = name := by
    rw [← hDefines.names_eq] at hName
    exact List.mem_map.mp hName
  refine ⟨schema.table, _, Sql.readChange?_createTable { dialect := .sqlite } hColumns,
    hDefines, (obeys hValid opened).creates, ?_,
    fun _ => serves_of_ensureTable hOpened, fun error start hRefused => ?_⟩
  · rw [hDefines.names_eq]
    exact ensureTable_eq_ok_iff_of_names hValid.nodup hFew hReachable hWritable hNone
  · obtain ⟨hStart, hCause⟩ :=
      ensureTable_eq_error_cause hValid.nodup hFew hReachable hWritable hNone hRefused
    refine ⟨hStart, hCause.imp_right ?_⟩
    rintro ⟨name, hName, twin, hTwin, hDiffer⟩
    obtain ⟨column, hColumn, rfl⟩ := hMem hName
    obtain ⟨other, hOther, rfl⟩ := hMem hTwin
    exact ⟨column, hColumn, other, hOther, hDiffer⟩

/-- The table of heroes can be created. -/
theorem ensureTable_eq_ok_iff_of_heroes :
    Schema.ofDeclaration Schema.heroes.toDeclaration = .ok .heroes ∧
      Schema.heroes.columns.length ≤ Database.maxColumns ∧
      (ofPath Location.memoryPath {}).open?.outcome = .ok (ofPath Location.memoryPath {}) ∧
      ((Store.file (ofPath Location.memoryPath {})).ensureTable .heroes).1 = .ok () := by
  have hFew : Schema.heroes.columns.length ≤ Database.maxColumns := by decide
  have hOpened : (ofPath Location.memoryPath {}).open?.outcome =
      .ok (ofPath Location.memoryPath {}) := rfl
  obtain ⟨name, columns, -, hDefines, -, hMade, -⟩ :=
    ensureTable_eq_ok_iff Schema.ofDeclaration_heroes hFew hOpened
  refine ⟨Schema.ofDeclaration_heroes, hFew, hOpened, hMade.mpr ⟨?_, ?_⟩⟩
  · rw [hDefines.table_eq]
    decide
  · rw [hDefines.names_eq]
    exact (Schema.hasTable_heroes []).unambiguous

/-- Two declarations are accepted whose tables cannot be created: one for the name of a column that
is the name of another one in capitals, and one for a name that is kept for the database.  It is the
text of their statements that the database refuses. -/
theorem ensureTable_of_capital :
    let empty := ofPath Location.memoryPath {}
    let refuses (schema : Schema) (broken : Database.Fault) : Prop :=
      Schema.ofDeclaration schema.toDeclaration = .ok schema ∧
        ((Store.file empty).ensureTable schema).1 = .error (fault broken) ∧
        empty.perform? (Sql.Writer.render { dialect := .sqlite }
          (schema.createTable.template .sqlite)) = some ((Store.file empty).ensureTable schema)
    empty.open?.outcome = .ok empty ∧ refuses .capitals (.duplicateColumn "ID") ∧
      refuses .kept (.reservedName "sqlite_notes") :=
  ⟨rfl,
    ⟨Schema.ofDeclaration_capitals, rfl,
      (obeys (Schema.valid_of_ofDeclaration Schema.ofDeclaration_capitals) _).creates⟩,
    Schema.ofDeclaration_kept, rfl,
    (obeys (Schema.valid_of_ofDeclaration Schema.ofDeclaration_kept) _).creates⟩

end FileStore
end FieldSearch
