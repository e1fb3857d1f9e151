import FieldSearch.Proofs.Store.Bootstrap
import Mathlib

/-!
# A store as a map from keys to records

Once its table was created, a store with a key of integers or texts is a map from
keys to records, whatever it is asked to do and in whatever order.  Its rows are
those of the records that it has stored.  It stores a record if the record is one
of the type and no other has its key; everything else leaves it as it is.  It gives
a record back for the id of its key, every column with what was given for it, and
finds nothing for any other id.

The map is carried along a run by one relation between rows and records.  From it
and from what single operations do, both what a store takes and what it gives back
follow.

## Main results

* `Represents`, `exists_represents_of_run`: the rows after a run are those of the
  records that were stored.
* `insert_eq_ok_iff`: when a record is stored.
* `lookup_eq_of_identifies`: what an id gives back.
* `keeps_of_run`: a store is a map from keys to records.
-/

namespace FieldSearch

open Database (Cell Row Table affinityOf)

/-! ## Records and their keys -/

/-- The record gives a key. -/
def Record.Keyed (schema : Schema) (record : Record) : Prop := record.given schema.key ≠ .null

/-- If it is a record that is to be stored, it gives a key. -/
def Operation.Keyed (schema : Schema) : Operation → Prop
  | .insert record => record.Keyed schema
  | _ => True

namespace Schema

/-- The cells that keep a record. -/
def cellsOf (schema : Schema) (record : Record) : List Cell :=
  schema.columns.map fun column => column.type.stored (record.given column)

/-- The id and the key of the record are one value of the type of the key. -/
def Identifies (schema : Schema) (id : RecordId) (record : Record) : Prop :=
  ∃ value, id.toValue? schema.key.type = some value ∧
    schema.key.type.toValue? (record.given schema.key) = some value

/-- The record that was found has every column of the type and no others, and each gives back what
it was given. -/
structure Recalls (schema : Schema) (record found : Record) : Prop where
  columns : ∀ name, (found.get? name).isSome = true ↔ name ∈ schema.columnNames
  values : ∀ column ∈ schema.columns, ∃ back, found.get? column.name = some back ∧
    column.type.GivesBack (record.given column) back

/-- The rows of the table are those of the records, each of which is one of the type with a key. -/
structure Represents (schema : Schema) (table : Table) (records : List Record) : Prop where
  cells : (table.rows.map Row.cells).Perm (records.map schema.cellsOf)
  accepted : ∀ record ∈ records, ∃ statement, schema.insertion record = .ok statement
  keyed : ∀ record ∈ records, record.Keyed schema

variable {schema : Schema} {table : Table} {record : Record} {records : List Record}

theorem Represents.exists_row (h : schema.Represents table records) (hRecord : record ∈ records) :
    ∃ row ∈ table.rows, row.cells = schema.cellsOf record :=
  List.mem_map.mp (h.cells.mem_iff.mpr (List.mem_map_of_mem hRecord))

theorem Represents.exists_record (h : schema.Represents table records) {row : Row}
    (hRow : row ∈ table.rows) : ∃ record ∈ records, schema.cellsOf record = row.cells :=
  List.mem_map.mp (h.cells.mem_iff.mp (List.mem_map_of_mem hRow))

theorem keyCell_of_cells (hValid : schema.Valid) {row : Row}
    (hCells : row.cells = schema.cellsOf record) :
    schema.keyCell row = schema.key.type.stored (record.given schema.key) :=
  cell_of_cells hValid hCells hValid.key_mem

/-- A key that a record gives is stored as a key. -/
theorem stored_key_ne_null (hValid : schema.Valid)
    (hAccepted : ∃ statement, schema.insertion record = .ok statement)
    (hKeyed : record.Keyed schema) :
    schema.key.type.stored (record.given schema.key) ≠ .null := by
  obtain ⟨statement, hInsertion⟩ := hAccepted
  obtain ⟨value, hValue⟩ := (insertion_eq_ok hValid hInsertion).1 _ hValid.key_mem
  exact mt (ColumnType.stored_eq_null hValue).mp hKeyed

/-- Keys that are no floats are stored as the same cell only if they are the same. -/
theorem given_eq_of_stored_eq {type : ColumnType} (hType : type = .integer ∨ type = .text)
    {json other : Json} {value otherValue : Sql.Value} (hValue : type.toValue? json = some value)
    (hOther : type.toValue? other = some otherValue)
    (hSame : type.stored json = type.stored other) : json = other := by
  rcases hType with rfl | rfl
  · cases json <;> cases other <;> simp_all [ColumnType.toValue?, ColumnType.stored]
  · cases json <;> cases other <;> simp_all [ColumnType.toValue?, ColumnType.stored]

/-- An id and a key are kept as the same cell only if they are the same value. -/
theorem ofValue_eq_iff {type : ColumnType} {id : RecordId} {json : Json} {key value : Sql.Value}
    (hId : id.toValue? type = some value) (hKey : type.toValue? json = some key) :
    Cell.ofValue key = Cell.ofValue value ↔ key = value := by
  -- Only truth values are kept as something that other values are kept as too.
  have hIdBool : ∀ flag, value ≠ .bool flag := by
    rintro flag rfl
    cases type <;> cases id <;> simp [RecordId.toValue?] at hId
  have hKeyBool : ∀ flag, key ≠ .bool flag := by
    rintro flag rfl
    cases type <;> cases json <;> simp [ColumnType.toValue?] at hKey
    cases id <;> cases hId
  refine ⟨fun hSame => ?_, fun hSame => by rw [hSame]⟩
  cases key <;> cases value <;> simp_all [Cell.ofValue]

end Schema

namespace FileStore

variable {files : FileStore} {schema : Schema} {table : Table} {record : Record}
  {records : List Record}

/-- **After a run the rows are those of the records that were stored**, if every record that was
given has a key. -/
theorem exists_represents_of_run (hValid : schema.Valid) (hServes : files.Serves schema table)
    (hEmpty : table.rows = []) {operations : List Operation}
    (hKeyed : ∀ operation ∈ operations, operation.Keyed schema) :
    ∃ records last final, (Store.file files).run schema operations = (records, .file last) ∧
      last.Serves schema final ∧ schema.Represents final records := by
  obtain ⟨records, last, final, placed, hRun, hLast, hPerm, hRows, hGiven⟩ :=
    hServes.run hValid operations
  have hKeys : ∀ record ∈ records, record.Keyed schema :=
    fun record hRecord => hKeyed _ (hGiven record hRecord)
  have hAccepted : ∀ record ∈ records, ∃ statement, schema.insertion record = .ok statement := by
    intro record hRecord
    obtain ⟨row, -, hRow⟩ := exists_of_mem_left hRows hRecord
    exact hRow.1
  have hCells : placed.map Row.cells = records.map schema.cellsOf := by
    have hEach : List.Forall₂ (fun record row => schema.cellsOf record = row.cells)
        records placed := by
      refine forall₂_imp_of_mem hRows fun record hRecord row _ hRow => ?_
      obtain ⟨hInsertion, before, rfl⟩ := hRow
      exact (Schema.cells_nextRow
        (Schema.stored_key_ne_null hValid hInsertion (hKeys record hRecord))).symm
    rw [← List.forall₂_eq_eq_eq, List.forall₂_map_left_iff, List.forall₂_map_right_iff]
    exact hEach.flip.imp fun _ _ hSame => hSame.symm
  rw [hEmpty, List.append_nil] at hPerm
  exact ⟨records, last, final, hRun, hLast, hCells ▸ hPerm.map Row.cells, hAccepted, hKeys⟩

/-- **When a record is stored**: if it is one of the type and no other has its key. -/
theorem insert_eq_ok_iff (hValid : schema.Valid)
    (hKey : schema.key.type = .integer ∨ schema.key.type = .text)
    (hServes : files.Serves schema table) (hRecords : schema.Represents table records)
    (hKeyed : record.Keyed schema) :
    ((Store.file files).insert schema record).1 = .ok () ↔
      (∃ statement, schema.insertion record = .ok statement) ∧
        ∀ stored ∈ records, stored.given schema.key ≠ record.given schema.key := by
  have hFloat : schema.key.type ≠ .float := by
    rcases hKey with h | h <;> rw [h] <;> exact nofun
  have hNew (hAccepted : ∃ statement, schema.insertion record = .ok statement) :
      schema.keyCell (schema.nextRow table record) =
        schema.key.type.stored (record.given schema.key) :=
    Schema.keyCell_of_cells hValid
      (Schema.cells_nextRow (Schema.stored_key_ne_null hValid hAccepted hKeyed))
  rcases hServes.insert_cases hValid record with
    ⟨statement, next, hInsertion, hFresh, hInsert, -⟩ | ⟨⟨error, hInsert⟩, hTaken⟩
  · refine iff_of_true (by rw [hInsert]) ⟨⟨statement, hInsertion⟩, fun stored hStored hSame => ?_⟩
    obtain ⟨row, hRow, hCells⟩ := hRecords.exists_row hStored
    have hOld := Schema.keyCell_of_cells hValid hCells
    refine hFresh row hRow ⟨?_, ?_⟩
    · rw [hOld]
      exact Schema.stored_key_ne_null hValid (hRecords.accepted stored hStored)
        (hRecords.keyed stored hStored)
    · rw [hNew ⟨statement, hInsertion⟩, hOld, hSame]
      exact Cell.cmp_self (schema.key.type.fits_stored _)
  · refine iff_of_false (by rw [hInsert]; exact nofun) fun h => ?_
    obtain ⟨⟨statement, hInsertion⟩, hFresh⟩ := h
    obtain ⟨row, hRow, -, hSame⟩ := hTaken statement hInsertion
    obtain ⟨stored, hStored, hCells⟩ := hRecords.exists_record hRow
    obtain ⟨_, hOther⟩ := hRecords.accepted stored hStored
    obtain ⟨_, hStoredValue⟩ := (Schema.insertion_eq_ok hValid hOther).1 _ hValid.key_mem
    obtain ⟨_, hValue⟩ := (Schema.insertion_eq_ok hValid hInsertion).1 _ hValid.key_mem
    rw [Schema.keyCell_of_cells hValid hCells.symm, hNew ⟨statement, hInsertion⟩,
      Cell.cmp_eq_eq_iff hFloat (schema.key.type.fits_stored _)
        (schema.key.type.fits_stored _)] at hSame
    exact hFresh stored hStored (Schema.given_eq_of_stored_eq hKey hStoredValue hValue hSame)

/-- A row that keeps a record is read as that record. -/
theorem recalls_recordOf (hValid : schema.Valid) {row : Row}
    (hAccepted : ∃ statement, schema.insertion record = .ok statement)
    (hCells : row.cells = schema.cellsOf record) :
    schema.Recalls record (schema.recordOf row) where
  columns := Schema.isSome_get?_recordOf hValid row
  values column hMem := by
    obtain ⟨statement, hInsertion⟩ := hAccepted
    obtain ⟨value, hValue⟩ := (Schema.insertion_eq_ok hValid hInsertion).1 column hMem
    refine ⟨_, Schema.get?_recordOf hValid row hMem, ?_⟩
    rw [Schema.cell_of_cells hValid hCells hMem]
    exact ColumnType.givesBack_show hValue

/-- The rows with the value of an id are those of the records that the id names. -/
theorem keyCell_eq_iff_identifies (hValid : schema.Valid) {row : Row} {id : RecordId}
    {value : Sql.Value} (hId : id.toValue? schema.key.type = some value)
    (hAccepted : ∃ statement, schema.insertion record = .ok statement)
    (hCells : row.cells = schema.cellsOf record) :
    schema.keyCell row = Cell.ofValue value ↔ schema.Identifies id record := by
  obtain ⟨statement, hInsertion⟩ := hAccepted
  obtain ⟨key, hKeyValue⟩ := (Schema.insertion_eq_ok hValid hInsertion).1 _ hValid.key_mem
  rw [Schema.keyCell_of_cells hValid hCells,
    ColumnType.stored_eq_ofValue (RecordId.ne_float_of_toValue? hId) hKeyValue,
    Schema.ofValue_eq_iff hId hKeyValue]
  constructor
  · rintro rfl
    exact ⟨key, hId, hKeyValue⟩
  · rintro ⟨other, hOther, hSame⟩
    rw [hId] at hOther
    rw [hKeyValue] at hSame
    exact (Option.some.inj hSame).trans (Option.some.inj hOther).symm

/-- **What an id gives back**: the record that it names, and if it names none, that nothing was
found. -/
theorem lookup_eq_of_identifies (hValid : schema.Valid) (hServes : files.Serves schema table)
    (hRecords : schema.Represents table records) {config : SearchConfig} {resolver : Resolver}
    (hMade : (Resolver.create (.file files) config).outcome = .ok resolver) {id : RecordId}
    (hFits : (id.toValue? schema.key.type).isSome = true) :
    (∀ record ∈ records, schema.Identifies id record →
      ∃ found, (resolver.lookup (.file files) schema id).1.outcome = .ok found ∧
        schema.Recalls record found) ∧
    ((∀ record ∈ records, ¬ schema.Identifies id record) →
      (resolver.lookup (.file files) schema id).1.outcome =
        .error (.query (.notFound schema.name id.display))) := by
  obtain ⟨value, hValue⟩ := Option.isSome_iff_exists.mp hFits
  obtain ⟨hFound, hNotFound⟩ := Resolver.lookup_eq hValid hServes.made hServes.stored
    hServes.reachable hServes.found hMade hValue
  constructor
  · intro record hRecord hIdentifies
    obtain ⟨row, hRow, hCells⟩ := hRecords.exists_row hRecord
    have hAccepted := hRecords.accepted record hRecord
    have hKey := (keyCell_eq_iff_identifies hValid hValue hAccepted hCells).mpr hIdentifies
    exact ⟨_, hFound row hRow hKey, recalls_recordOf hValid hAccepted hCells⟩
  · intro hNone
    refine hNotFound fun row hRow hKey => ?_
    obtain ⟨record, hRecord, hCells⟩ := hRecords.exists_record hRow
    exact hNone record hRecord ((keyCell_eq_iff_identifies hValid hValue
      (hRecords.accepted record hRecord) hCells.symm).mp hKey)

/-! ## The map -/

/-- The store keeps just the records, as a map from their keys: what it takes besides, what it
leaves alone, and what it gives back. -/
structure Keeps (files : FileStore) (schema : Schema) (records : List Record) : Prop where
  /-- The rows are those of the records. -/
  rows : ∃ table, files.database.table? schema.table = some table ∧
    (table.rows.map Row.cells).Perm (records.map schema.cellsOf)
  /-- A record is stored if it is one of the type and its key is not taken. -/
  takes_iff : ∀ record : Record, record.Keyed schema →
    (((Store.file files).insert schema record).1 = .ok () ↔
      (∃ statement, schema.insertion record = .ok statement) ∧
        ∀ stored ∈ records, stored.given schema.key ≠ record.given schema.key)
  /-- The table is there. -/
  ensured : (Store.file files).ensureTable schema = (.ok (), .file files)
  /-- What stores no record leaves the store as it is. -/
  unchanged : ∀ operation, (Store.file files).stored? schema operation = none →
    (Store.file files).after schema operation = .file files
  /-- A record is given back for the id of its key. -/
  recalls : ∀ config resolver, (Resolver.create (.file files) config).outcome = .ok resolver →
    ∀ id, ∀ record ∈ records, schema.Identifies id record →
      ∃ found, (resolver.lookup (.file files) schema id).1.outcome = .ok found ∧
        schema.Recalls record found
  /-- For any other id that fits the key nothing is found. -/
  misses : ∀ config resolver, (Resolver.create (.file files) config).outcome = .ok resolver →
    ∀ id : RecordId, (id.toValue? schema.key.type).isSome = true →
      (∀ record ∈ records, ¬ schema.Identifies id record) →
        (resolver.lookup (.file files) schema id).1.outcome =
          .error (.query (.notFound schema.name id.display))

/-- **A store is a map from keys to records**, over whole runs.  A database in memory is opened and
the table of a record type with a key of integers or texts is created; whatever is asked for then,
creating the table again, storing records with keys, listing and looking up in any order: the store
keeps the records that were stored, and no others.  In every state it does what the texts that are
sent to the database say with their parameters, when it creates the table, stores a record or looks
one up. -/
theorem keeps_of_run {declaration : Declaration}
    (hSchema : Schema.ofDeclaration declaration = .ok schema)
    (hKey : schema.key.type = .integer ∨ schema.key.type = .text) {options : FileOptions}
    {opened : FileStore}
    (hOpened : (ofPath Location.memoryPath options).open?.outcome = .ok opened) {start : Store}
    (hStart : (Store.file opened).ensureTable schema = (.ok (), start))
    {operations : List Operation}
    (hKeyed : ∀ operation ∈ operations, operation.Keyed schema) :
    (∀ files : FileStore, files.Obeys schema) ∧
      ∃ records last, start.run schema operations = (records, .file last) ∧
        last.Keeps schema records := by
  have hValid := Schema.valid_of_ofDeclaration hSchema
  refine ⟨obeys hValid, ?_⟩
  obtain ⟨files, table, rfl, hServes, hEmpty⟩ := serves_of_ensureTable hOpened hStart
  obtain ⟨records, last, final, hRun, hLast, hRecords⟩ :=
    exists_represents_of_run hValid hServes hEmpty hKeyed
  refine ⟨records, last, hRun, ⟨final, hLast.found, hRecords.cells⟩,
    fun record hRecord => insert_eq_ok_iff hValid hKey hLast hRecords hRecord,
    hLast.ensureTable_eq, fun operation hNone => ?_,
    fun config resolver hMade id record hRecord hIdentifies => ?_,
    fun config resolver hMade id hFits => ?_⟩
  · rcases hLast.after_cases hValid operation with ⟨-, hAfter⟩ | ⟨record, _, _, -, hStored, -⟩
    · exact hAfter
    · rw [hNone] at hStored
      cases hStored
  · have hFits : (id.toValue? schema.key.type).isSome = true := by
      obtain ⟨value, hValue, -⟩ := hIdentifies
      rw [hValue]
      rfl
    exact (lookup_eq_of_identifies hValid hLast hRecords hMade hFits).1 record hRecord hIdentifies
  · exact (lookup_eq_of_identifies hValid hLast hRecords hMade hFits).2

/-- One of two heroes with the same key is kept, in a table that is created twice, and the other one
is not. -/
theorem keeps_of_run_of_heroes :
    let empty := ofPath Location.memoryPath {}
    let batman : Record := ⟨.ofList [("id", .integer 1), ("name", .text "Batman")]⟩
    let wombat : Record := ⟨.ofList [("id", .integer 1), ("name", .text "Wombat")]⟩
    let operations : List Operation := [.insert batman, .ensureTable, .insert wombat,
      .lookup (Resolver.forFile {} none) (.text "1"), .list (Resolver.forFile {} none) {}]
    empty.open?.outcome = .ok empty ∧
      ∃ start, (Store.file empty).ensureTable .heroes = (.ok (), start) ∧
        (∀ operation ∈ operations, operation.Keyed .heroes) ∧
        (∀ files : FileStore, files.Obeys .heroes) ∧
        ∃ last, start.run .heroes operations = ([batman], .file last) ∧
          last.Keeps .heroes [batman] := by
  intro empty batman wombat operations
  have hOpened : empty.open?.outcome = .ok empty := rfl
  obtain ⟨start, hStart⟩ : ∃ start, (Store.file empty).ensureTable .heroes = (.ok (), start) :=
    ⟨_, rfl⟩
  have hKeyed : ∀ operation ∈ operations, operation.Keyed .heroes := by
    have hKeys : ∀ record : Record, record.given Schema.heroes.key = .integer 1 →
        record.Keyed .heroes := fun record hGiven hNull => nomatch hGiven.symm.trans hNull
    simp only [operations, List.forall_mem_cons]
    exact ⟨hKeys batman rfl, trivial, hKeys wombat rfl, trivial, trivial,
      fun _ hMem => absurd hMem List.not_mem_nil⟩
  obtain ⟨hObeys, records, last, hRun, hKeeps⟩ :=
    keeps_of_run Schema.ofDeclaration_heroes (.inl rfl) hOpened hStart hKeyed
  have hRecords : (start.run .heroes operations).1 = [batman] := by
    obtain rfl := (Prod.mk.inj hStart).2
    rfl
  rw [hRun] at hRecords
  obtain rfl : records = [batman] := hRecords
  exact ⟨hOpened, start, hStart, hKeyed, hObeys, last, hRun, hKeeps⟩

end FileStore
end FieldSearch
