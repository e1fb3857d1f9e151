import FieldSearch.Proofs.Store.Records
import Mathlib

/-!
# Keys of stored rows

Whatever is stored in the table of a record type, no two rows have the same key.
But a row need not have one: a database takes a key that is no number for a column
like any other, which may be left out, and the statement that stores a record leaves
out what the record does not give.  So every row has a key if keys are numbers, and
else if every record that was stored gave one.  Then the order by primary key is
strict, and every row is found by an id.

## Main results

* `keyCell_ne_null_iff`: when the row of a record has a key.
* `keys_of_run`: the keys of the rows after any run.
* `keys_of_keyless_notes`: two rows without a key, which tie.
-/

namespace FieldSearch

open Database (Cell Row Table affinityOf)

namespace Schema

variable {schema : Schema} {table : Table} {record : Record} {row : Row}

theorem keyIsNumber_iff :
    schema.keyIsNumber = true ↔ schema.key.type = .integer ∨ schema.key.type = .boolean := by
  rw [keyIsNumber]
  cases schema.key.type <;> decide

/-- **The row of a record has a key** if keys are numbers or the record gives one. -/
theorem IsRowOf.keyCell_ne_null_iff (hValid : schema.Valid) (hRow : schema.IsRowOf record row) :
    schema.keyCell row ≠ .null ↔ schema.keyIsNumber = true ∨ record.Keyed schema := by
  obtain ⟨⟨statement, hInsertion⟩, before, rfl⟩ := hRow
  obtain ⟨value, hValue⟩ := (insertion_eq_ok hValid hInsertion).1 _ hValid.key_mem
  rw [nextRow, keyCell_rowOf hValid]
  cases schema.keyIsNumber with
  | true => exact iff_of_true (by simp) (.inl rfl)
  | false =>
      rw [if_neg Bool.false_ne_true, Ne, ColumnType.stored_eq_null hValue]
      exact ⟨.inr, fun h => h.resolve_left Bool.false_ne_true⟩

/-- An id for a key that is a number or a text. -/
theorem exists_id_of_fits {type : ColumnType} {key : Cell}
    (hType : type = .integer ∨ type = .text) (hFits : type.Fits key) (hNull : key ≠ .null) :
    ∃ (id : RecordId) (value : Sql.Value),
      id.toValue? type = some value ∧ key = Cell.ofValue value := by
  rcases hType with rfl | rfl
  · cases hFits with
    | null => exact absurd rfl hNull
    | integer number => exact ⟨.integer number, .integer number, rfl, rfl⟩
  · cases hFits with
    | null => exact absurd rfl hNull
    | text value => exact ⟨.text value, .text value, rfl, rfl⟩

end Schema

namespace FileStore

/-- Every row of the table can be told from the others: the order by primary key is strict, and if
ids can be keys at all, each row is found by one. -/
structure Identifies (files : FileStore) (schema : Schema) (table : Table) : Prop where
  untied : table.rows.Pairwise fun left right =>
    table.cmpRows (.byColumn schema.primaryKey) left right ≠ .eq
  found : schema.key.type = .integer ∨ schema.key.type = .text →
    ∀ config resolver, (Resolver.create (.file files) config).outcome = .ok resolver →
      ∀ row ∈ table.rows, ∃ id,
        (resolver.lookup (.file files) schema id).1.outcome = .ok (schema.recordOf row)

theorem Serves.identifies {files : FileStore} {schema : Schema} {table : Table}
    (hValid : schema.Valid) (hServes : files.Serves schema table)
    (hKeys : ∀ row ∈ table.rows, schema.keyCell row ≠ .null) : files.Identifies schema table where
  untied := by
    refine hServes.stored.distinct.imp_of_mem fun {left right} hLeft _ hDiffer hTie => ?_
    rw [hServes.made.cmpRows_byColumn hValid] at hTie
    exact hDiffer ⟨hKeys left hLeft, hTie⟩
  found hType config resolver hMade row hRow := by
    obtain ⟨id, value, hId, hKey⟩ := Schema.exists_id_of_fits hType
      (hServes.stored.fits_keyCell hValid hRow) (hKeys row hRow)
    exact ⟨id, (Resolver.lookup_eq hValid hServes.made hServes.stored hServes.reachable
      hServes.found hMade hId).1 row hRow hKey⟩

/-- **The keys of the rows after any run.**  A database in memory is opened and the table of a
record type is created; whatever is asked for then, no two rows have the same key.  All have one
just if keys are numbers or every record that was stored gave its key, and then each row can be told
from the others. -/
theorem keys_of_run {declaration : Declaration} {schema : Schema}
    (hSchema : Schema.ofDeclaration declaration = .ok schema) {options : FileOptions}
    {opened : FileStore}
    (hOpened : (ofPath Location.memoryPath options).open?.outcome = .ok opened) {start : Store}
    (hStart : (Store.file opened).ensureTable schema = (.ok (), start))
    (operations : List Operation) :
    ∃ records last table, start.run schema operations = (records, .file last) ∧
      last.database.table? schema.table = some table ∧
      (table.rows.Pairwise fun left right => ¬ schema.SameKey left right) ∧
      ((∀ row ∈ table.rows, schema.keyCell row ≠ .null) ↔
        (schema.key.type = .integer ∨ schema.key.type = .boolean) ∨
          ∀ record ∈ records, record.Keyed schema) ∧
      ((∀ row ∈ table.rows, schema.keyCell row ≠ .null) → last.Identifies schema table) := by
  have hValid := Schema.valid_of_ofDeclaration hSchema
  obtain ⟨files, table, rfl, hServes, hEmpty⟩ := serves_of_ensureTable hOpened hStart
  obtain ⟨records, last, final, placed, hRun, hLast, hPerm, hRows, -⟩ :=
    hServes.run hValid operations
  rw [hEmpty, List.append_nil] at hPerm
  refine ⟨records, last, final, hRun, hLast.found, hLast.stored.distinct, ?_,
    hLast.identifies hValid⟩
  rw [← Schema.keyIsNumber_iff]
  constructor
  · intro hKeys
    by_cases hNumber : schema.keyIsNumber = true
    · exact .inl hNumber
    · refine .inr fun record hRecord => ?_
      obtain ⟨row, hRow, hIsRow⟩ := exists_of_mem_left hRows hRecord
      have hKey := (hIsRow.keyCell_ne_null_iff hValid).mp (hKeys row (hPerm.mem_iff.mpr hRow))
      exact hKey.resolve_left hNumber
  · intro hKeyed row hRow
    obtain ⟨record, hRecord, hIsRow⟩ := exists_of_mem_right hRows (hPerm.mem_iff.mp hRow)
    exact (hIsRow.keyCell_ne_null_iff hValid).mpr (hKeyed.imp_right fun h => h record hRecord)

/-- A hero who was given without a key gets the next number for one. -/
theorem keys_of_run_of_heroes :
    let empty := ofPath Location.memoryPath {}
    let batman : Record := ⟨.ofList [("id", .integer 7), ("name", .text "Batman")]⟩
    let wombat : Record := ⟨.ofList [("name", .text "Wombat")]⟩
    empty.open?.outcome = .ok empty ∧
      ∃ start last table, (Store.file empty).ensureTable .heroes = (.ok (), start) ∧
        start.run .heroes [.insert batman, .insert wombat] = ([batman, wombat], .file last) ∧
        last.database.table? Schema.heroes.table = some table ∧
        table.rows.map Schema.heroes.keyCell = [.integer 7, .integer 8] ∧
        last.Identifies .heroes table := by
  intro empty batman wombat
  have hOpened : empty.open?.outcome = .ok empty := rfl
  obtain ⟨start, hStart⟩ : ∃ start, (Store.file empty).ensureTable .heroes = (.ok (), start) :=
    ⟨_, rfl⟩
  obtain ⟨records, last, table, hRun, hFound, -, hKeys, hIdentifies⟩ :=
    keys_of_run Schema.ofDeclaration_heroes hOpened hStart [.insert batman, .insert wombat]
  obtain ⟨known, hKnown, hRows⟩ : ∃ files : FileStore,
      start.run .heroes [.insert batman, .insert wombat] = ([batman, wombat], .file files) ∧
        ∀ table, files.database.table? Schema.heroes.table = some table →
          table.rows.map Schema.heroes.keyCell = [.integer 7, .integer 8] := by
    obtain rfl := (Prod.mk.inj hStart).2
    refine ⟨_, rfl, fun table hTable => ?_⟩
    obtain rfl := Option.some.inj hTable
    rfl
  obtain ⟨rfl, hSame⟩ := Prod.mk.inj (hRun.symm.trans hKnown)
  obtain rfl := Store.file.inj hSame
  exact ⟨hOpened, start, last, table, hStart, hRun, hFound, hRows table hFound,
    hIdentifies (hKeys.mpr (.inl (.inl rfl)))⟩

/-- Two notes without a code are both stored where the code is the key: neither row has a key, and
the order by primary key does not tell them apart. -/
theorem keys_of_keyless_notes :
    let notes : Declaration :=
      ⟨"Note", some "notes", "code", [⟨"code", .text⟩, ⟨"body", .text⟩], {}⟩
    let operations : List Operation :=
      [.insert ⟨.ofList [("body", .text "first")]⟩, .insert ⟨.ofList [("body", .text "second")]⟩]
    let empty := ofPath Location.memoryPath {}
    empty.open?.outcome = .ok empty ∧
      ∃ schema start last table left right, Schema.ofDeclaration notes = .ok schema ∧
        (Store.file empty).ensureTable schema = (.ok (), start) ∧
        (start.run schema operations).2 = .file last ∧
        last.database.table? schema.table = some table ∧ table.rows = [left, right] ∧
        schema.keyCell left = .null ∧ schema.keyCell right = .null ∧
        table.cmpRows (.byColumn schema.primaryKey) left right = .eq :=
  ⟨rfl, _, _, _, _, _, _, rfl, rfl, rfl, rfl, rfl, rfl, rfl, rfl⟩

end FileStore
end FieldSearch
