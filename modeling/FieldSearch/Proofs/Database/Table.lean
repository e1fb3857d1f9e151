import FieldSearch.Database.Access
import FieldSearch.Proofs.Database.Cell
import FieldSearch.Proofs.KeyMap
import FieldSearch.Proofs.Outcome
import FieldSearch.Proofs.Schema.Declaration
import Mathlib

/-!
# The table of a record type

A record type is kept in the table that its own statement creates.  `HasTable`
says what is known of a table that was created so: its columns are those of the
record type, and no two of their names are the same for a database, which does
not look at the case of letters.  `Typed` says of its contents that every cell
fits its column, and `HasRows` that the keys are there and differ besides.

With this, names mean what the record type says: a column stands for its own
cell, the key for the key of the row, and an equality for an equality of values.

## Main results

* `exists_hasTable_of_create`: the statement of a record type creates such a
  table.
* `resolve_column`: a column stands for the cell in its place.
* `equalsParameter_eq_true`: equality with a value is equality in the order of
  cells.
* `readRow_project`: a selected row is read as the record of its cells.
-/

namespace FieldSearch

open Database (Cell Row Table Reference affinityOf)

/-! ## Names regardless of case -/

theorem Text.sameIgnoringAsciiCase_comm (left right : String) :
    sameIgnoringAsciiCase left right = sameIgnoringAsciiCase right left := by
  rw [Bool.eq_iff_iff, sameIgnoringAsciiCase, sameIgnoringAsciiCase, beq_iff_eq, beq_iff_eq]
  exact eq_comm

/-- No two of the names are the same regardless of case. -/
def Text.Unambiguous (names : List String) : Prop :=
  names.Pairwise fun left right => sameIgnoringAsciiCase left right = false

/-- No name is repeated if none is among those seen and no two are the same. -/
theorem Database.repeatedColumn?_eq_none {names : List String} : ∀ {seen : List String},
    repeatedColumn? seen names = none ↔
      (∀ name ∈ names, ∀ other ∈ seen, Text.sameIgnoringAsciiCase name other = false) ∧
        Text.Unambiguous names := by
  induction names with
  | nil => exact fun {_} => iff_of_true rfl ⟨nofun, .nil⟩
  | cons first rest ih =>
      intro seen
      rw [repeatedColumn?]
      by_cases hSeen : seen.any (Text.sameIgnoringAsciiCase first) = true
      · rw [if_pos hSeen]
        refine iff_of_false nofun fun h => ?_
        obtain ⟨other, hOther, hSame⟩ := List.any_eq_true.mp hSeen
        rw [h.1 first List.mem_cons_self other hOther] at hSame
        cases hSame
      · have hFresh : ∀ other ∈ seen, Text.sameIgnoringAsciiCase first other = false :=
          fun other hOther => Bool.eq_false_iff.mpr fun hSame =>
            hSeen (List.any_eq_true.mpr ⟨other, hOther, hSame⟩)
        rw [if_neg hSeen, ih, Text.Unambiguous, Text.Unambiguous, List.pairwise_cons]
        constructor
        · rintro ⟨hBoth, hRest⟩
          refine ⟨List.forall_mem_cons.mpr ⟨hFresh, fun name hName other hOther => ?_⟩,
            fun name hName => ?_, hRest⟩
          · exact hBoth name hName other (List.mem_cons_of_mem _ hOther)
          · rw [Text.sameIgnoringAsciiCase_comm]
            exact hBoth name hName first List.mem_cons_self
        · rintro ⟨hNames, hFirst, hRest⟩
          refine ⟨fun name hName => List.forall_mem_cons.mpr ⟨?_, ?_⟩, hRest⟩
          · rw [Text.sameIgnoringAsciiCase_comm]
            exact hFirst name hName
          · exact hNames name (List.mem_cons_of_mem _ hName)

/-- If no name occurs twice, a name is repeated only if another one is the same regardless of
case. -/
theorem Database.exists_of_repeatedColumn? {names : List String} {column : String} :
    ∀ {seen : List String}, (names ++ seen).Nodup → repeatedColumn? seen names = some column →
      column ∈ names ∧ ∃ other ∈ names ++ seen, other ≠ column ∧
        Text.sameIgnoringAsciiCase column other = true := by
  induction names with
  | nil => exact fun {_} _ h => nomatch h
  | cons first rest ih =>
      intro seen hNodup h
      rw [repeatedColumn?] at h
      split at h
      next hSeen =>
        obtain rfl := Option.some.inj h
        obtain ⟨other, hOther, hSame⟩ := List.any_eq_true.mp hSeen
        have hFresh := (List.nodup_cons.mp hNodup).1
        refine ⟨List.mem_cons_self, other, List.mem_append_right _ hOther, ?_, hSame⟩
        rintro rfl
        exact hFresh (List.mem_append_right _ hOther)
      next =>
        obtain ⟨hColumn, other, hOther, hFound⟩ :=
          ih (List.perm_middle.nodup_iff.mpr hNodup) h
        exact ⟨List.mem_cons_of_mem _ hColumn, other, List.perm_middle.mem_iff.mp hOther, hFound⟩

/-! ## Tables of a record type -/

namespace Schema

/-- The cell of a row in a named column. -/
def cell (schema : Schema) (row : Row) (name : String) : Cell :=
  row.cells.getD (schema.columnNames.idxOf name) .null

/-- The cell of a row in the primary key. -/
def keyCell (schema : Schema) (row : Row) : Cell := schema.cell row schema.primaryKey

/-- The table was created for the record type. -/
structure HasTable (schema : Schema) (table : Table) : Prop where
  made : { table with rows := [] } = Table.ofStatement schema.createTable
  unambiguous : Text.Unambiguous schema.columnNames
  length_le : schema.columns.length ≤ Database.maxColumns

/-- The rows of the table are records of the type: each has a cell that fits for every column, texts
have no NUL, and the keys are there and differ.  A key that is the number of the row is just
that. -/
structure HasRows (schema : Schema) (table : Table) : Prop where
  fits : ∀ row ∈ table.rows,
    List.Forall₂ (fun column cell => column.type.Fits cell) schema.columns row.cells
  nulFree : ∀ row ∈ table.rows, ∀ text, Cell.text text ∈ row.cells → Text.NulFree text
  keyed : ∀ row ∈ table.rows, schema.keyCell row ≠ .null
  numbered : table.keyIsNumber = true → ∀ row ∈ table.rows, schema.keyCell row = .integer row.number
  distinct : table.rows.Pairwise fun left right =>
    (schema.keyCell left).cmp (schema.keyCell right) ≠ .eq

/-- The rows of the table have the types of its columns: each has a cell that fits for every column,
and a key that is the number of the row is just that. -/
structure Typed (schema : Schema) (table : Table) : Prop where
  fits : ∀ row ∈ table.rows,
    List.Forall₂ (fun column cell => column.type.Fits cell) schema.columns row.cells
  numbered : table.keyIsNumber = true → ∀ row ∈ table.rows, schema.keyCell row = .integer row.number

theorem HasRows.typed {schema : Schema} {table : Table} (hRows : schema.HasRows table) :
    schema.Typed table :=
  ⟨hRows.fits, hRows.numbered⟩

/-- **The statement of a record type creates its table**, without rows. -/
theorem exists_hasTable_of_create {schema : Schema} {database created : Database}
    (hCreate : database.create schema.createTable = .ok created)
    (hNone : database.table? schema.table = none) :
    ∃ table, created.table? schema.table = some table ∧ schema.HasTable table ∧
      table.rows = [] := by
  have hAbsent : (database.table? schema.createTable.table).isSome = false := by
    rw [show schema.createTable.table = schema.table from rfl, hNone]
    rfl
  rw [Database.create] at hCreate
  split at hCreate
  · cases hCreate
  rw [hAbsent, if_neg Bool.false_ne_true] at hCreate
  split at hCreate
  · cases hCreate
  next hRepeated =>
    split at hCreate
    · cases hCreate
    next hFew =>
      obtain rfl := Except.ok.inj hCreate
      have hNames : schema.createTable.columns.map NewColumn.name = schema.columnNames := by
        simp [createTable, columnNames, Function.comp_def]
      have hLength : schema.columns.length ≤ Database.maxColumns := by
        simpa [createTable] using hFew
      rw [hNames, List.take_of_length_le (by simp [columnNames]; omega)] at hRepeated
      refine ⟨Table.ofStatement schema.createTable, ?_,
        ⟨rfl, (Database.repeatedColumn?_eq_none.mp hRepeated).2, hLength⟩, rfl⟩
      rw [Database.table?, List.find?_append, ← Database.table?, hNone]
      simp [Table.ofStatement, createTable, Text.sameIgnoringAsciiCase_refl]

/-! ## Names in the table -/

section

variable {schema : Schema} {table : Table}

theorem HasTable.columns_eq (hTable : schema.HasTable table) :
    table.columns = schema.columns.map fun column => ⟨column.name, affinityOf column.type⟩ := by
  have hMade := congrArg Table.columns hTable.made
  simpa [Table.ofStatement, createTable, Function.comp_def] using hMade

theorem HasTable.key_eq (hTable : schema.HasTable table) :
    table.key = schema.columnNames.idxOf schema.primaryKey := by
  have hMade := congrArg Table.key hTable.made
  simpa [Table.ofStatement, createTable, columnNames, List.idxOf, List.findIdx_map,
    Function.comp_def] using hMade

theorem mem_columnNames {column : Column} (hMem : column ∈ schema.columns) :
    column.name ∈ schema.columnNames := List.mem_map_of_mem hMem

/-- A column stands in the place of its name. -/
theorem Valid.getElem?_idxOf (hValid : schema.Valid) {column : Column}
    (hMem : column ∈ schema.columns) :
    schema.columns[schema.columnNames.idxOf column.name]? = some column := by
  have hLt := List.idxOf_lt_length_of_mem (mem_columnNames hMem)
  have hSame : schema.columnNames.length = schema.columns.length := List.length_map _
  have hLength : schema.columnNames.idxOf column.name < schema.columns.length := hSame ▸ hLt
  have hName : (schema.columns[schema.columnNames.idxOf column.name]).name = column.name :=
    (List.getElem_map _).symm.trans (List.getElem_idxOf hLt)
  rw [List.getElem?_eq_getElem hLength, Option.some.injEq]
  exact hValid.column_ext (List.getElem_mem hLength) hMem hName

/-- **A column stands for the cell in its place.** -/
theorem HasTable.resolve_column (hTable : schema.HasTable table) {column : Column}
    (hMem : column ∈ schema.columns) :
    table.resolve column.name = .stored (schema.columnNames.idxOf column.name) := by
  have hIndex : table.columnIndex? column.name = some (schema.columnNames.idxOf column.name) := by
    have hNames : table.columnIndex? column.name = schema.columnNames.findIdx? fun name =>
        Text.sameIgnoringAsciiCase name column.name := by
      rw [Table.columnIndex?, hTable.columns_eq, columnNames, List.findIdx?_map, List.findIdx?_map]
      rfl
    have hLt := List.idxOf_lt_length_of_mem (mem_columnNames hMem)
    rw [hNames, List.findIdx?_eq_some_iff_getElem]
    refine ⟨hLt, ?_, fun other hOther => ?_⟩
    · rw [List.getElem_idxOf hLt]
      exact Text.sameIgnoringAsciiCase_refl _
    · -- A name before it that is the same regardless of case would make the two ambiguous.
      have hDiffer := List.pairwise_iff_getElem.mp hTable.unambiguous other _
        (Nat.lt_trans hOther hLt) hLt hOther
      rw [List.getElem_idxOf hLt] at hDiffer
      simp [hDiffer]
  rw [Table.resolve, hIndex]

theorem HasTable.value_column (hTable : schema.HasTable table) {column : Column}
    (hMem : column ∈ schema.columns) (row : Row) :
    table.values row column.name = schema.cell row column.name := by
  rw [Table.values, hTable.resolve_column hMem]
  rfl

theorem HasTable.affinity_column (hValid : schema.Valid) (hTable : schema.HasTable table)
    {column : Column} (hMem : column ∈ schema.columns) :
    table.affinity? (.stored (schema.columnNames.idxOf column.name)) =
      some (affinityOf column.type) := by
  rw [Table.affinity?, hTable.columns_eq, List.getElem?_map, hValid.getElem?_idxOf hMem]
  rfl

theorem HasTable.keyIsNumber_iff (hValid : schema.Valid) (hTable : schema.HasTable table) :
    table.keyIsNumber = true ↔ affinityOf schema.key.type = .integer := by
  have hMade := congrArg Table.keyIsNumber hTable.made
  have hAny : table.keyIsNumber = schema.columns.any fun column =>
      column.name == schema.primaryKey && affinityOf column.type == .integer := by
    simpa [Table.ofStatement, createTable, Function.comp_def] using hMade
  rw [hAny, List.any_eq_true]
  constructor
  · rintro ⟨column, hMem, hBoth⟩
    obtain ⟨hName, hInteger⟩ := Bool.and_eq_true_iff.mp hBoth
    obtain rfl := hValid.column_ext hMem hValid.key_mem (beq_iff_eq.mp hName)
    exact beq_iff_eq.mp hInteger
  · intro hInteger
    exact ⟨schema.key, hValid.key_mem, by simp [primaryKey, hInteger]⟩

/-- Whether a column is the number of the row. -/
theorem HasTable.isNumberTarget_column (hTable : schema.HasTable table) {column : Column}
    (hMem : column ∈ schema.columns) :
    table.isNumberTarget (.stored (schema.columnNames.idxOf column.name)) = true ↔
      table.keyIsNumber = true ∧ column.name = schema.primaryKey := by
  rw [Table.isNumberTarget, hTable.key_eq]
  have hInjective : schema.columnNames.idxOf column.name =
      schema.columnNames.idxOf schema.primaryKey ↔ column.name = schema.primaryKey :=
    List.idxOf_inj (mem_columnNames hMem)
  simp [hInjective]

/-! ## Cells of rows -/

theorem Typed.fits_cell (hValid : schema.Valid) (hTyped : schema.Typed table) {row : Row}
    (hRow : row ∈ table.rows) {column : Column} (hMem : column ∈ schema.columns) :
    column.type.Fits (schema.cell row column.name) := by
  have hFits := hTyped.fits row hRow
  have hColumn := hValid.getElem?_idxOf hMem
  obtain ⟨hLt, hGet⟩ := List.getElem?_eq_some_iff.mp hColumn
  have hLtCells : schema.columnNames.idxOf column.name < row.cells.length := hFits.length_eq ▸ hLt
  have hEach := (List.forall₂_iff_get.mp hFits).2 _ hLt hLtCells
  rw [List.get_eq_getElem, List.get_eq_getElem, hGet] at hEach
  rw [cell, List.getD_eq_getElem _ _ hLtCells]
  exact hEach

theorem Typed.fits_keyCell (hValid : schema.Valid) (hTyped : schema.Typed table) {row : Row}
    (hRow : row ∈ table.rows) : schema.key.type.Fits (schema.keyCell row) :=
  hTyped.fits_cell hValid hRow hValid.key_mem

/-- A column without NULs. -/
theorem HasRows.nulFree_cell (hRows : schema.HasRows table) {row : Row} (hRow : row ∈ table.rows)
    {name text : String} (hText : schema.cell row name = .text text) : Text.NulFree text := by
  refine hRows.nulFree row hRow text ?_
  rw [cell] at hText
  by_cases hLt : schema.columnNames.idxOf name < row.cells.length
  · rw [List.getD_eq_getElem _ _ hLt] at hText
    exact hText ▸ List.getElem_mem hLt
  · rw [List.getD_eq_default _ _ (Nat.not_lt.mp hLt)] at hText
    cases hText

theorem convert_integer_of_fits {type : ColumnType} {parameter : Cell}
    (hType : affinityOf type = .integer) (hFits : type.Fits parameter) (hNull : parameter ≠ .null) :
    ∃ number, parameter = .integer number ∧ parameter.convert .integer = .integer number := by
  cases hFits with
  | null => exact absurd rfl hNull
  | text => cases hType
  | float => cases hType
  | integer number => exact ⟨number, rfl, rfl⟩
  | boolean number => exact ⟨number, rfl, rfl⟩

theorem fits_integer {type : ColumnType} (hType : affinityOf type = .integer) (number : Int) :
    type.Fits (.integer number) := by
  cases type with
  | text => cases hType
  | float => cases hType
  | integer => exact .integer number
  | boolean => exact .boolean number

/-- **A column equals a value if its cell and the value are equal in the order of cells**, also
where the column is the number of the row. -/
theorem equalsParameter_eq_true (hValid : schema.Valid) (hTable : schema.HasTable table)
    (hTyped : schema.Typed table) {row : Row} (hRow : row ∈ table.rows) {column : Column}
    (hMem : column ∈ schema.columns) {parameter : Cell} (hFits : column.type.Fits parameter)
    (hNull : parameter ≠ .null) :
    table.equalsParameter row column.name parameter = some true ↔
      (schema.cell row column.name).cmp parameter = .eq := by
  unfold Table.equalsParameter
  rw [hTable.resolve_column hMem]
  dsimp only
  by_cases hNumber : table.isNumberTarget (.stored (schema.columnNames.idxOf column.name)) = true
  · rw [if_pos hNumber]
    obtain ⟨hKeyIsNumber, hName⟩ := (hTable.isNumberTarget_column hMem).mp hNumber
    obtain rfl := hValid.column_ext hMem hValid.key_mem hName
    obtain ⟨number, rfl, hConvert⟩ :=
      convert_integer_of_fits ((hTable.keyIsNumber_iff hValid).mp hKeyIsNumber) hFits hNull
    have hCell : schema.cell row schema.key.name = .integer row.number :=
      hTyped.numbered hKeyIsNumber row hRow
    rw [hConvert, hCell]
    dsimp only
    rw [Option.some.injEq, beq_iff_eq, Cell.cmp, compare_eq_iff_eq]
    exact eq_comm
  · rw [if_neg hNumber, hTable.affinity_column hValid hMem]
    exact Cell.equals_eq_true (hTyped.fits_cell hValid hRow hMem) hFits hNull

/-! ## Records -/

/-- The record of a row. -/
def recordOf (schema : Schema) (row : Row) : Record :=
  ⟨KeyMap.ofList (schema.columns.map fun column =>
    (column.name, column.type.show (schema.cell row column.name)))⟩

theorem get?_recordOf_eq (hValid : schema.Valid) (row : Row) (name : String) :
    (schema.recordOf row).get? name = (schema.columns.map fun column =>
      (column.name, column.type.show (schema.cell row column.name))).lookup name := by
  refine KeyMap.get?_ofList_of_nodup ?_ name
  rw [List.map_map]
  exact hValid.nodup

/-- The record of a row has the columns of its type. -/
theorem isSome_get?_recordOf (hValid : schema.Valid) (row : Row) (name : String) :
    ((schema.recordOf row).get? name).isSome = true ↔ name ∈ schema.columnNames := by
  rw [get?_recordOf_eq hValid, List.lookup_isSome_iff]
  constructor
  · rintro ⟨entry, hEntry, hName⟩
    obtain ⟨column, hMem, rfl⟩ := List.mem_map.mp hEntry
    rw [beq_iff_eq.mp hName]
    exact mem_columnNames hMem
  · intro hName
    obtain ⟨column, hMem, rfl⟩ := List.mem_map.mp hName
    exact ⟨_, List.mem_map_of_mem hMem, beq_self_eq_true _⟩

/-- In each column it has what the column shows. -/
theorem get?_recordOf (hValid : schema.Valid) (row : Row) {column : Column}
    (hMem : column ∈ schema.columns) :
    (schema.recordOf row).get? column.name =
      some (column.type.show (schema.cell row column.name)) := by
  have hSome := (isSome_get?_recordOf hValid row column.name).mpr (mem_columnNames hMem)
  obtain ⟨value, hValue⟩ := Option.isSome_iff_exists.mp hSome
  obtain ⟨before, rest, hSplit, -⟩ :=
    List.lookup_eq_some_iff.mp ((get?_recordOf_eq hValid row column.name).symm.trans hValue)
  have hEntry : (column.name, value) ∈ schema.columns.map fun column =>
      (column.name, column.type.show (schema.cell row column.name)) := by
    rw [hSplit]
    exact List.mem_append_right _ List.mem_cons_self
  obtain ⟨other, hOther, hSame⟩ := List.mem_map.mp hEntry
  obtain ⟨hName, hShown⟩ := Prod.mk.inj hSame
  rw [hValue, ← hShown, hValid.column_ext hOther hMem hName]

end

end Schema

/-- Cells that fit are read one after the other. -/
theorem readRow_map {cells : Column → String × Cell} {columns : List Column}
    (hFits : ∀ column ∈ columns, column.type.Fits (cells column).2) :
    ∀ (index : Nat) (record : Record),
      readRow index record columns (columns.map cells) =
        .ok ⟨columns.foldl (fun values column =>
          values.insert column.name (column.type.show (cells column).2)) record.values⟩ := by
  induction columns with
  | nil =>
      intro index record
      rw [readRow]
      rfl
  | cons column rest ih =>
      intro index record
      obtain ⟨hColumn, hRest⟩ := List.forall_mem_cons.mp hFits
      rw [List.map_cons, readRow, ColumnType.read?_of_fits hColumn]
      exact ih hRest _ _

/-- **A selected row is read as the record of its cells.** -/
theorem Schema.readRow_project {schema : Schema} {table : Table} (hValid : schema.Valid)
    (hTable : schema.HasTable table) (hTyped : schema.Typed table) {row : Row}
    (hRow : row ∈ table.rows) :
    readRow 0 .empty schema.columns (table.project schema.columnNames row) =
      .ok (schema.recordOf row) := by
  have hValue : ∀ column ∈ schema.columns,
      (table.resolve column.name).value row = schema.cell row column.name :=
    fun column hMem => hTable.value_column hMem row
  have hProject : table.project schema.columnNames row = schema.columns.map fun column =>
      (table.reportedName (table.resolve column.name), schema.cell row column.name) := by
    rw [Table.project, columnNames, List.map_map]
    exact List.map_congr_left fun column hMem => by simp [hValue column hMem]
  rw [hProject, readRow_map fun column hMem => hTyped.fits_cell hValid hRow hMem, recordOf,
    KeyMap.ofList, List.foldl_map]
  rfl

end FieldSearch
