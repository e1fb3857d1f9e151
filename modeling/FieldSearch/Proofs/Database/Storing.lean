import FieldSearch.Proofs.Database.Table
import FieldSearch.Proofs.Number.Rounding
import Mathlib

/-!
# Records as rows

A record becomes a row in four steps: the statement names the columns to which it
gives values, the table looks the names up, a number is chosen for the row, and
each column takes the value that was given for it or none.  What comes of them can
be said at once: each column keeps the value that the record gives to it, but a
key that is the number of the row keeps that number.

What a column keeps is not always what it was given.  A float is kept without the
sign of a zero, and an integer in a column of floats as the number nearest to it,
which is the integer itself where there is such a number.

## Main results

* `convert_ofValue`, `givesBack_show`: what a column keeps of a value, and what it
  gives back.
* `insertion_eq_ok`: the statement that stores a record.
* `insert_eq`: inserting a record puts its row in its place.
-/

namespace FieldSearch

open Database (Cell Row Table Reference affinityOf)
open Number (Binary64)

/-! ## Values in a column -/

/-- The cell in which a column of a type keeps a value. -/
def ColumnType.stored : ColumnType → Json → Cell
  | .text, .text value => .text value
  | .integer, .integer value => .integer value
  | .float, .integer value => .real (Binary64.ofInt value).plain
  | .float, .real value => .real value.plain
  | .boolean, .bool value => .integer (if value then 1 else 0)
  | _, _ => .null

/-- What a column of a type gives back for a value that it took: the value itself, but floats as
floats, exactly if that can be, and zeros without a sign. -/
def ColumnType.GivesBack : ColumnType → Json → Json → Prop
  | .float, .integer value, back =>
      ∀ nearest : Binary64, nearest.toInt? = some value →
        ∃ number : Binary64, back = .real number ∧ number.toInt? = some value
  | .float, .real value, back =>
      if value.isFinite then
        ∃ number, back = .real number ∧ (number = value ∨ number.isZero ∧ value.isZero)
      else back = .null
  | _, value, back => back = value

theorem Database.Cell.convert_real (value : Binary64) :
    (Cell.real value).convert .real = .real value.plain := by
  have hInteger (n : Int) (h : Cell.wholeReal value = .integer n) :
      (Cell.real value).convert .real = .real (Binary64.ofInt n) := by
    simp only [Cell.convert, Cell.numeric, h]
  have hReal (h : Cell.wholeReal value = .real value) :
      (Cell.real value).convert .real = .real value := by
    simp only [Cell.convert, Cell.numeric, h]
  -- Outside the range of integers there is no zero whose sign could be lost.
  have hPlain : value.toInt? ≠ some 0 → value.plain = value := fun hNonzero =>
    Binary64.plain_of_not_isZero (Bool.not_eq_true _ ▸ mt Binary64.toInt?_of_isZero hNonzero)
  rw [Cell.wholeReal] at hInteger hReal
  cases hWhole : value.toInt? with
  | none =>
      rw [hWhole] at hReal hPlain
      rw [hReal rfl, hPlain (by simp)]
  | some n =>
      rw [hWhole] at hInteger hReal hPlain
      by_cases hRange : Number.minInt64 < n ∧ n < Number.maxInt64
      · rw [hInteger n (if_pos hRange), ← Binary64.ofInt_of_toInt? hWhole]
      · have hNonzero : n ≠ 0 := by
          rintro rfl
          exact hRange (by decide)
        rw [hReal (if_neg hRange), hPlain (by simpa using hNonzero)]

section

variable {type : ColumnType} {json : Json} {value : Sql.Value}

/-- **A value that was converted for a column is kept so.** -/
theorem ColumnType.convert_ofValue (h : type.toValue? json = some value) :
    (Cell.ofValue value).convert (affinityOf type) = type.stored json := by
  unfold toValue? at h
  split at h
  · obtain rfl := Option.some.inj h
    cases type <;> rfl
  · obtain rfl := Option.some.inj h
    rfl
  · split at h
    · obtain rfl := Option.some.inj h
      rfl
    · cases h
  · obtain rfl := Option.some.inj h
    exact Cell.convert_real _
  · obtain rfl := Option.some.inj h
    exact Cell.convert_real _
  · obtain rfl := Option.some.inj h
    rfl
  · cases h

theorem ColumnType.fits_stored (type : ColumnType) (json : Json) :
    type.Fits (type.stored json) := by
  unfold stored
  split
  · exact .text _
  · exact .integer _
  · exact .float _
  · exact .float _
  · exact .boolean _
  · exact .null _

theorem ColumnType.stored_null (type : ColumnType) : type.stored .null = .null := by
  cases type <;> rfl

/-- No value but null is kept as null. -/
theorem ColumnType.stored_eq_null (h : type.toValue? json = some value) :
    type.stored json = .null ↔ json = .null := by
  cases type <;> cases json <;> simp [stored] <;> cases h

/-- A value that is no float is kept as it is. -/
theorem ColumnType.stored_eq_ofValue (hType : type ≠ .float) (h : type.toValue? json = some value) :
    type.stored json = Cell.ofValue value := by
  unfold toValue? at h
  split at h
  · obtain rfl := Option.some.inj h
    exact type.stored_null
  · obtain rfl := Option.some.inj h
    rfl
  · split at h
    · obtain rfl := Option.some.inj h
      rfl
    · cases h
  · exact absurd rfl hType
  · exact absurd rfl hType
  · obtain rfl := Option.some.inj h
    rfl
  · cases h

/-- **What a column gives back** for a value that it took. -/
theorem ColumnType.givesBack_show (h : type.toValue? json = some value) :
    type.GivesBack json (type.show (type.stored json)) := by
  unfold toValue? at h
  split at h
  · cases type <;> rfl
  · rfl
  · rfl
  · intro nearest hNearest
    have hRounded := Binary64.ofInt_of_toInt? hNearest
    have hWhole : nearest.plain.toInt? = some _ := (Binary64.toInt?_plain nearest).trans hNearest
    have hFinite : nearest.plain.isFinite = true := (Binary64.toInt?_eq_some.mp hWhole).1
    refine ⟨nearest.plain, ?_, hWhole⟩
    rw [stored, hRounded, Binary64.plain_plain, ColumnType.show, if_pos hFinite]
  · rename_i number
    have hShown : ColumnType.float.show (stored .float (.real number)) =
        if number.isFinite then .real number.plain else .null := by
      rw [← Binary64.isFinite_plain]
      rfl
    rw [hShown, GivesBack]
    by_cases hFinite : number.isFinite = true
    · rw [if_pos hFinite, if_pos hFinite]
      refine ⟨number.plain, rfl, ?_⟩
      by_cases hZero : number.isZero = true
      · rw [Binary64.plain_of_isZero hZero]
        exact .inr ⟨rfl, hZero⟩
      · exact .inl (Binary64.plain_of_not_isZero (Bool.not_eq_true _ ▸ hZero))
    · rw [if_neg hFinite, if_neg hFinite]
  · rename_i flag
    cases flag <;> rfl
  · cases h

end

/-! ## The statement of a record -/

/-- The value of a record for a column, null where there is none. -/
def Record.given (record : Record) (column : Column) : Json :=
  (record.get? column.name).getD .null

/-- The value that a record gives to a column, as the statement has it. -/
def Record.value? (record : Record) (column : Column) : Option Sql.Value :=
  match record.given column with
  | .null => none
  | json => column.type.toValue? json

theorem Record.value?_of_null {record : Record} {column : Column}
    (hNull : record.given column = .null) : record.value? column = none := by
  rw [value?, hNull]

theorem Record.value?_of_ne_null {record : Record} {column : Column}
    (hNull : record.given column ≠ .null) :
    record.value? column = column.type.toValue? (record.given column) := by
  unfold value?
  split
  next h => exact absurd h hNull
  · rfl

namespace Schema

variable {schema : Schema} {table : Table} {record : Record} {statement : Insert}

/-- The columns to which a record gives values, with the values. -/
def entries (schema : Schema) (record : Record) : List (Column × Sql.Value) :=
  schema.columns.filterMap fun column => (record.value? column).map fun value => (column, value)

theorem mem_entries {column : Column} {value : Sql.Value} :
    (column, value) ∈ schema.entries record ↔
      column ∈ schema.columns ∧ record.value? column = some value := by
  simp only [entries, List.mem_filterMap, Option.map_eq_some_iff, Prod.mk.injEq]
  constructor
  · rintro ⟨_, hMem, _, hValue, rfl, rfl⟩
    exact ⟨hMem, hValue⟩
  · rintro ⟨hMem, hValue⟩
    exact ⟨column, hMem, value, hValue, rfl, rfl⟩

theorem columnValue_eq_ok (hValid : schema.Valid) {column : Column}
    (hMem : column ∈ schema.columns) {json : Json} {value : Sql.Value} :
    schema.columnValue column.name json = .ok value ↔ column.type.toValue? json = some value :=
  columnValue_eq_ok_iff (hValid.column?_eq_some_iff.mpr ⟨hMem, rfl⟩)

/-- A column for which there is no value, or null, is passed over. -/
theorem cells_cons_of_null {column : Column} {rest : List Column}
    (hNull : record.given column = .null) :
    schema.cells record (column :: rest) = schema.cells record rest := by
  rw [Schema.cells]
  split
  · rfl
  · rfl
  next json hNotNull hGet =>
    rw [Record.given, hGet] at hNull
    exact absurd hNull hNotNull

/-- A column for which there is a value is given that value, if it fits. -/
theorem cells_cons_of_ne_null {column : Column} {rest : List Column}
    (hNull : record.given column ≠ .null) :
    schema.cells record (column :: rest) = (do
      let value ← schema.columnValue column.name (record.given column)
      let cells ← schema.cells record rest
      pure ((column.name, value) :: cells)) := by
  rw [Schema.cells]
  split
  next hNone =>
    rw [Record.given, hNone] at hNull
    exact absurd rfl hNull
  next hGet =>
    rw [Record.given, hGet] at hNull
    exact absurd rfl hNull
  next json hNotNull hGet =>
    have hGiven : record.given column = json := by
      rw [Record.given, hGet]
      rfl
    rw [hGiven]

/-- A column of a statement is passed over, or it is given a value that fits it. -/
theorem cells_cons_eq_ok (hValid : schema.Valid) {column : Column} {rest : List Column}
    (hMem : column ∈ schema.columns) {cells : List (String × Sql.Value)}
    (h : schema.cells record (column :: rest) = .ok cells) :
    (record.given column = .null ∧ schema.cells record rest = .ok cells) ∨
      ∃ value others, record.given column ≠ .null ∧
        column.type.toValue? (record.given column) = some value ∧
        schema.cells record rest = .ok others ∧ cells = (column.name, value) :: others := by
  by_cases hNull : record.given column = .null
  · rw [cells_cons_of_null hNull] at h
    exact .inl ⟨hNull, h⟩
  · rw [cells_cons_of_ne_null hNull] at h
    obtain ⟨value, hValue, h⟩ := bind_eq_ok.mp h
    obtain ⟨others, hOthers, h⟩ := bind_eq_ok.mp h
    exact .inr ⟨value, others, hNull, (columnValue_eq_ok hValid hMem).mp hValue, hOthers,
      (Except.ok.inj h).symm⟩

/-- The cells of a statement are the values that the record gives, if each fits its column. -/
theorem cells_eq_ok (hValid : schema.Valid) {columns : List Column}
    (hColumns : ∀ column ∈ columns, column ∈ schema.columns) :
    ∀ {cells : List (String × Sql.Value)}, schema.cells record columns = .ok cells →
      (∀ column ∈ columns, ∃ value, column.type.toValue? (record.given column) = some value) ∧
        cells = (columns.filterMap fun column =>
          (record.value? column).map fun value => (column, value)).map
            fun entry => (entry.1.name, entry.2) := by
  induction columns with
  | nil =>
      intro cells h
      obtain rfl := Except.ok.inj h
      exact ⟨fun _ hMem => absurd hMem List.not_mem_nil, rfl⟩
  | cons column rest ih =>
      intro cells h
      obtain ⟨hMem, hRest⟩ := List.forall_mem_cons.mp hColumns
      rcases cells_cons_eq_ok hValid hMem h with
        ⟨hNull, hCells⟩ | ⟨value, others, hNotNull, hValue, hOthers, rfl⟩
      · obtain ⟨hFits, hEq⟩ := ih hRest hCells
        refine ⟨List.forall_mem_cons.mpr ⟨⟨.null, ?_⟩, hFits⟩, ?_⟩
        · rw [hNull]
          cases column.type <;> rfl
        · rw [List.filterMap_cons_none (by rw [Record.value?_of_null hNull]; rfl), ← hEq]
      · obtain ⟨hFits, hEq⟩ := ih hRest hOthers
        refine ⟨List.forall_mem_cons.mpr ⟨⟨value, hValue⟩, hFits⟩, ?_⟩
        have hGiven : record.value? column = some value :=
          (Record.value?_of_ne_null hNotNull).trans hValue
        rw [List.filterMap_cons_some (b := (column, value)) (by rw [hGiven]; rfl), List.map_cons,
          ← hEq]

/-- **The statement that stores a record**: every value that the record gives fits its column, and
those that are not null are named in the order of the columns. -/
theorem insertion_eq_ok (hValid : schema.Valid) (h : schema.insertion record = .ok statement) :
    (∀ column ∈ schema.columns, ∃ value,
        column.type.toValue? (record.given column) = some value) ∧
      statement = ⟨schema.table, (schema.entries record).map fun entry =>
        (entry.1.name, entry.2)⟩ := by
  unfold insertion at h
  split at h
  · cases h
  · obtain ⟨cells, hCells, h⟩ := bind_eq_ok.mp h
    obtain rfl := Except.ok.inj h
    obtain ⟨hFits, hEq⟩ := cells_eq_ok hValid (fun _ hMem => hMem) hCells
    exact ⟨hFits, congrArg _ hEq⟩

/-! ## The row of a record -/

/-- Whether the key is the number of the row. -/
def keyIsNumber (schema : Schema) : Bool := affinityOf schema.key.type == .integer

/-- The row of a record under a number. -/
def rowOf (schema : Schema) (record : Record) (number : Int) : Row where
  number := number
  cells := schema.columns.map fun column =>
    if schema.keyIsNumber && column == schema.key then .integer number
    else column.type.stored (record.given column)

/-- The number under which a record is stored: its key if that is the number of the row, and else
the next one. -/
def numberFor (schema : Schema) (table : Table) (record : Record) : Int :=
  match schema.keyIsNumber, schema.key.type.stored (record.given schema.key) with
  | true, .integer number => number
  | _, _ => table.nextNumber

/-- The row that a record gets in a table. -/
def nextRow (schema : Schema) (table : Table) (record : Record) : Row :=
  schema.rowOf record (schema.numberFor table record)

theorem HasTable.keyIsNumber_eq (hValid : schema.Valid) (hTable : schema.HasTable table) :
    table.keyIsNumber = schema.keyIsNumber := by
  rw [Bool.eq_iff_iff, hTable.keyIsNumber_iff hValid, keyIsNumber, beq_iff_eq]

/-- What the table is given for a record: for each column that has a value, the value as a cell. -/
def givenCells (schema : Schema) (record : Record) : List (Reference × Cell) :=
  (schema.entries record).map fun entry =>
    (.stored (schema.columnNames.idxOf entry.1.name), Cell.ofValue entry.2)

theorem HasTable.targets_eq (hTable : schema.HasTable table) :
    table.targets ⟨schema.table, (schema.entries record).map fun entry =>
      (entry.1.name, entry.2)⟩ = .ok (schema.givenCells record) := by
  rw [Table.targets, mapM_eq_ok, givenCells, List.forall₂_map_left_iff, List.forall₂_map_right_iff,
    List.forall₂_same]
  intro entry hEntry
  have hMem : entry.1 ∈ schema.columns := (mem_entries.mp hEntry).1
  dsimp only
  rw [hTable.resolve_column hMem]
  rfl

theorem mem_givenCells {target : Reference} {cell : Cell} :
    (target, cell) ∈ schema.givenCells record ↔
      ∃ column ∈ schema.columns, ∃ value, record.value? column = some value ∧
        target = .stored (schema.columnNames.idxOf column.name) ∧ cell = Cell.ofValue value := by
  rw [givenCells, List.mem_map]
  constructor
  · rintro ⟨⟨column, value⟩, hEntry, hEq⟩
    obtain ⟨hMem, hValue⟩ := mem_entries.mp hEntry
    exact ⟨column, hMem, value, hValue, (Prod.mk.inj hEq).1.symm, (Prod.mk.inj hEq).2.symm⟩
  · rintro ⟨column, hMem, value, hValue, rfl, rfl⟩
    exact ⟨(column, value), mem_entries.mpr ⟨hMem, hValue⟩, rfl⟩

/-- A value that a record gives is kept as the column keeps it, and null where it gives none. -/
theorem stored_given {column : Column}
    (hFits : ∃ value, column.type.toValue? (record.given column) = some value) :
    column.type.stored (record.given column) =
      match record.value? column with
      | some value => (Cell.ofValue value).convert (affinityOf column.type)
      | none => .null := by
  by_cases hNull : record.given column = .null
  · rw [Record.value?_of_null hNull, hNull, ColumnType.stored_null]
  · obtain ⟨value, hValue⟩ := hFits
    rw [Record.value?_of_ne_null hNull, hValue]
    exact (ColumnType.convert_ofValue hValue).symm

/-- The column that is the number of the row is the key, if keys are numbers. -/
theorem HasTable.isNumberTarget_iff (hValid : schema.Valid) (hTable : schema.HasTable table)
    {column : Column} (hMem : column ∈ schema.columns) :
    table.isNumberTarget (.stored (schema.columnNames.idxOf column.name)) = true ↔
      schema.keyIsNumber = true ∧ column = schema.key := by
  rw [hTable.isNumberTarget_column hMem, hTable.keyIsNumber_eq hValid]
  refine and_congr_right fun _ => ⟨fun hName => ?_, fun hEq => by rw [hEq]; rfl⟩
  exact hValid.column_ext hMem hValid.key_mem hName

/-- **The number of the row of a record.** -/
theorem HasTable.chooseNumber_eq (hValid : schema.Valid) (hTable : schema.HasTable table)
    (hFits : ∀ column ∈ schema.columns, ∃ value,
      column.type.toValue? (record.given column) = some value) :
    table.chooseNumber (schema.givenCells record) = .ok (schema.numberFor table record) := by
  have hStored := stored_given (hFits _ hValid.key_mem)
  rw [Table.chooseNumber]
  cases hLast : ((schema.givenCells record).filter fun cell =>
      table.isNumberTarget cell.1).getLast? with
  | none =>
      have hNone := List.getLast?_eq_none_iff.mp hLast
      have hNumber : schema.numberFor table record = table.nextNumber := by
        cases hKey : schema.keyIsNumber with
        | false => rw [numberFor, hKey]
        | true =>
            have hAbsent : record.value? schema.key = none := by
              by_contra hSome
              obtain ⟨value, hValue⟩ := Option.ne_none_iff_exists'.mp hSome
              refine List.filter_eq_nil_iff.mp hNone _
                (mem_givenCells.mpr ⟨_, hValid.key_mem, value, hValue, rfl, rfl⟩) ?_
              exact (hTable.isNumberTarget_iff hValid hValid.key_mem).mpr ⟨hKey, rfl⟩
            rw [hAbsent] at hStored
            rw [numberFor, hKey, hStored]
      rw [hNumber]
      rfl
  | some last =>
      obtain ⟨target, cell⟩ := last
      obtain ⟨hGiven, hIsTarget⟩ := List.mem_filter.mp (List.mem_of_getLast? hLast)
      obtain ⟨column, hMem, value, hValue, rfl, rfl⟩ := mem_givenCells.mp hGiven
      obtain ⟨hKey, rfl⟩ := (hTable.isNumberTarget_iff hValid hMem).mp hIsTarget
      have hInteger : affinityOf schema.key.type = .integer := beq_iff_eq.mp hKey
      rw [hValue, hInteger] at hStored
      have hCell := schema.key.type.fits_stored (record.given schema.key)
      dsimp only at hStored ⊢
      rw [numberFor, hKey, ← hStored]
      generalize schema.key.type.stored (record.given schema.key) = kept at hCell ⊢
      generalize schema.key.type = type at hCell hInteger
      cases hCell with
      | text => cases hInteger
      | float => cases hInteger
      | _ => rfl

/-- The cell that the table is given for a column. -/
theorem find?_givenCells (hValid : schema.Valid) {column : Column}
    (hMem : column ∈ schema.columns) :
    ((schema.givenCells record).find? fun cell =>
        cell.1 == .stored (schema.columnNames.idxOf column.name)) =
      (record.value? column).map fun value =>
        (.stored (schema.columnNames.idxOf column.name), Cell.ofValue value) := by
  cases hFound : (schema.givenCells record).find? fun cell =>
      cell.1 == .stored (schema.columnNames.idxOf column.name) with
  | none =>
      cases hValue : record.value? column with
      | none => rfl
      | some value =>
          have hGiven := mem_givenCells.mpr ⟨column, hMem, value, hValue, rfl, rfl⟩
          exact absurd (List.find?_eq_none.mp hFound _ hGiven) (by simp)
  | some found =>
      obtain ⟨target, cell⟩ := found
      obtain ⟨other, hOther, value, hValue, rfl, rfl⟩ :=
        mem_givenCells.mp (List.mem_of_find?_eq_some hFound)
      have hPlace : schema.columnNames.idxOf other.name = schema.columnNames.idxOf column.name := by
        simpa using List.find?_some hFound
      have hName := (List.idxOf_inj (mem_columnNames hOther)).mp hPlace
      rw [hPlace, ← hValid.column_ext hOther hMem hName, hValue]
      rfl

/-- **The cells of the row of a record.** -/
theorem HasTable.chooseCells_eq (hValid : schema.Valid) (hTable : schema.HasTable table)
    (hFits : ∀ column ∈ schema.columns, ∃ value,
      column.type.toValue? (record.given column) = some value) (number : Int) :
    table.chooseCells (schema.givenCells record) number = (schema.rowOf record number).cells := by
  refine List.ext_getElem ?_ fun index hLeft hRight => ?_
  · simp [Table.chooseCells, rowOf, hTable.columns_eq]
  have hIndex : index < schema.columns.length := by simpa [rowOf] using hRight
  obtain ⟨column, hColumn⟩ : ∃ column, schema.columns[index] = column := ⟨_, rfl⟩
  have hMem : column ∈ schema.columns := hColumn ▸ List.getElem_mem hIndex
  have hPlace : schema.columnNames.idxOf column.name = index := by
    have hNamed : index < schema.columnNames.length := by simpa [columnNames] using hIndex
    have hName : schema.columnNames[index] = column.name := by simp [columnNames, hColumn]
    rw [← hName]
    exact hValid.nodup.idxOf_getElem _ _
  have hKey : (index == table.key) = (column == schema.key) := by
    have hName : schema.columnNames.idxOf column.name =
        schema.columnNames.idxOf schema.primaryKey ↔ column.name = schema.primaryKey :=
      List.idxOf_inj (mem_columnNames hMem)
    rw [Bool.eq_iff_iff, beq_iff_eq, beq_iff_eq, ← hPlace, hTable.key_eq, hName]
    exact ⟨hValid.column_ext hMem hValid.key_mem, fun hEq => by rw [hEq]; rfl⟩
  have hStored := stored_given (hFits column hMem)
  have hFound := @find?_givenCells schema record hValid column hMem
  rw [hPlace] at hFound
  simp only [Table.chooseCells, rowOf, List.getElem_map, List.getElem_zipIdx, hTable.columns_eq,
    hTable.keyIsNumber_eq hValid, Nat.zero_add, hKey, hFound, hColumn, hStored]
  cases record.value? column <;> rfl

theorem HasTable.keyOf_eq (hTable : schema.HasTable table) (row : Row) :
    table.keyOf row = schema.keyCell row := by
  rw [Table.keyOf, hTable.key_eq]
  rfl

/-- **Inserting a record puts its row in its place**, unless its number or its key is taken. -/
theorem HasTable.insert_eq (hValid : schema.Valid) (hTable : schema.HasTable table)
    (h : schema.insertion record = .ok statement) :
    let row := schema.nextRow table record
    table.insert statement =
      if table.rows.any fun other => other.number == row.number then
        throw (if schema.keyIsNumber then .keyExists table.name table.keyName
          else .rowIdExists table.name)
      else if !schema.keyIsNumber && table.isTaken (schema.keyCell row) then
        throw (.keyExists table.name table.keyName)
      else pure (row.number, { table with rows := Table.place row table.rows }) := by
  intro row
  obtain ⟨hFits, rfl⟩ := insertion_eq_ok hValid h
  have hKey : row.cells.getD table.key .null = schema.keyCell row := hTable.keyOf_eq row
  have hCells : table.chooseCells (schema.givenCells record) (schema.numberFor table record) =
      row.cells := hTable.chooseCells_eq hValid hFits _
  rw [Table.insert, hTable.targets_eq]
  simp only [bind, Except.bind, hTable.chooseNumber_eq hValid hFits, hTable.keyIsNumber_eq hValid,
    hCells, hKey]
  rw [show row.number = schema.numberFor table record from rfl]
  by_cases hNumber : (table.rows.any fun other =>
      other.number == schema.numberFor table record) = true
  · rw [if_pos hNumber, if_pos hNumber]
    rfl
  · rw [if_neg hNumber, if_neg hNumber]
    by_cases hTaken : (!schema.keyIsNumber && table.isTaken (schema.keyCell row)) = true
    · rw [if_pos hTaken, if_pos hTaken]
      rfl
    · rw [if_neg hTaken, if_neg hTaken]
      rfl

end Schema
end FieldSearch
