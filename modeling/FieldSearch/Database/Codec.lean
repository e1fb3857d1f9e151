import FieldSearch.Database.Basic

/-!
# Databases in JSON

A database is kept as one JSON value: a list of tables, in which names, types and rows stand in a
fixed order, and beside it the list of what was done. Real numbers are kept by their bits, in a
list of their own, so that none is rounded and none is taken for an integer.

## Main results

* `Database.ofJson?_toJson`: a database that has been written reads back.
-/

namespace FieldSearch.Database

open Number (Binary64)

/-- The values that a list of values is read as, if each of them can be read. -/
def readEach {α : Type} (reader : Json → Option α) : List Json → Option (List α)
  | [] => some []
  | item :: items =>
      match reader item, readEach reader items with
      | some value, some values => some (value :: values)
      | _, _ => none

theorem readEach_map {α : Type} {reader : Json → Option α} {writer : α → Json}
    (h : ∀ value, reader (writer value) = some value) (values : List α) :
    readEach reader (values.map writer) = some values := by
  induction values with
  | nil => rfl
  | cons value values ih => simp [readEach, h, ih]

/-! ## Cells and rows -/

/-- A byte as a value. -/
def writeByte (byte : UInt8) : Json := .integer byte.toNat

/-- Reads a byte. -/
def readByte? : Json → Option UInt8
  | .integer value => some (UInt8.ofNat value.toNat)
  | _ => none

theorem readByte?_writeByte (byte : UInt8) : readByte? (writeByte byte) = some byte := by
  simp [readByte?, writeByte]

/-- A cell as a value. -/
def Cell.toJson : Cell → Json
  | .null => .null
  | .integer value => .integer value
  | .real value => .list [.integer value.bits]
  | .text value => .text value
  | .broken bytes => .list (.null :: bytes.map writeByte)
  | .blob bytes => .list (.bool true :: bytes.map writeByte)

/-- Reads a cell. -/
def Cell.ofJson? : Json → Option Cell
  | .null => some .null
  | .integer value => some (.integer value)
  | .list [.integer word] => some (.real (Binary64.ofBits word.toNat))
  | .text value => some (.text value)
  | .list (.null :: bytes) => (readEach readByte? bytes).map .broken
  | .list (.bool true :: bytes) => (readEach readByte? bytes).map .blob
  | _ => none

@[simp]
theorem Cell.ofJson?_toJson (cell : Cell) : Cell.ofJson? cell.toJson = some cell := by
  cases cell <;> simp [Cell.toJson, Cell.ofJson?, readEach_map readByte?_writeByte]

/-- A row as a list: its number, and its cells behind it. -/
def Row.toJson (row : Row) : Json := .list (.integer row.number :: row.cells.map Cell.toJson)

/-- Reads a row. -/
def Row.ofJson? : Json → Option Row
  | .list (.integer number :: cells) => (readEach Cell.ofJson? cells).map (Row.mk number)
  | _ => none

@[simp]
theorem Row.ofJson?_toJson (row : Row) : Row.ofJson? row.toJson = some row := by
  simp [Row.toJson, Row.ofJson?, readEach_map Cell.ofJson?_toJson]

/-! ## Tables -/

/-- The names of the affinities. -/
def Affinity.named : List (String × Affinity) :=
  [("text", .text), ("integer", .integer), ("real", .real), ("any", .any)]

/-- The name of an affinity. -/
def Affinity.name : Affinity → String
  | .text => "text"
  | .integer => "integer"
  | .real => "real"
  | .any => "any"

/-- A column as a list: its name and its affinity. -/
def StoredColumn.toJson (column : StoredColumn) : Json :=
  .list [.text column.name, .text column.affinity.name]

/-- Reads a column. -/
def StoredColumn.ofJson? : Json → Option StoredColumn
  | .list [.text name, .text affinity] =>
      (Affinity.named.lookup affinity).map (StoredColumn.mk name)
  | _ => none

@[simp]
theorem StoredColumn.ofJson?_toJson (column : StoredColumn) :
    StoredColumn.ofJson? column.toJson = some column := by
  obtain ⟨name, affinity⟩ := column
  cases affinity <;> rfl

/-- A table as a list: its name, its columns, its key, and its rows. -/
def Table.toJson (table : Table) : Json :=
  .list [.text table.name, .list (table.columns.map StoredColumn.toJson), .integer table.key,
    .bool table.keyIsNumber, .list (table.rows.map Row.toJson)]

/-- Reads a table. -/
def Table.ofJson? : Json → Option Table
  | .list [.text name, .list columns, .integer key, .bool keyIsNumber, .list rows] =>
      match readEach StoredColumn.ofJson? columns, readEach Row.ofJson? rows with
      | some columns, some rows => some ⟨name, columns, key.toNat, keyIsNumber, rows⟩
      | _, _ => none
  | _ => none

@[simp]
theorem Table.ofJson?_toJson (table : Table) : Table.ofJson? table.toJson = some table := by
  simp [Table.toJson, Table.ofJson?, readEach_map StoredColumn.ofJson?_toJson,
    readEach_map Row.ofJson?_toJson]

end FieldSearch.Database

namespace FieldSearch

/-! ## Databases -/

namespace Database

/-- A change as a list: the name of the table, and the number of the row if one was inserted. -/
def Change.toJson : Change → Json
  | .created table => .list [.text table]
  | .inserted table number => .list [.text table, .integer number]

/-- Reads a change. -/
def Change.ofJson? : Json → Option Change
  | .list [.text table] => some (.created table)
  | .list [.text table, .integer number] => some (.inserted table number)
  | _ => none

@[simp]
theorem Change.ofJson?_toJson (change : Change) : Change.ofJson? change.toJson = some change := by
  cases change <;> rfl

/-- A database as two lists: its tables, and what was done to it. -/
def toJson (database : Database) : Json :=
  .list [.list (database.tables.map Table.toJson), .list (database.history.map Change.toJson)]

/-- Reads a database. -/
def ofJson? : Json → Option Database
  | .list [.list tables, .list history] =>
      match readEach Table.ofJson? tables, readEach Change.ofJson? history with
      | some tables, some history => some ⟨tables, history⟩
      | _, _ => none
  | _ => none

theorem ofJson?_toJson (database : Database) : ofJson? database.toJson = some database := by
  simp [toJson, ofJson?, readEach_map Table.ofJson?_toJson, readEach_map Change.ofJson?_toJson]

end Database
end FieldSearch
