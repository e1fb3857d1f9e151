import FieldSearch.Database.Cell
import FieldSearch.Database.Fault
import FieldSearch.Schema.Statements

/-!
# Tables

A table has typed columns, one of which is its key, and rows. Every row has a number. The key of
an integer type is that number: a row inserted without a key gets the next number, and no two rows
share one. A key of another type only has to differ from the keys of the other rows, and may be
absent any number of times. Rows are kept in rising order of their numbers.

Names of tables and columns are compared regardless of ASCII case.

## Main results

* `mem_place`: a placed row is there, and the others are those there before.
-/

namespace FieldSearch.Database

/-- A column of a table. -/
structure StoredColumn where
  name : String
  affinity : Affinity
deriving DecidableEq, Repr

/-- A row: its number, and a cell for each column. -/
structure Row where
  number : Int
  cells : List Cell
deriving DecidableEq, Repr

/-- A table. -/
structure Table where
  name : String
  columns : List StoredColumn
  /-- The place of the key among the columns. -/
  key : Nat
  /-- Whether the key is the number of the row. -/
  keyIsNumber : Bool
  rows : List Row := []
deriving DecidableEq, Repr

/-- What a name in a statement stands for. -/
inductive Reference where
  | stored (index : Nat)
  | number
  /-- No column: the name itself as a text. -/
  | literal (text : String)
deriving DecidableEq, Repr

/-- The value of what a name stands for, in a row. -/
def Reference.value (row : Row) : Reference → Cell
  | .stored index => row.cells.getD index .null
  | .number => .integer row.number
  | .literal text => .text text

/-- Whether a name stands for the number of a row in a table without such a column. -/
def isNumberName (name : String) : Bool :=
  ["rowid", "oid", "_rowid_"].contains (Text.asciiLowercase name)

namespace Table

/-- The table of a statement that creates one. -/
def ofStatement (statement : CreateTable) : Table where
  name := statement.table
  columns := statement.columns.map fun column => ⟨column.name, affinityOf column.type⟩
  key := statement.columns.findIdx NewColumn.isKey
  keyIsNumber := statement.columns.any fun column =>
    column.isKey && affinityOf column.type == .integer

/-- The place of a column. -/
def columnIndex? (table : Table) (name : String) : Option Nat :=
  table.columns.findIdx? fun column => Text.sameIgnoringAsciiCase column.name name

/-- What a name stands for in the table. -/
def resolve (table : Table) (name : String) : Reference :=
  match table.columnIndex? name with
  | some index => .stored index
  | none => if isNumberName name then .number else .literal name

/-- The affinity of what a name stands for. -/
def affinity? (table : Table) : Reference → Option Affinity
  | .stored index => (table.columns[index]?).map StoredColumn.affinity
  | .number => some .integer
  | .literal _ => none

/-- The name of the key. -/
def keyName (table : Table) : String := ((table.columns[table.key]?).map StoredColumn.name).getD ""

/-- The name under which a selected column is reported. -/
def reportedName (table : Table) : Reference → String
  | .stored index => ((table.columns[index]?).map StoredColumn.name).getD ""
  | .number => if table.keyIsNumber then table.keyName else "rowid"
  | .literal text => Text.quoteIdentifier text

/-- Whether the table has a key; one that the database keeps for itself has none. -/
def hasKey (table : Table) : Bool := decide (table.key < table.columns.length)

/-- Whether the table has an index, that is, a key that is not the number of the row. -/
def hasIndex (table : Table) : Bool := table.hasKey && !table.keyIsNumber

/-- The key of a row. -/
def keyOf (table : Table) (row : Row) : Cell := row.cells.getD table.key .null

/-- The rows in the order of their keys. -/
def rowsByKey (table : Table) : List Row :=
  table.rows.mergeSort fun left right => (table.keyOf left).cmp (table.keyOf right) != .gt

/-! ## Inserting -/

/-- The references of the cells of a statement; a name that is no column is a fault. -/
def targets (table : Table) (statement : Insert) :
    Except Fault (List (Reference × Cell)) :=
  statement.cells.mapM fun cell =>
    match table.resolve cell.1 with
    | .literal _ => throw (.noSuchColumn statement.table cell.1)
    | target => pure (target, Cell.ofValue cell.2)

/-- The greatest number of a row. -/
def maxNumber : Int := Number.maxInt64

/-- The greatest number from `start` downwards that no row has, among the first `fuel` ones. -/
def unusedNumber (table : Table) : Nat → Int → Int
  | 0, start => start
  | fuel + 1, start =>
      if table.rows.any fun row => row.number == start then unusedNumber table fuel (start - 1)
      else start

/-- The number that the next row gets by itself: the one behind the last. Behind the greatest number
there is none, and one that is not in use is taken out of the lower half of the range. -/
def nextNumber (table : Table) : Int :=
  match table.rows.getLast? with
  | none => 1
  | some row =>
      if row.number < maxNumber then row.number + 1
      else table.unusedNumber table.rows.length (maxNumber / 2 + 1)

/-- Whether a target is the number of the row. -/
def isNumberTarget (table : Table) (target : Reference) : Bool :=
  target == .number || (table.keyIsNumber && target == .stored table.key)

/-- The number of a row to be inserted: the last one given, or the next one. -/
def chooseNumber (table : Table) (given : List (Reference × Cell)) : Except Fault Int :=
  match (given.filter fun cell => table.isNumberTarget cell.1).getLast? with
  | none => pure table.nextNumber
  | some (_, cell) =>
      match cell.convert .integer with
      | .null => pure table.nextNumber
      | .integer number => pure number
      | _ => throw .datatypeMismatch

/-- The cells of a row to be inserted: the first value given for each column. -/
def chooseCells (table : Table) (given : List (Reference × Cell)) (number : Int) : List Cell :=
  table.columns.zipIdx.map fun (column, index) =>
    if table.keyIsNumber && index == table.key then .integer number
    else
      match given.find? fun cell => cell.1 == .stored index with
      | some (_, cell) => cell.convert column.affinity
      | none => .null

/-- Whether a row has a key that another one could not have too. -/
def isTaken (table : Table) (key : Cell) : Bool :=
  table.rows.any fun row => (table.keyOf row).equals none key == some true

/-- Puts a row in its place among rows in rising order. -/
def place (row : Row) : List Row → List Row
  | [] => [row]
  | other :: rest =>
      if row.number < other.number then row :: other :: rest else other :: place row rest

/-- The table with the row of a statement, and the number of that row. -/
def insert (table : Table) (statement : Insert) : Except Fault (Int × Table) := do
  let given ← table.targets statement
  let number ← table.chooseNumber given
  let cells := table.chooseCells given number
  if table.rows.any fun row => row.number == number then
    throw (if table.keyIsNumber then .keyExists table.name table.keyName
      else .rowIdExists table.name)
  if !table.keyIsNumber && table.isTaken (cells.getD table.key .null) then
    throw (.keyExists table.name table.keyName)
  pure (number, { table with rows := place ⟨number, cells⟩ table.rows })

theorem mem_place {row other : Row} {rows : List Row} :
    other ∈ place row rows ↔ other = row ∨ other ∈ rows := by
  induction rows with
  | nil => simp [place]
  | cons head rest ih =>
      simp only [place]
      split
      · simp
      · simp only [List.mem_cons, ih]
        constructor
        · rintro (rfl | rfl | h) <;> simp_all
        · rintro (rfl | rfl | h) <;> simp_all

end Table
end FieldSearch.Database
