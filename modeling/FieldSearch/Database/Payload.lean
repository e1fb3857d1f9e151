import FieldSearch.Database.Table
import FieldSearch.Number.Power

/-!
# The size of stored rows

A row is stored as its header, which holds a code for the kind and the size of each cell, and the
cells behind it. Codes and sizes are written in groups of seven bits. A small integer takes few
bytes, zero and one take none, and a whole real number is stored as an integer. The number of the
row is not stored again in the column that is its key.
-/

namespace FieldSearch.Database

/-- The number of bytes of a number in groups of seven bits; the ninth byte takes eight of them. -/
def groups (n : Nat) : Nat :=
  ((List.range 8).filter fun i => Number.twoPow (7 * (i + 1)) ≤ n).length + 1

/-- The number of bytes of the number of a row; a negative one takes all nine. -/
def numberBytes (number : Int) : Nat := if number < 0 then 9 else groups number.toNat

/-- The number of bytes that an integer is stored in. -/
def integerBytes (n : Int) : Nat :=
  let magnitude := (if n < 0 then -n - 1 else n).toNat
  if n = 0 ∨ n = 1 then 0
  else if magnitude < Number.twoPow 7 then 1
  else if magnitude < Number.twoPow 15 then 2
  else if magnitude < Number.twoPow 23 then 3
  else if magnitude < Number.twoPow 31 then 4
  else if magnitude < Number.twoPow 47 then 6
  else 8

namespace Cell

/-- The number of bytes of the value of a cell. -/
def valueBytes : Cell → Nat
  | .null => 0
  | .integer n => integerBytes n
  | .real x =>
      match wholeReal x with
      | .integer n => integerBytes n
      | _ => 8
  | .text value => value.utf8ByteSize
  | .broken bytes | .blob bytes => bytes.length

/-- The number of bytes of the code of a cell. -/
def codeBytes : Cell → Nat
  | .text value => groups (2 * value.utf8ByteSize + 13)
  | .broken bytes => groups (2 * bytes.length + 13)
  | .blob bytes => groups (2 * bytes.length + 12)
  | _ => 1

end Cell

/-- The number of bytes of the header of a row with codes of `size` bytes, its own size included. -/
def rowHeaderBytes (size : Nat) : Nat :=
  if size ≤ 126 then size + 1 else size + groups (size + groups size)

/-- The number of bytes of cells that are stored together. -/
def payloadBytes (cells : List Cell) : Nat :=
  let codes := cells.foldl (fun sum cell => sum + cell.codeBytes) 0
  let values := cells.foldl (fun sum cell => sum + cell.valueBytes) 0
  rowHeaderBytes codes + values

/-- The cells of a row as they are stored. -/
def Table.storedCells (table : Table) (row : Row) : List Cell :=
  if table.keyIsNumber then row.cells.set table.key .null else row.cells

end FieldSearch.Database
