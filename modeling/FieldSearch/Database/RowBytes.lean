import FieldSearch.Database.Payload

/-!
# The bytes of stored rows

The cells of a row that is itself kept as a value are written one behind the other: first the size
of the header and a code for each cell, then the values. A code tells the kind of a cell and its
size; integers are written in as few bytes as will hold them, zero and one in none. Real numbers
always take eight bytes here.
-/

namespace FieldSearch.Database

/-- A number in groups of seven bits, all but the last of them marked. -/
def groupBytes (n : Nat) : List UInt8 :=
  (List.range (groups n)).reverse.map fun i =>
    UInt8.ofNat (n / Number.twoPow (7 * i) % 0x80 + (if i = 0 then 0 else 0x80))

/-- The last `count` bytes of an integer, the most significant one first. -/
def bigEndian (count : Nat) (n : Int) : List UInt8 :=
  (List.range count).reverse.map fun i =>
    UInt8.ofNat ((n / (Number.twoPow (8 * i) : Nat)) % 0x100).toNat

namespace Cell

/-- The code of an integer: of its size, but zero and one have codes of their own. -/
def integerCode (n : Int) : Nat :=
  if n = 0 then 8
  else if n = 1 then 9
  else
    match integerBytes n with
    | 6 => 5
    | 8 => 6
    | size => size

/-- The code of a cell. -/
def code : Cell → Nat
  | .null => 0
  | .integer n => integerCode n
  | .real _ => 7
  | .text value => 2 * value.utf8ByteSize + 13
  | .broken bytes => 2 * bytes.length + 13
  | .blob bytes => 2 * bytes.length + 12

/-- The bytes of the value of a cell. -/
def bytes : Cell → List UInt8
  | .null => []
  | .integer n => bigEndian (integerBytes n) n
  | .real x => bigEndian 8 x.bits
  | .text value => bytesOf value
  | .broken bytes | .blob bytes => bytes

end Cell

/-- The bytes of cells that are stored together. -/
def rowBytes (cells : List Cell) : List UInt8 :=
  let codes := cells.flatMap fun cell => groupBytes cell.code
  groupBytes (rowHeaderBytes codes.length) ++ codes ++ cells.flatMap Cell.bytes

end FieldSearch.Database
