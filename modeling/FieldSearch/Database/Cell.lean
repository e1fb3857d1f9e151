import FieldSearch.Number.Decimal
import FieldSearch.Number.Numeral
import FieldSearch.Schema.Column
import FieldSearch.Sql.Template
import FieldSearch.Text.Like
import FieldSearch.Text.Utf8

/-!
# Cells

A stored value is null, an integer, a real number or a text, whatever the type of its column. The
column has an affinity, by which values are converted before they are stored or compared: numerals
to numbers in numeric columns, numbers to texts in text columns, whole reals to integers. A text
that is computed may be broken, that is, its bytes are no characters. What a database keeps for
itself may be bytes that are no text at all.

Null comes before all numbers, these before all texts, and texts before bytes. Texts are ordered by
code point. A comparison with null has no truth value.
-/

namespace FieldSearch.Database

open Number (Binary64)

/-- A stored value. -/
inductive Cell where
  | null
  | integer (value : Int)
  | real (value : Binary64)
  | text (value : String)
  /-- A text that is not made of characters. -/
  | broken (bytes : List UInt8)
  /-- Bytes that are no text. -/
  | blob (bytes : List UInt8)
deriving DecidableEq, Repr, Inhabited

/-- The kind of value that a column prefers. -/
inductive Affinity where
  | text
  | integer
  | real
  /-- Every kind as it comes. -/
  | any
deriving DecidableEq, Repr

/-- The affinity of a column that is declared with a type. -/
def affinityOf : ColumnType → Affinity
  | .text => .text
  | .integer => .integer
  | .float => .real
  | .boolean => .integer

namespace Cell

/-- A parameter as a cell: truth values are integers. -/
def ofValue : Sql.Value → Cell
  | .text value => .text value
  | .integer value => .integer value
  | .real value => .real value
  | .bool value => .integer (if value then 1 else 0)
  | .null => .null

/-- A real number as an integer if it is one, the ends of the integer range excepted. -/
def wholeReal (value : Binary64) : Cell :=
  match value.toInt? with
  | some n => if Number.minInt64 < n ∧ n < Number.maxInt64 then .integer n else .real value
  | none => .real value

/-- A text as a number if it is a numeral. -/
def numeric : Cell → Cell
  | .text value =>
      match Number.Numeral.ofText? value.toList with
      | some (.integer n) => .integer n
      | some (.real x) => .real x
      | none => .text value
  | cell => cell

/-- A number as a text. -/
def textual : Cell → Cell
  | .integer value => .text (toString value)
  | .real value => .text value.generalText
  | cell => cell

/-- A cell as it is stored in a column of an affinity. -/
def convert (affinity : Affinity) (cell : Cell) : Cell :=
  match affinity with
  | .text => cell.textual
  | .integer =>
      match cell.numeric with
      | .real value => wholeReal value
      | cell => cell
  | .real =>
      match cell.numeric with
      | .integer value => .real (Binary64.ofInt value)
      | .real value =>
          match wholeReal value with
          | .integer n => .real (Binary64.ofInt n)
          | cell => cell
      | cell => cell
  | .any => cell

/-- The order of bytes. -/
def cmpBytes : List UInt8 → List UInt8 → Ordering
  | [], [] => .eq
  | [], _ :: _ => .lt
  | _ :: _, [] => .gt
  | left :: lefts, right :: rights => (compare left right).then (cmpBytes lefts rights)

/-- The bytes of a text. -/
def bytesOf (text : String) : List UInt8 := Text.Utf8.encode text.toList

/-- The text of code points. -/
def ofCodes (codes : List Nat) : Cell :=
  let bytes := codes.flatMap Text.Utf8.encodeCode
  match Text.Utf8.decode bytes with
  | .ok chars => .text (String.ofList chars)
  | .error _ => .broken bytes

/-- The order of cells. -/
def cmp : Cell → Cell → Ordering
  | .null, .null => .eq
  | .null, _ => .lt
  | _, .null => .gt
  | .text left, .text right => compare left right
  | .text left, .broken right => cmpBytes (bytesOf left) right
  | .broken left, .text right => cmpBytes left (bytesOf right)
  | .broken left, .broken right => cmpBytes left right
  | .blob left, .blob right => cmpBytes left right
  | .blob _, _ => .gt
  | _, .blob _ => .lt
  | .text _, _ | .broken _, _ => .gt
  | _, .text _ | _, .broken _ => .lt
  | .integer left, .integer right => compare left right
  | .integer left, .real right => Binary64.cmpInt left right
  | .real left, .integer right => (Binary64.cmpInt right left).swap
  | .real left, .real right => Binary64.cmp left right

/-- A parameter as it is compared with a column of an affinity, if the column has one. -/
def comparable (affinity : Option Affinity) (cell : Cell) : Cell :=
  match affinity with
  | some .text => cell.textual
  | some .integer | some .real => cell.numeric
  | some .any | none => cell

@[simp]
theorem comparable_null (affinity : Option Affinity) : comparable affinity .null = .null := by
  cases affinity with
  | none => rfl
  | some affinity => cases affinity <;> rfl

/-- Whether a cell equals a parameter. A stored cell has been converted before; others may not. -/
def equals (affinity : Option Affinity) (stored parameter : Cell) : Option Bool :=
  match comparable affinity stored, comparable affinity parameter with
  | .null, _ => none
  | _, .null => none
  | stored, parameter => some (stored.cmp parameter == .eq)

/-! ## Matching texts -/

/-- The case-folded text of a cell, if it has one. -/
def caseFolded : Cell → Option String
  | .null => none
  | .integer value => some (toString value)
  | .real value => some value.positionalText
  | .text value => some (Text.lowercase value)
  | .broken bytes | .blob bytes =>
      some (Text.lowercase (String.ofList (Text.Utf8.decodeLossy bytes)))

/-- The greatest size of a pattern in bytes. -/
def maxPatternBytes : Nat := 50000

/-- A character as matching reads it: the two noncharacters of the first plane that no text should
hold are read as the replacement character. -/
def readChar (c : Char) : Char := if c = '\ufffe' ∨ c = '\uffff' then '\ufffd' else c

/-- Whether two characters are read as one, up to the case of ASCII letters. -/
def sameChar (left right : Char) : Bool :=
  Text.foldAscii (readChar left) == Text.foldAscii (readChar right)

/-- Whether a cell matches a pattern, both case-folded; nothing when the pattern is too long. -/
def matchesPattern? (cell : Cell) (pattern : String) : Option (Option Bool) :=
  let pattern := Text.lowercase pattern
  if maxPatternBytes < pattern.utf8ByteSize then none
  else some (cell.caseFolded.map fun text =>
    Text.Like.matchesWith sameChar (Text.untilNul pattern) (Text.untilNul text))

/-- The kind of a cell, as messages name it. -/
def kind : Cell → String
  | .null => "Null"
  | .integer _ => "Integer"
  | .real _ => "Real"
  | .text _ | .broken _ => "Text"
  | .blob _ => "Blob"

end Cell
end FieldSearch.Database
