import FieldSearch.Json.Decoder
import FieldSearch.Number.Digits
import FieldSearch.Schema.Column
import FieldSearch.Sql.Template

/-!
# Record ids

A record is addressed by an integer or a text. Each addresses rows of integer and of text keys: an
integer is written out for a text key, and a text that is an integer is read for an integer key.
-/

namespace FieldSearch

/-- The id of a record. -/
inductive RecordId where
  | integer (value : Int)
  | text (value : String)
deriving DecidableEq, Repr

namespace RecordId

/-- The id as a text. -/
def display : RecordId → String
  | .integer value => toString value
  | .text value => value

/-- The value by which a key column of a type is compared, if the id fits the type. -/
def toValue? : RecordId → ColumnType → Option Sql.Value
  | .integer value, .integer => some (.integer value)
  | .integer value, .text => some (.text (toString value))
  | .text value, .text => some (.text value)
  | .text value, .integer => (Number.readInt64? value).map .integer
  | _, _ => none

/-- Reads an id: an integer of 64 bits or a text. -/
def decoder : Json.Decoder RecordId :=
  .either "RecordId" (Json.Decoder.int64.map .integer) (Json.Decoder.text.map .text)

/-- The id as a value. -/
def toJson : RecordId → Json
  | .integer value => .integer value
  | .text value => .text value

end RecordId
end FieldSearch
