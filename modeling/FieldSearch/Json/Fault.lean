import FieldSearch.Json.Basic
import FieldSearch.Number.Decimal
import FieldSearch.Text.Quoted

/-!
# Faults of reading JSON

A document may be malformed as a text, or well formed and of another shape than the one asked for.
A malformed document either ends too early or holds something out of place.
-/

namespace FieldSearch.Json

open Number (Binary64)

/-- Why a text is not a JSON document. -/
inductive Malformed where
  | endInList
  | endInObject
  | endInText
  | endInValue
  | expectedColon
  | expectedListCommaOrEnd
  | expectedObjectCommaOrEnd
  | expectedWord
  | expectedValue
  | invalidEscape
  | invalidNumber
  | numberOutOfRange
  | controlCharacter
  | keyNotText
  | loneSurrogate
  | trailingComma
  | trailingCharacters
  | unfinishedSurrogatePair
  | tooDeep
deriving DecidableEq, Repr

/-- The wording of the fault. -/
def Malformed.message : Malformed → String
  | .endInList => "EOF while parsing a list"
  | .endInObject => "EOF while parsing an object"
  | .endInText => "EOF while parsing a string"
  | .endInValue => "EOF while parsing a value"
  | .expectedColon => "expected `:`"
  | .expectedListCommaOrEnd => "expected `,` or `]`"
  | .expectedObjectCommaOrEnd => "expected `,` or `\x7d`"
  | .expectedWord => "expected ident"
  | .expectedValue => "expected value"
  | .invalidEscape => "invalid escape"
  | .invalidNumber => "invalid number"
  | .numberOutOfRange => "number out of range"
  | .controlCharacter => "control character (\\u0000-\\u001F) found while parsing a string"
  | .keyNotText => "key must be a string"
  | .loneSurrogate => "lone leading surrogate in hex escape"
  | .trailingComma => "trailing comma"
  | .trailingCharacters => "trailing characters"
  | .unfinishedSurrogatePair => "unexpected end of hex escape"
  | .tooDeep => "recursion limit exceeded"

/-- Whether the text ended where the document had not. -/
def Malformed.isEnd : Malformed → Bool
  | .endInList | .endInObject | .endInText | .endInValue => true
  | _ => false

/-- What stands in a document where something else was asked for. -/
inductive Found where
  | null
  | bool (value : Bool)
  | integer (value : Int)
  | real (value : Binary64)
  | text (value : String)
  | list
  | object
deriving DecidableEq, Repr

/-- The kind of a value. -/
def found : Json → Found
  | .null => .null
  | .bool value => .bool value
  | .integer value => .integer value
  | .real value => .real value
  | .text value => .text value
  | .list _ => .list
  | .object _ => .object

/-- How a message names what was found. -/
def Found.describe : Found → String
  | .null => "null"
  | .bool value => s!"boolean `{value}`"
  | .integer value => s!"integer `{value}`"
  | .real value => "floating point `" ++ value.compactText ++ "`"
  | .text value => "string " ++ Text.Quoted.quote value
  | .list => "sequence"
  | .object => "map"

/-- Why a value does not have the shape asked for. -/
inductive Mismatch where
  /-- Another kind of value. -/
  | invalidType (found : Found) (expected : String)
  /-- The right kind, but not one of the values. -/
  | invalidValue (found : Found) (expected : String)
  /-- A list with too few or too many items. -/
  | invalidLength (length : Nat) (expected : String)
  | missingField (key : String)
  | duplicateField (key : String)
  | unknownVariant (name : String) (known : List String)
  /-- None of the alternatives of a type without tags. -/
  | noAlternative (name : String)
  /-- The right shape, but against a rule of the type. -/
  | refused (reason : String)
deriving DecidableEq, Repr

/-- The known names of a message: two joined by a word, more as a list. -/
def describeKnown (known : List String) : String :=
  let quoted := known.map fun name => "`" ++ name ++ "`"
  match quoted with
  | [] => "there are no variants"
  | [name] => "expected " ++ name
  | [first, second] => "expected " ++ first ++ " or " ++ second
  | names => "expected one of " ++ String.intercalate ", " names

/-- The wording of the mismatch. -/
def Mismatch.message : Mismatch → String
  | .invalidType found expected => "invalid type: " ++ found.describe ++ ", expected " ++ expected
  | .invalidValue found expected => "invalid value: " ++ found.describe ++ ", expected " ++ expected
  | .invalidLength length expected => s!"invalid length {length}, expected " ++ expected
  | .missingField key => "missing field `" ++ key ++ "`"
  | .duplicateField key => "duplicate field `" ++ key ++ "`"
  | .unknownVariant name known => "unknown variant `" ++ name ++ "`, " ++ describeKnown known
  | .noAlternative name => "data did not match any variant of untagged enum " ++ name
  | .refused reason => reason

/-- Why a value could not be read. -/
inductive Fault where
  | malformed (fault : Malformed)
  | mismatch (fault : Mismatch)
deriving DecidableEq, Repr

/-- The wording of the fault. -/
def Fault.message : Fault → String
  | .malformed fault => fault.message
  | .mismatch fault => fault.message

end FieldSearch.Json
