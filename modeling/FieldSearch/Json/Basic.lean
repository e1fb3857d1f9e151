import FieldSearch.KeyMap
import FieldSearch.Number.Binary64

/-!
# JSON values

Integers and real numbers are kept apart: a number written with a point or an exponent is real. The
entries of an object stand in the order of writing; the reader puts them in rising order of their
keys, and an object made of a map has that order too.
-/

namespace FieldSearch

open Number (Binary64)

/-- A JSON value. -/
inductive Json where
  | null
  | bool (value : Bool)
  | integer (value : Int)
  | real (value : Binary64)
  | text (value : String)
  | list (items : List Json)
  | object (entries : List (String × Json))
deriving Repr, BEq, Inhabited

namespace Json

/-- An object from a map. -/
def ofMap (map : KeyMap Json) : Json := .object map.entries

/-- A text, or null. -/
def ofText? : Option String → Json
  | some value => .text value
  | none => .null

/-- The text that a value is, if it is one. -/
def asText? : Json → Option String
  | .text value => some value
  | _ => none

/-- The value of a key in an object. -/
def field? (key : String) : Json → Option Json
  | .object entries => entries.lookup key
  | _ => none

end Json
end FieldSearch
