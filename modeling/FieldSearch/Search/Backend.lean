import FieldSearch.Sql.Dialect
import FieldSearch.Text.Lowercase

/-!
# Backends and what they can do

A backend is a kind of database with a dialect. Full text search needs two things of it, searching
text vectors and finding the position of a substring, and it counts only when both are there.
-/

namespace FieldSearch

/-- A kind of database. -/
inductive Backend where
  | sqlite
  | postgres
deriving DecidableEq, Repr, Inhabited

/-- Something that a backend may be able to do. -/
inductive Capability where
  | fullTextSearch
  | substringPosition
deriving DecidableEq, Repr

/-- The name of the capability. -/
def Capability.name : Capability → String
  | .fullTextSearch => "full-text-search"
  | .substringPosition => "substring-position"

/-- The capability of a name. -/
def Capability.ofName? (name : String) : Option Capability :=
  [Capability.fullTextSearch, .substringPosition].find? fun capability => capability.name == name

/-- What a backend can do for a search. -/
structure SearchCapabilities where
  textSearch : Bool := false
  substringPosition : Bool := false
deriving DecidableEq, Repr

namespace SearchCapabilities

/-- Neither capability. -/
def none : SearchCapabilities := {}

/-- Both capabilities. -/
def full : SearchCapabilities := ⟨true, true⟩

/-- The capabilities of a list. -/
def ofList (capabilities : List Capability) : SearchCapabilities :=
  ⟨capabilities.contains .fullTextSearch, capabilities.contains .substringPosition⟩

/-- Whether both capabilities are there. -/
def isFull (capabilities : SearchCapabilities) : Bool :=
  capabilities.textSearch && capabilities.substringPosition

/-- Reads capabilities. -/
def decoder : Json.Decoder SearchCapabilities :=
  .struct "struct SearchCapabilities" {} [
    .required "text_search" .bool fun textSearch capabilities =>
      { capabilities with textSearch },
    .required "substring_position" .bool fun substringPosition capabilities =>
      { capabilities with substringPosition }]

/-- Capabilities as an object. -/
def toJson (capabilities : SearchCapabilities) : Json :=
  .object [("substring_position", .bool capabilities.substringPosition),
    ("text_search", .bool capabilities.textSearch)]

end SearchCapabilities

namespace Backend

/-- The name of the backend. -/
def name : Backend → String
  | .sqlite => "sqlite"
  | .postgres => "postgres"

/-- The dialect in which the backend is spoken to. -/
def dialect : Backend → Sql.Dialect
  | .sqlite => .sqlite
  | .postgres => .postgres

/-- What the backend can do of itself. -/
def capabilities : Backend → List Capability
  | .sqlite => []
  | .postgres => [.fullTextSearch, .substringPosition]

/-- The backend of a name in any ASCII case, or the reason why there is none. -/
def ofName (name : String) : Except String Backend :=
  match Text.asciiLowercase name with
  | "sqlite" => .ok .sqlite
  | "postgres" | "postgresql" => .ok .postgres
  | other => .error s!"unknown backend '{other}'"

/-- Reads a backend by its exact name. -/
def decoder : Json.Decoder Backend := .choice [("sqlite", .sqlite), ("postgres", .postgres)]

end Backend
end FieldSearch
