import FieldSearch.Database.LooseJson.Path
import FieldSearch.Database.LooseJson.Reader
import FieldSearch.Database.SystemTable

/-!
# JSON as a table

Two tables tell the parts of a JSON text. One tells the parts of a value, or the value itself if it
has none; the other tells a value, its parts, their parts and so on, each part behind what it
belongs to. A path may lead to the value that is told.
-/

namespace FieldSearch.Database

/-- A part of a value as it is told. -/
structure JsonPart where
  key : Cell
  value : LooseJson
  id : Nat
  parent : Cell
  /-- The path to the part. -/
  fullKey : String
  /-- The path to what the part belongs to. -/
  path : String

namespace JsonPart

open LooseJson (literalBytes Spot)

/-- The step to an item. -/
def itemStep (index : Nat) : String := s!"[{index}]"

/-- The step to an entry; a name that is not an ASCII letter with ASCII letters and digits behind it
is put between quotes. -/
def entryStep (label : Literal) : String :=
  let written := label.written
  if written.toList.head?.any Char.isAlpha && written.toList.all Char.isAlphanum then "." ++ written
  else ".\"" ++ written ++ "\""

/-- The number of what a part belongs to, which is told only along with parts of parts. -/
def parentCell (isDeep : Bool) (parent : Nat) : Cell := if isDeep then .integer parent else .null

mutual

/-- The parts of a value that stands at an offset, with parts of parts if `isDeep`; `head` is its
own number and `path` the path to it. -/
def ofValue (isDeep : Bool) (head : Nat) (path : String) (offset : Nat) :
    LooseJson → List JsonPart
  | .list items =>
      itemParts isDeep head path 0 (offset + LooseJson.headerBytes (LooseJson.itemsBytes items))
        items
  | .object entries =>
      entryParts isDeep head path
        (offset + LooseJson.headerBytes (LooseJson.entriesBytes entries)) entries
  | _ => []

/-- Items and, if `isDeep`, their parts. -/
def itemParts (isDeep : Bool) (head : Nat) (path : String) :
    (index offset : Nat) → List LooseJson → List JsonPart
  | _, _, [] => []
  | index, offset, value :: rest =>
      let fullKey := path ++ itemStep index
      let part : JsonPart :=
        { key := .integer index, value, id := offset, parent := parentCell isDeep head, fullKey,
          path }
      let below := if isDeep then ofValue isDeep offset fullKey offset value else []
      part :: (below ++ itemParts isDeep head path (index + 1) (offset + value.bytes) rest)

/-- Entries and, if `isDeep`, their parts. -/
def entryParts (isDeep : Bool) (head : Nat) (path : String) :
    (offset : Nat) → List (Literal × LooseJson) → List JsonPart
  | _, [] => []
  | offset, (label, value) :: rest =>
      let fullKey := path ++ entryStep label
      let next := offset + literalBytes label
      let part : JsonPart :=
        { key := label.cell, value, id := offset, parent := parentCell isDeep head,
          fullKey, path }
      let below := if isDeep then ofValue isDeep offset fullKey next value else []
      part :: (below ++ entryParts isDeep head path (next + value.bytes) rest)

end

/-- The part of a value that a path leads to, as it is told itself. -/
def ofSpot (isDeep : Bool) (whole : LooseJson) (spot : Spot) (path : List Char) : JsonPart :=
  let cut := if isDeep then whole.beforeLastStep spot path path.length else path.length
  { key := LooseJson.stepKey (path.drop cut)
    value := spot.value
    id := spot.place
    parent := .null
    fullKey := String.ofList path
    path := String.ofList (path.take cut) }

/-- The parts that are told of what a path leads to. -/
def told (isDeep : Bool) (whole : LooseJson) (spot : Spot) (path : List Char) : List JsonPart :=
  let parts := ofValue isDeep spot.place (String.ofList path) spot.offset spot.value
  if !isDeep && spot.value.hasParts then parts else ofSpot isDeep whole spot path :: parts

/-- The cells of a part. -/
def cells (part : JsonPart) : Except Fault (List Cell) := do
  let some value := part.value.cell? | throw .malformedJson
  pure [part.key, value, .text part.value.kind, if part.value.hasParts then .null else value,
    .integer part.id, part.parent, .text part.fullKey, .text part.path]

end JsonPart

/-! ## The tables -/

namespace JsonTable

/-- The names of the columns that are shown. -/
def shown : List String := ["key", "value", "type", "atom", "id", "parent", "fullkey", "path"]

/-- The place of the column that is asked for its text. -/
def jsonColumn : Nat := 8

/-- The place of the column that is asked for its path. -/
def rootColumn : Nat := 9

/-- The parts with which a question is answered. -/
def parts (isDeep : Bool) (question : Question) : Except Fault (List JsonPart) := do
  let some json := question.text? jsonColumn | pure []
  let some whole := LooseJson.ofText? json | throw .malformedJson
  let path := (question.text? rootColumn).getD "$"
  match whole.find path.toList with
  | .found spot => pure (JsonPart.told isDeep whole spot path.toList)
  | .missing => pure []
  | .unreadable => throw (.badPath (quoteText path))

/-- The rows with which a question is answered, numbered from zero. -/
def rows (isDeep : Bool) (question : Question) : Except Fault (List Row) := do
  let given := [question.textCell jsonColumn, .text ((question.text? rootColumn).getD "$")]
  let cells ← (← parts isDeep question).mapM JsonPart.cells
  pure (cells.zipIdx.map fun (cells, index) => ⟨index, cells ++ given⟩)

/-- The table of the parts of a JSON text, with parts of parts if `isDeep`. -/
def table (isDeep : Bool) : SystemTable where
  name := if isDeep then "json_tree" else "json_each"
  columns := (shown.map fun name => ⟨name, "", false⟩) ++ [⟨"json", "", true⟩, ⟨"root", "", true⟩]
  taking := { columns := [jsonColumn, rootColumn] }
  answer := rows isDeep

end JsonTable
end FieldSearch.Database
