import FieldSearch.Database.Basic
import FieldSearch.Database.Catalog
import FieldSearch.Database.PageTree

/-!
# Where a database is kept

The first page of a database is the root of its catalog. A table begins with a page of its own, and
so does the index of a key that is not the number of the row. Which pages there are follows from
what was done to the database, in its order.
-/

namespace FieldSearch.Database

/-- The pages where a table begins. -/
structure Root where
  table : String
  page : Nat
  index : Option Nat := none
deriving DecidableEq, Repr

/-- The pages of a database. -/
structure Layout where
  storage : Storage := {}
  /-- The tables in the order in which they were created. -/
  roots : List Root := []
deriving DecidableEq, Repr

namespace Layout

/-- The root of the catalog. -/
def catalogPage : Nat := 1

/-- The number of rows in the catalog. -/
def catalogSize (layout : Layout) : Nat :=
  layout.roots.foldl (fun count root => count + (if root.index.isSome then 2 else 1)) 0

/-- The payload of a row of the catalog before it is filled in. -/
def blankRowBytes : Nat := 6

/-- Puts a row into the catalog. -/
def register (storage : Storage) (row payload : Nat) : Storage :=
  storage.insert .table catalogPage { payload, number := row }

/-- The first page without anything in it. -/
def opened : Layout := { storage := { pages := #[{}, {}] } }

/-- Whether there are no pages. -/
def isEmpty (layout : Layout) : Bool := layout.storage.pages.isEmpty

/-- Creates a table. Its row in the catalog is filled in when all else is done. -/
def create (layout : Layout) (table : Table) : Layout :=
  let row := layout.catalogSize + 1
  let storage := (if layout.isEmpty then opened else layout).storage
  let (page, storage) := storage.allocate catalogPage
  let storage := register storage row blankRowBytes
  let (index, storage) :=
    if table.hasIndex then
      let (index, storage) := storage.allocate catalogPage
      (some index, register storage (row + 1) (payloadBytes (table.indexRow index)))
    else (none, storage)
  { storage := register storage row (payloadBytes (table.catalogRow page))
    roots := layout.roots ++ [⟨table.name, page, index⟩] }

/-- Inserts a row of a table, first into the index. -/
def insert (layout : Layout) (table : Table) (row : Row) : Layout :=
  match layout.roots.find? fun root => root.table == table.name with
  | none => layout
  | some root =>
      let key := table.keyOf row
      let storage := match root.index with
        | some index =>
            let payload := payloadBytes [key, .integer row.number]
            layout.storage.insert .index index { payload, key, number := row.number }
        | none => layout.storage
      let payload := payloadBytes (table.storedCells row)
      { layout with storage := storage.insert .table root.page { payload, number := row.number } }

/-- Follows a change of a database that holds what was changed. -/
def follow (database : Database) (layout : Layout) : Change → Layout
  | .created name =>
      match database.table? name with
      | some table => layout.create table
      | none => layout
  | .inserted name number =>
      match database.table? name with
      | some table =>
          match table.rows.find? fun row => row.number == number with
          | some row => layout.insert table row
          | none => layout
      | none => layout

/-- The pages after changes, the last first. -/
def ofChanges (database : Database) (changes : List Change) : Layout :=
  changes.foldr (fun change layout => follow database layout change) {}

end Layout

/-- The pages of a database. -/
def layout (database : Database) : Layout := .ofChanges database database.history

end FieldSearch.Database
