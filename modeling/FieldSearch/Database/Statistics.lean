import FieldSearch.Database.Basic
import FieldSearch.Database.Catalog
import FieldSearch.Database.KeySample
import FieldSearch.Database.RowBytes

/-!
# What is known of the keys of a database

A table can be looked at to see how its keys are spread. What is found is kept in two tables of the
database: in one a line for each index with the number of its entries and how many of them there are
for each key, or with the number of rows if there is no index; in the other samples of the entries.
What was known of the table before is forgotten.
-/

namespace FieldSearch.Database

namespace Statistics

/-- The name of the table of counts. -/
def countsName : String := "sqlite_stat1"

/-- The name of the table of samples. -/
def samplesName : String := "sqlite_stat4"

/-- A table that the database keeps for itself: no column has a type, and none is the key. -/
def ownTable (name : String) (columns : List String) : Table where
  name
  columns := columns.map fun column => ⟨column, .any⟩
  key := columns.length
  keyIsNumber := false

/-- The tables that hold what is found. -/
def tables : List Table :=
  [ownTable countsName ["tbl", "idx", "stat"],
    ownTable samplesName ["tbl", "idx", "neq", "nlt", "ndlt", "sample"]]

/-- How many of `entries` there are for each of `keys` on the average, at least; where nearly every
key stands alone it is one. -/
def average (entries keys : Nat) : Nat :=
  let up := (entries + keys - 1) / keys
  if up = 2 ∧ entries * 10 ≤ keys * 11 then 1 else up

/-- The rows of a table by their keys. -/
def keyGroups (table : Table) : List (List Row) :=
  table.rowsByKey.splitBy fun left right => (table.keyOf left).cmp (table.keyOf right) == .eq

/-- The row of counts of a table; none if there is nothing to count. -/
def counts (table : Table) : List (List Cell) :=
  let count := table.rows.length
  if count = 0 then []
  else if table.hasIndex then
    [[.text table.name, .text table.indexName,
      .text s!"{count} {average count (keyGroups table).length}"]]
  else [[.text table.name, .null, .text (toString count)]]

/-- The row of a sample. -/
def sampleRow (table : Table) (sample : KeySample) : List Cell :=
  let key := ((table.rows.find? fun row => row.number == sample.number).map table.keyOf).getD .null
  [.text table.name, .text table.indexName, .text s!"{sample.equal} 1",
    .text s!"{sample.less} {sample.position}", .text s!"{sample.lessDistinct} {sample.position}",
    .blob (rowBytes [key, .integer sample.number])]

/-- The rows of the samples of a table. -/
def samples (table : Table) : List (List Cell) :=
  if table.hasIndex then
    (KeySample.pick ((keyGroups table).map fun rows => rows.map Row.number)).map (sampleRow table)
  else []

/-- The number of rows that is known of a table, if it is. -/
def known? (database : Database) (table : Table) : Option Nat := do
  let counts ← database.table? countsName
  let index : Cell := if table.hasIndex then .text table.indexName else .null
  let row ← counts.rows.find? fun row => row.cells.take 2 == [.text table.name, index]
  match row.cells.getD 2 Cell.null with
  | .text text => some ((text.toList.takeWhile Char.isDigit).foldl
      (fun n c => n * 10 + (c.toNat - '0'.toNat)) 0)
  | _ => none

end Statistics

/-- The number of times that tables were created; those of what is known are created together. -/
def version (database : Database) : Nat :=
  (database.tables.filter fun table => table.name != Statistics.samplesName).length

/-! ## Looking at tables -/

/-- Adds a table that the database keeps for itself, unless it is there. -/
def withOwnTable (database : Database) (table : Table) : Database :=
  if (database.table? table.name).isSome then database
  else
    { tables := database.tables ++ [table]
      history := .created table.name :: database.history }

/-- Adds a row of cells to a table. -/
def addRow (database : Database) (name : String) (cells : List Cell) : Database :=
  match database.table? name with
  | none => database
  | some table =>
      let number := table.nextNumber
      let changed := database.replace { table with rows := Table.place ⟨number, cells⟩ table.rows }
      { changed with history := .inserted table.name number :: changed.history }

/-- Forgets the rows of a table whose first cell is a text, as if they had never been there. -/
def forget (database : Database) (name text : String) : Database :=
  match database.table? name with
  | none => database
  | some table =>
      let isGone (row : Row) : Bool := row.cells.head? == some (.text text)
      let gone := (table.rows.filter isGone).map Row.number
      let changed := database.replace { table with
        rows := table.rows.filter fun row => !isGone row }
      { changed with
        history := changed.history.filter fun change =>
          !gone.any fun number => change == .inserted table.name number }

/-- Looks at a table, and takes samples if these are wanted. -/
def analyze (database : Database) (name : String) (takesSamples : Bool) : Database :=
  match database.table? name with
  | none => database
  | some table =>
      let opened := Statistics.tables.foldl withOwnTable database
      let cleared := Statistics.tables.foldl (fun database statistics =>
        database.forget statistics.name table.name) opened
      let counted := (Statistics.counts table).foldl (fun database cells =>
        database.addRow Statistics.countsName cells) cleared
      if takesSamples then
        (Statistics.samples table).foldl (fun database cells =>
          database.addRow Statistics.samplesName cells) counted
      else counted

end FieldSearch.Database
