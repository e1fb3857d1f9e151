import FieldSearch.Database.Basic
import FieldSearch.Database.Selection

/-!
# Tables that a database answers by itself

Besides the tables that were created in it a database has tables that it answers from what it knows.
They can be selected from like any other table, but not inserted into. Some of their columns are not
shown unless they are named; by giving values for these, or for a few others, a table is asked about
something, and such a condition is not checked again unless the table says so. Of two values given
for one column the later counts, or the earlier in some tables. A choice between values is asked
about one value after the other.
-/

namespace FieldSearch.Database

/-- A column of a table that a database answers by itself. -/
structure SystemColumn where
  name : String
  /-- The type in the definition, if there is one. -/
  type : String := ""
  /-- Whether the column is shown only when it is named. -/
  isHidden : Bool := false
deriving DecidableEq, Repr

/-- The kind of value that a column prefers: numbers if it is hidden and has no type. -/
def SystemColumn.affinity (column : SystemColumn) : Affinity :=
  if column.type == "TEXT" then .text
  else if column.type == "" && !column.isHidden then .any
  else .integer

/-- The columns by whose values a table is asked. -/
structure Taking where
  /-- The columns in the order in which their values are taken. -/
  columns : List Nat := []
  /-- Whether no value is taken unless there is one for the first of the columns. -/
  needsFirst : Bool := true
  /-- Whether the first of several values counts. -/
  takesFirst : Bool := false
  /-- The columns whose values are checked again in each row. -/
  checkedAgain : List Nat := []

/-- A text between single quotes, each of its own being written twice. -/
def quoteText (text : String) : String :=
  String.ofList ('\'' :: text.toList.flatMap (fun c => if c = '\'' then [c, c] else [c]) ++ ['\''])

/-- Values for columns. -/
abbrev Question := List (Nat × Cell)

namespace Question

/-- The text that a question gives for a column; what follows a NUL is not read. -/
def text? (question : Question) (column : Nat) : Option String :=
  match (question.lookup column).map Cell.textual with
  | some (.text text) => some (String.ofList (Text.untilNul text))
  | _ => none

/-- The text that a question gives for a column, as a cell. -/
def textCell (question : Question) (column : Nat) : Cell :=
  ((question.text? column).map Cell.text).getD .null

end Question

/-- A condition that a column has one of some values. -/
structure Condition where
  /-- Its place among the filters. -/
  place : Nat
  column : Nat
  values : List Cell

/-- Cells without those that equal the one before. -/
def withoutRepeats : List Cell → List Cell
  | first :: second :: rest =>
      if first.cmp second == .eq then withoutRepeats (first :: rest)
      else first :: withoutRepeats (second :: rest)
  | cells => cells

namespace Condition

/-- The condition that a filter is, if it is one on a column of the table. -/
def ofFilter? (table : Table) (place : Nat) (filter : Filter) : Option Condition :=
  let ofColumn (name : String) (values : Option Affinity → List Cell) : Option Condition :=
    match table.resolve name with
    | .stored column => some ⟨place, column, values (table.affinity? (.stored column))⟩
    | _ => none
  match filter with
  | .columnEquals _ .null | .idIn _ [] | .search _ => none
  | .columnEquals column value => ofColumn column fun _ => [.ofValue value]
  | .idIn column [id] => ofColumn column fun _ => [.ofValue id]
  | .idIn column ids => ofColumn column fun affinity =>
      withoutRepeats ((ids.map fun id => (Cell.ofValue id).convert (affinity.getD .any)).mergeSort
        fun left right => left.cmp right != .gt)

end Condition

/-- The conditions whose values a table takes, in the order in which it takes them. -/
def Taking.take (taking : Taking) (conditions : List Condition) : List Condition :=
  let ofColumn (column : Nat) : Option Condition :=
    let all := conditions.filter fun condition => condition.column == column
    if taking.takesFirst then all.head? else all.getLast?
  if taking.needsFirst && !(taking.columns.head?.any fun column => (ofColumn column).isSome) then []
  else taking.columns.filterMap ofColumn

/-- The questions that arise from conditions, one value being picked for each of them. -/
def combine : List Condition → List Question
  | [] => [[]]
  | condition :: rest =>
      condition.values.flatMap fun value =>
        (combine rest).map fun question => (condition.column, value) :: question

/-- Something whose value is fixed by a comparison. -/
structure FixedValue where
  /-- The place of the comparison among the filters. -/
  place : Nat
  target : Reference
  value : Cell
  /-- Whether the target prefers a kind of value. -/
  isTyped : Bool

/-- A filter as a test of rows, with what is fixed by other filters. -/
structure Test where
  place : Nat
  filter : Filter
  fixed : List FixedValue

namespace Test

/-- The fixed value of what a name stands for, if it is fixed. -/
def fixedValue? (test : Test) (target : Reference) : Option Cell :=
  (test.fixed.find? fun fixed => fixed.target == target).map FixedValue.value

/-- The values that names have for the test in a row of a table. -/
def values (test : Test) (table : Table) (row : Row) : Values := fun name =>
  let target := table.resolve name
  (test.fixedValue? target).getD (target.value row)

/-- The truth of the test for a row of a table. -/
def eval (test : Test) (table : Table) (row : Row) : Except Fault (Option Bool) :=
  let values := test.values table row
  evalFilter values
    (fun name => (values name).equals (table.affinity? (table.resolve name))) test.filter

/-- Whether the outcome does not depend on the row: all that the filter mentions is fixed, or it
asks for a row without a number. -/
def isSettled (test : Test) (table : Table) : Bool :=
  (Table.filterNames test.filter).all fun name =>
    match table.resolve name with
    | .literal _ => true
    | target =>
        (test.fixedValue? target).isSome ||
          (target == .number && test.filter == .columnEquals name .null)

end Test

/-- A table that a database answers by itself. -/
structure SystemTable where
  name : String
  columns : List SystemColumn
  taking : Taking := {}
  answer : Question → Except Fault (List Row)
  /-- Whether a question opens the temporary schema. -/
  opensTemporary : Question → Bool := fun _ => false
  /-- What becomes of the database when a question is asked. -/
  effect : Question → Database → Database := fun _ database => database

namespace SystemTable

/-- A table that is not asked about anything, with rows numbered from one. -/
def ofRows (name : String) (columns : List SystemColumn) (rows : List (List Cell)) :
    SystemTable where
  name
  columns
  answer _ := pure (rows.zipIdx.map fun (cells, index) => ⟨index + 1, cells⟩)

/-- The table with given rows; no column is its key. -/
def filled (system : SystemTable) (rows : List Row) : Table where
  name := system.name
  columns := system.columns.map fun column => ⟨column.name, column.affinity⟩
  key := system.columns.length
  keyIsNumber := false
  rows

/-! ## Conditions -/

/-- The conditions of a selection that the table takes. -/
def taken (system : SystemTable) (filters : List Filter) : List Condition :=
  let table := system.filled []
  system.taking.take (filters.zipIdx.filterMap fun (filter, place) =>
    Condition.ofFilter? table place filter)

/-- What a filter fixes, if it is a comparison with one value. -/
def comparison? (system : SystemTable) (place : Nat) (filter : Filter) : Option FixedValue :=
  let table := system.filled []
  let fixing (name : String) (value : Cell) : Option FixedValue :=
    let target := table.resolve name
    (table.affinity? target).map fun affinity =>
      { place, target, value := value.convert affinity, isTyped := affinity != .any }
  match filter with
  | .columnEquals _ .null => none
  | .columnEquals name value => fixing name (.ofValue value)
  | .idIn name [id] => fixing name (.ofValue id)
  | _ => none

/-- What filters fix, the last comparison with each column being the one that does. -/
def fixedValues (system : SystemTable) (filters : List Filter) : List FixedValue :=
  filters.zipIdx.foldr (fun (filter, place) fixed =>
    match system.comparison? place filter with
    | some comparison =>
        if fixed.any fun other => other.target == comparison.target then fixed
        else fixed ++ [comparison]
    | none => fixed) []

/-- What is fixed for a filter: not by itself, and columns without a type only for other
comparisons. -/
def fixedFor (system : SystemTable) (filters : List Filter) (place : Nat) (filter : Filter) :
    List FixedValue :=
  (system.fixedValues filters).filter fun fixed =>
    fixed.place != place && (fixed.isTyped || (system.comparison? place filter).isSome)

/-- Filters as tests. -/
def tests (system : SystemTable) (filters : List Filter) : List Test :=
  filters.zipIdx.map fun (filter, place) =>
    { place, filter, fixed := system.fixedFor filters place filter }

/-- Whether a row passes all tests, which are looked at until one is not true. -/
def passes (system : SystemTable) (row : Row) : List Test → Except Fault Bool
  | [] => pure true
  | test :: rest => do
      if (← test.eval (system.filled []) row) = some true then system.passes row rest
      else pure false

/-! ## Selecting -/

/-- A row without values. -/
def blankRow (system : SystemTable) : Row := ⟨0, system.columns.map fun _ => .null⟩

/-- The questions that a selection asks; none if it is settled before. -/
def questions (system : SystemTable) (select : Select) : Except Fault (List Question) := do
  let settled := (system.tests select.filters).filter fun test => test.isSettled (system.filled [])
  if Table.pageLimit select.limit = some 0 then pure []
  else if ← system.passes system.blankRow settled then
    pure (combine (system.taken select.filters))
  else pure []

/-- Whether a row has the values that were asked for, as far as they are checked again. -/
def keeps (system : SystemTable) (question : Question) (row : Row) : Bool :=
  question.all fun (column, value) =>
    !system.taking.checkedAgain.contains column ||
      (row.cells.getD column .null).equals ((system.columns[column]?).map SystemColumn.affinity)
        value == some true

/-- The tests that are made of each row: those that are neither settled before nor taken. -/
def rowTests (system : SystemTable) (filters : List Filter) : List Test :=
  let taken := system.taken filters
  (system.tests filters).filter fun test =>
    !test.isSettled (system.filled []) && !taken.any fun condition => condition.place == test.place

/-- The rows of a selection, with the table from which they are taken. -/
def select (system : SystemTable) (select : Select) : Except Fault (Table × List Row) := do
  let rows ← (← system.questions select).mapM fun question => do
    pure ((← system.answer question).filter (system.keeps question))
  let table := system.filled rows.flatten
  let rows ← table.pageOf (fun row => system.passes row (system.rowTests select.filters)) select
  pure (table, rows)

end SystemTable
end FieldSearch.Database
