import FieldSearch.Database.Table
import FieldSearch.Query.Select

/-!
# Selecting rows

The meaning of a selection: its filters are conditions with three truth values, a row is taken when
all of them are true, the rows are put into the order of the sort keys, and the page is cut out. Of
two rows that are equal in all sort keys the one with the lesser number comes first, unless nothing
but the key of the table is asked for; then the one with the lesser key does.

A condition that mentions no column of the table is settled once, before any row is looked at, and
conditions on the key are looked at before the others; this matters only for which faults arise.
-/

namespace FieldSearch.Database

/-- A choice between two truth values. -/
def either : Option Bool → Option Bool → Option Bool
  | some true, _ => some true
  | _, some true => some true
  | some false, some false => some false
  | _, _ => none

/-! ## The truth of conditions -/

/-- The values that names have. -/
abbrev Values := String → Cell

/-- The truth of a clause. Clauses on words are not expressed in this dialect and hold of
nothing. -/
def evalClause (values : Values) : Clause → Except Fault (Option Bool)
  | .contains field term =>
      match (values field).matchesPattern? (Text.Like.containing term) with
      | some truth => pure truth
      | none => throw .patternTooComplex
  | .beginsWords _ _ => pure none

mutual

/-- The truth of a condition. -/
def evalPredicate (values : Values) : Predicate → Except Fault (Option Bool)
  | .always => pure (some true)
  | .never => pure (some false)
  | .single clause => evalClause values clause
  | .any alternatives => evalAlternatives values alternatives

/-- The truth of a choice; alternatives behind a true one are not looked at. -/
def evalAlternatives (values : Values) : List Predicate → Except Fault (Option Bool)
  | [] => pure (some false)
  | alternative :: rest => do
      let first ← evalPredicate values alternative
      if first = some true then pure (some true)
      else do
        let others ← evalAlternatives values rest
        pure (either first others)

end

/-- The truth of a filter; `equals` tells whether what a name stands for equals a parameter. -/
def evalFilter (values : Values) (equals : String → Cell → Option Bool) :
    Filter → Except Fault (Option Bool)
  | .search predicate => evalPredicate values predicate
  | .idIn column ids =>
      pure (ids.foldr (fun id truth => either (equals column (Cell.ofValue id)) truth)
        (some false))
  | .columnEquals column .null => pure (some (values column == .null))
  | .columnEquals column value => pure (equals column (Cell.ofValue value))

namespace Table

/-- The values that names have in a row. -/
def values (table : Table) (row : Row) : Values := fun name => (table.resolve name).value row

/-- Whether what a name stands for equals a parameter in a row. A row is looked up by its number,
and nothing but an integer is one, even where it would be equal as a real number. -/
def equalsParameter (table : Table) (row : Row) (name : String) (parameter : Cell) :
    Option Bool :=
  let target := table.resolve name
  if table.isNumberTarget target then
    match parameter.convert .integer with
    | .null => none
    | .integer number => some (number == row.number)
    | _ => some false
  else (target.value row).equals (table.affinity? target) parameter

/-- The truth of a filter for a row. -/
def evalFilter (table : Table) (row : Row) (filter : Filter) : Except Fault (Option Bool) :=
  Database.evalFilter (table.values row) (table.equalsParameter row) filter

/-- Whether a name stands for no column. -/
def isLiteral (table : Table) (name : String) : Bool :=
  match table.resolve name with
  | .literal _ => true
  | _ => false

/-- When a condition on a column is looked at: first if there is no such column, then if it is the
key, and last otherwise. -/
def columnRank (table : Table) (column : String) : Nat :=
  match table.resolve column with
  | .literal _ => 0
  | target => if table.isNumberTarget target || target == .stored table.key then 1 else 2

/-- When a filter is looked at: constant ones first, then those on the key, then the others. -/
def filterRank (table : Table) : Filter → Nat
  | .idIn _ [] => 0
  | .idIn column _ => table.columnRank column
  | .columnEquals column _ => table.columnRank column
  | .search predicate =>
      if predicate.clauses.all fun clause => table.isLiteral clause.field then 0 else 2

/-- The filters of one rank. -/
def ofRank (table : Table) (rank : Nat) (filters : List Filter) : List Filter :=
  filters.filter fun filter => table.filterRank filter == rank

/-- Whether a row passes all filters, which are looked at until one is not true. -/
def accepts (table : Table) (row : Row) : List Filter → Except Fault Bool
  | [] => pure true
  | filter :: rest => do
      if (← table.evalFilter row filter) = some true then table.accepts row rest else pure false

/-- Skips `offset` of the accepted rows and takes `limit` of the next, if there is a limit. -/
def takePage (accept : Row → Except Fault Bool) :
    Nat → Option Nat → List Row → Except Fault (List Row)
  | _, _, [] => pure []
  | _, some 0, _ => pure []
  | offset, limit, row :: rest => do
      if ← accept row then
        match offset with
        | offset + 1 => takePage accept offset limit rest
        | 0 => do
            let others ← takePage accept 0 (limit.map (· - 1)) rest
            pure (row :: others)
      else takePage accept offset limit rest

/-! ## Sorting -/

/-- The order of two cells under a sort key. -/
def cmpCells (key : SortKey) (left right : Cell) : Ordering :=
  match key.nullsLast, left, right with
  | true, .null, .null => .eq
  | true, .null, _ => .gt
  | true, _, .null => .lt
  | _, _, _ =>
      match key.direction with
      | .ascending => left.cmp right
      | .descending => right.cmp left

/-- The order of two rows under one sort key; ranking is not expressed in this dialect. -/
def cmpKey (table : Table) (key : SortKey) (left right : Row) : Ordering :=
  match key.expr with
  | .column name =>
      let target := table.resolve name
      cmpCells key (target.value left) (target.value right)
  | _ => .eq

/-- The order of two rows under sort keys. -/
def cmpRows (table : Table) (sorting : Sorting) (left right : Row) : Ordering :=
  sorting.keys.foldr (fun key others => (table.cmpKey key left right).then others) .eq

/-- The names of columns in a filter. -/
def filterNames : Filter → List String
  | .idIn _ [] => []
  | .idIn column _ => [column]
  | .columnEquals column _ => [column]
  | .search predicate => predicate.clauses.map Clause.field

/-- The names of columns in a sort key. -/
def keyNames (key : SortKey) : List String :=
  match key.expr with
  | .column name => [name]
  | .exactPrefix pairs | .matchPosition pairs => pairs.map FieldTerm.field

/-- The names of columns in a selection. -/
def selectNames (select : Select) : List String :=
  select.columns ++ select.filters.flatMap filterNames ++ select.sorting.keys.flatMap keyNames

/-- Whether a selection can be answered from the keys alone, which takes less than from the rows:
no other column is mentioned, and there is one. -/
def needsOnlyKeys (table : Table) (select : Select) : Bool :=
  table.hasIndex && decide (1 < table.columns.length) &&
    (selectNames select).all fun name =>
      match table.resolve name with
      | .stored index => index == table.key
      | _ => true

/-- The rows as they are come upon: in the order of the keys if these are enough, and else in the
order of the numbers. -/
def scanned (table : Table) (select : Select) : List Row :=
  if table.needsOnlyKeys select then table.rowsByKey else table.rows

/-- The rows in the order of the sort keys. -/
def sorted (table : Table) (select : Select) : List Row :=
  (table.scanned select).mergeSort fun left right =>
    table.cmpRows select.sorting left right != .gt

/-! ## Selecting -/

/-- A page of a selection as numbers of rows; a negative limit is none. -/
def pageLimit : Option Int → Option Nat
  | some limit => if limit < 0 then none else some limit.toNat
  | none => none

/-- The page of a selection, cut out of the accepted rows in order. -/
def pageOf (table : Table) (accept : Row → Except Fault Bool) (select : Select) :
    Except Fault (List Row) :=
  takePage accept select.offset.toNat (pageLimit select.limit) (table.sorted select)

/-- The rows of a selection. -/
def select (table : Table) (select : Select) : Except Fault (List Row) := do
  if pageLimit select.limit = some 0 then pure []
  else if ← table.accepts ⟨0, []⟩ (table.ofRank 0 select.filters) then
    let filters := table.ofRank 1 select.filters ++ table.ofRank 2 select.filters
    table.pageOf (fun row => table.accepts row filters) select
  else pure []

end Table
end FieldSearch.Database
