import FieldSearch.Schema.Statements
import FieldSearch.Search.Render

/-!
# Selections

A selection names a table and its columns and has filters, all of which a record has to pass, an
order, and a page. Rendering a selection gives a statement with parameters, or a refusal when the
dialect cannot express one of its conditions.
-/

namespace FieldSearch

/-- A condition on the records of a selection. -/
inductive Filter where
  /-- The column has one of the values; with no values, no record passes. -/
  | idIn (column : String) (ids : List Sql.Value)
  /-- A search. -/
  | search (predicate : Predicate)
  /-- The column has the value, or has none if the value is null. -/
  | columnEquals (column : String) (value : Sql.Value)
deriving BEq, Repr

/-- A selection of records. -/
structure Select where
  table : String
  columns : List String
  filters : List Filter := []
  sorting : Sorting
  limit : Option Int := none
  offset : Int := 0
deriving BEq, Repr

namespace Select

/-- All records of a type, by primary key. -/
def ofSchema (schema : Schema) : Select where
  table := schema.table
  columns := schema.columnNames
  sorting := .byColumn schema.primaryKey

/-- The selection with one more filter. -/
def filter (select : Select) (filter : Filter) : Select :=
  { select with filters := select.filters ++ [filter] }

/-- The selection in another order. -/
def orderBy (select : Select) (sorting : Sorting) : Select := { select with sorting }

/-- One page of the selection. -/
def page (select : Select) (limit offset : Int) : Select :=
  { select with limit := some limit, offset }

end Select

namespace Sql

/-- A filter in SQL, if it narrows anything. -/
def renderFilter (dialect : Dialect) (config : Option String) : Filter → Option Rendering
  | .search .always => none
  | .search predicate => some (renderPredicate dialect config predicate)
  | .idIn _ [] => some (.fixed "1 = 0")
  | .idIn column ids =>
      some (.done ([.name column, .fixed " IN ("] ++
        Template.joined ", " (ids.map fun id => [.value id]) ++ [.fixed ")"]))
  | .columnEquals column .null => some (.done [.name column, .fixed " IS NULL"])
  | .columnEquals column value => some (.done [.name column, .fixed " = ", .value value])

/-- The conditions of a selection. -/
def renderWhere (dialect : Dialect) (config : Option String) (filters : List Filter) : Rendering :=
  match filters.filterMap (renderFilter dialect config) with
  | [] => .done []
  | conditions => .fixed " WHERE " ++ Rendering.joined " AND " conditions

/-- The order of a selection. -/
def renderOrderBy (dialect : Dialect) (sorting : Sorting) : Rendering :=
  match sorting.keys with
  | [] => .done []
  | _ => .fixed " ORDER BY " ++ renderSorting dialect sorting

/-- The page of a selection. -/
def renderPage (limit : Option Int) (offset : Int) : Rendering :=
  (match limit with
    | some limit => .fixed s!" LIMIT {limit}"
    | none => .done []) ++
  (if 0 < offset then .fixed s!" OFFSET {offset}" else .done [])

/-- The columns and the table of a selection. -/
def selectHead (select : Select) : Template :=
  [.fixed "SELECT "] ++ Template.joined ", " (select.columns.map fun column => [.name column]) ++
    [.fixed " FROM ", .name select.table]

/-- A selection in SQL. -/
def renderSelect (dialect : Dialect) (config : Option String) (select : Select) : Rendering :=
  .done (selectHead select) ++
  renderWhere dialect config select.filters ++
  renderOrderBy dialect select.sorting ++
  renderPage select.limit select.offset

/-- A selection as a statement. -/
def Writer.renderSelect (writer : Writer) (select : Select) : Except SearchError Fragment :=
  (Sql.renderSelect writer.dialect writer.textSearchConfig select).render writer

end Sql
end FieldSearch
