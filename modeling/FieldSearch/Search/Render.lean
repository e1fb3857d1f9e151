import FieldSearch.Search.Predicate
import FieldSearch.Search.Sorting
import FieldSearch.Sql.Rendering
import FieldSearch.Text.Like

/-!
# Conditions and orders in SQL

Terms always become parameters; into the text go only quoted names and fixed words. Clauses on words
and ranking expressions need full text search, and a dialect without it refuses them before anything
of theirs is bound.
-/

namespace FieldSearch.Sql

/-- Refuses what needs full text search in a dialect without it. -/
def requireFullText (dialect : Dialect) (rendering : Rendering) : Rendering :=
  if dialect.supportsFullText then rendering
  else .refused [] (.unsupportedStrategy Strategy.fullTextPrefix.name dialect.name)

/-- The text search configuration as the first argument of a text search function. -/
def configArgument : Option String → Template
  | some config => [.value (.text config), .fixed "::text::regconfig, "]
  | none => []

/-- A clause as a condition. -/
def renderClause (dialect : Dialect) (config : Option String) : Clause → Rendering
  | .contains field term =>
      .done (like dialect [.name field] [.value (.text (Text.Like.containing term))])
  | .beginsWords field words =>
      requireFullText dialect (.done (
        [.fixed "to_tsvector("] ++ configArgument config ++ [.name field] ++
        [.fixed ") @@ to_tsquery("] ++ configArgument config ++
        [.value (.text (Text.prefixQuery words)), .fixed ")"]))

mutual

/-- A condition in SQL. -/
def renderPredicate (dialect : Dialect) (config : Option String) : Predicate → Rendering
  | .always => .fixed "1 = 1"
  | .never => .fixed "1 = 0"
  | .single clause => renderClause dialect config clause
  | .any alternatives =>
      .fixed "(" ++ Rendering.joined " OR " (renderAlternatives dialect config alternatives) ++
        .fixed ")"

/-- The alternatives of a choice. -/
def renderAlternatives (dialect : Dialect) (config : Option String) :
    List Predicate → List Rendering
  | [] => []
  | alternative :: rest =>
      renderPredicate dialect config alternative :: renderAlternatives dialect config rest

end

/-- Several expressions under a function; a single one stands alone. -/
def folded (function : String) : List Template → Template
  | [part] => part
  | parts => [.fixed (function ++ "(")] ++ Template.joined ", " parts ++ [.fixed ")"]

/-- One if a field begins with its term, and zero otherwise. -/
def exactPrefixFlag (dialect : Dialect) (pair : FieldTerm) : Template :=
  [.fixed "CASE WHEN "] ++
    like dialect [.name pair.field] [.value (.text (Text.Like.beginningWith pair.term))] ++
    [.fixed " THEN 1 ELSE 0 END"]

/-- The position of a term in its field, or null. -/
def matchPosition (pair : FieldTerm) : Template :=
  [.fixed "NULLIF(POSITION(LOWER(", .value (.text pair.term), .fixed "::text) IN LOWER(",
    .name pair.field, .fixed ")), 0)"]

/-- What a key compares, in SQL. -/
def renderExpr (dialect : Dialect) : RankExpr → Rendering
  | .column name => .done [.name name]
  | .exactPrefix pairs =>
      requireFullText dialect (.done (folded "GREATEST" (pairs.map (exactPrefixFlag dialect))))
  | .matchPosition pairs =>
      requireFullText dialect (.done (folded "LEAST" (pairs.map matchPosition)))

/-- A sort key in SQL. -/
def renderKey (dialect : Dialect) (key : SortKey) : Rendering :=
  renderExpr dialect key.expr ++
    .fixed (" " ++ key.direction.keyword ++ (if key.nullsLast then " NULLS LAST" else ""))

/-- An order in SQL. -/
def renderSorting (dialect : Dialect) (sorting : Sorting) : Rendering :=
  Rendering.joined ", " (sorting.keys.map (renderKey dialect))

end FieldSearch.Sql
