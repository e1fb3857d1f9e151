import FieldSearch.Search.FieldSet
import FieldSearch.Text.Words

/-!
# Orders of records

An order is a list of keys, each compared when all before it are equal. A search with ranking puts
first the records of which a field begins with its term, then those in which a term occurs early,
and settles the rest by the primary key.
-/

namespace FieldSearch

/-- Which way a key is sorted. -/
inductive Direction where
  | ascending
  | descending
deriving DecidableEq, Repr, Inhabited

/-- The keyword of the direction. -/
def Direction.keyword : Direction → String
  | .ascending => "ASC"
  | .descending => "DESC"

/-- The name of the direction. -/
def Direction.name : Direction → String
  | .ascending => "asc"
  | .descending => "desc"

/-- A field with the term by which it is searched. -/
structure FieldTerm where
  field : String
  term : String
deriving DecidableEq, Repr

/-- What a key compares. -/
inductive RankExpr where
  /-- Whether any of the fields begins with its term. -/
  | exactPrefix (pairs : List FieldTerm)
  /-- The least position at which a term occurs in its field. -/
  | matchPosition (pairs : List FieldTerm)
  /-- The value of a column. -/
  | column (name : String)
deriving DecidableEq, Repr

/-- A sort key. -/
structure SortKey where
  expr : RankExpr
  direction : Direction := .ascending
  /-- Whether records without a value come last. -/
  nullsLast : Bool := false
deriving DecidableEq, Repr

/-- An order of records. -/
structure Sorting where
  keys : List SortKey
deriving DecidableEq, Repr

namespace Sorting

/-- The order by one column. -/
def byColumn (name : String) : Sorting := ⟨[{ expr := .column name }]⟩

/-- The fields that take part in ranking: those whose term has a word. -/
def ranked (fields : FieldSet) (terms : TermSet) : List FieldTerm :=
  fields.fields.filterMap fun field =>
    match terms.term? field with
    | some term => if (Text.words term).isEmpty then none else some ⟨field, term⟩
    | none => none

/-- The keys of a ranked search. -/
def ranking (pairs : List FieldTerm) (primaryKey : String) : Sorting :=
  ⟨[{ expr := .exactPrefix pairs, direction := .descending },
    { expr := .matchPosition pairs, nullsLast := true },
    { expr := .column primaryKey }]⟩

/-- The order of a ranked search, if any field takes part in it. -/
def forTerms (fields : FieldSet) (terms : TermSet) (primaryKey : String) :
    Except SearchError (Option Sorting) := do
  fields.check terms
  match ranked fields terms with
  | [] => pure none
  | pairs => pure (some (ranking pairs primaryKey))

/-- A field with its term as an object. -/
def fieldTermJson (pair : FieldTerm) : Json :=
  .object [("field", .text pair.field), ("term", .text pair.term)]

/-- What a key compares, as an object. -/
def exprJson : RankExpr → Json
  | .exactPrefix pairs =>
      .object [("kind", .text "exact_prefix"), ("over", .list (pairs.map fieldTermJson))]
  | .matchPosition pairs =>
      .object [("kind", .text "match_position"), ("over", .list (pairs.map fieldTermJson))]
  | .column name => .object [("kind", .text "column"), ("over", .text name)]

/-- A key as an object. -/
def keyJson (key : SortKey) : Json :=
  .object [("direction", .text key.direction.name), ("expr", exprJson key.expr),
    ("nulls_last", .bool key.nullsLast)]

/-- An order as an object. -/
def toJson (sorting : Sorting) : Json := .object [("keys", .list (sorting.keys.map keyJson))]

end Sorting
end FieldSearch
