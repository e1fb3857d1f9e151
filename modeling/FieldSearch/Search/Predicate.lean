import FieldSearch.Search.FieldSet
import FieldSearch.Search.Strategy
import FieldSearch.Text.Words

/-!
# Search conditions

A search is a choice among clauses, each of which matches one field. Conditions are combined by
`anyOf`, which keeps them in normal form: no alternative is trivially true or false, and a choice
has at least two alternatives. How a condition is expressed in a dialect is no matter here.

## Main results

* `forTerms_of_check`: a condition is built from every term set that names declared fields only.
-/

namespace FieldSearch

/-- How one field is matched. -/
inductive Clause where
  /-- The field contains the term as it stands, regardless of case. -/
  | contains (field term : String)
  /-- Each word begins a word of the field. -/
  | beginsWords (field : String) (words : List String)
deriving DecidableEq, Repr

/-- The field that a clause matches. -/
def Clause.field : Clause → String
  | .contains field _ => field
  | .beginsWords field _ => field

/-- A clause as an object. -/
def Clause.toEntries : Clause → List (String × Json)
  | .contains field term =>
      [("kind", .text "match"), ("op", .text "contains"), ("field", .text field),
        ("term", .text term)]
  | .beginsWords field words =>
      [("kind", .text "match"), ("op", .text "lexeme_prefix"), ("field", .text field),
        ("lexemes", .list (words.map .text))]

/-- A condition on a record. -/
inductive Predicate where
  /-- Satisfied by every record. -/
  | always
  /-- Satisfied by no record. -/
  | never
  /-- One clause. -/
  | single (clause : Clause)
  /-- Satisfied with any of the alternatives. -/
  | any (alternatives : List Predicate)
deriving BEq, Repr, Inhabited

namespace Predicate

/-- Whether the condition narrows nothing. -/
def isAlways : Predicate → Bool
  | .always => true
  | _ => false

/-- Whether the condition is the one without solutions. -/
def isNever : Predicate → Bool
  | .never => true
  | _ => false

/-- The choice among conditions, in normal form. -/
def anyOf (alternatives : List Predicate) : Predicate :=
  let kept := alternatives.filter (!·.isNever)
  if kept.any isAlways then .always
  else
    match kept with
    | [] => .never
    | [alternative] => alternative
    | kept => .any kept

mutual

/-- The clauses of a condition, in order. -/
def clauses : Predicate → List Clause
  | .always => []
  | .never => []
  | .single clause => [clause]
  | .any alternatives => clausesOf alternatives

/-- The clauses of several conditions, in order. -/
def clausesOf : List Predicate → List Clause
  | [] => []
  | alternative :: rest => clauses alternative ++ clausesOf rest

end

mutual

/-- A condition as an object, in the order of writing. -/
def toJson : Predicate → Json
  | .always => .object [("kind", .text "true")]
  | .never => .object [("kind", .text "false")]
  | .single clause => .object clause.toEntries
  | .any alternatives => .object [("kind", .text "or"), ("any", .list (toJsonList alternatives))]

/-- Conditions as objects. -/
def toJsonList : List Predicate → List Json
  | [] => []
  | alternative :: rest => toJson alternative :: toJsonList rest

end

/-! ## The condition of a term set -/

/-- The condition of one term on one field; words cannot begin anything when there are none. -/
def forTerm (strategy : Strategy) (field term : String) : Predicate :=
  match strategy with
  | .generic => .single (.contains field term)
  | .fullTextPrefix =>
      match Text.words term with
      | [] => .never
      | words => .single (.beginsWords field words)

/-- The conditions of the fields that are searched, in the order of declaration. -/
def searched (fields : FieldSet) (terms : TermSet) (strategy : Strategy) : List Predicate :=
  fields.fields.filterMap fun field => (terms.term? field).map (forTerm strategy field)

/-- The condition of a term set. -/
def forTerms (fields : FieldSet) (terms : TermSet) (strategy : Strategy) :
    Except SearchError Predicate := do
  fields.check terms
  if !terms.hasTerms then pure .always else pure (anyOf (searched fields terms strategy))

theorem forTerms_of_check {fields : FieldSet} {terms : TermSet} {strategy : Strategy}
    (h : fields.check terms = .ok ()) :
    forTerms fields terms strategy =
      .ok (if terms.hasTerms then anyOf (searched fields terms strategy) else .always) := by
  cases hTerms : terms.hasTerms <;> simp [forTerms, h, hTerms, bind, Except.bind, pure, Except.pure]

end Predicate
end FieldSearch
