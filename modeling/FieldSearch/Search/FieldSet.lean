import FieldSearch.Schema.Error
import FieldSearch.Search.Error
import FieldSearch.Search.TermSet
import FieldSearch.Text.Identifier

/-!
# Searchable fields

The fields of a record type that text search may touch, in the order in which they were declared;
that order is the order of clauses and of ranking. A term set is accepted when it names no other
field, and a checked one is built field by field with the same test at each step.

## Main results

* `check_eq_ok_iff`: a term set passes exactly when every field that it names is declared.
-/

namespace FieldSearch

/-- Refuses a text that is not a plain identifier. -/
def checkIdentifier (name : String) : Except SchemaError Unit :=
  if Text.isIdentifier name then pure () else throw (.invalidIdentifier name)

/-- The searchable fields of a record type. -/
structure FieldSet where
  record : String
  fields : List String
deriving DecidableEq, Repr

namespace FieldSet

/-- The set without fields. -/
def empty (record : String) : FieldSet := ⟨record, []⟩

/-- Checks declared fields from left to right, each as an identifier and then against those seen. -/
def checkFields : List String → List String → Except SchemaError Unit
  | _, [] => pure ()
  | seen, field :: rest => do
      checkIdentifier field
      if seen.contains field then throw (.duplicateSearchField field)
      checkFields (field :: seen) rest

/-- Declares the searchable fields of a record type. -/
def declare (record : String) (fields : List String) : Except SchemaError FieldSet := do
  checkFields [] fields
  pure ⟨record, fields⟩

/-- Whether a field is declared. -/
def contains (set : FieldSet) (field : String) : Bool := set.fields.contains field

/-- The number of fields. -/
def size (set : FieldSet) : Nat := set.fields.length

/-- Whether there is no field. -/
def isEmpty (set : FieldSet) : Bool := set.fields.isEmpty

/-- The fault of naming a field that is not declared. -/
def undeclared (set : FieldSet) (field : String) : SearchError :=
  .invalidSearchField set.record field

/-- Refuses a field that is not declared. -/
def checkField (set : FieldSet) (field : String) : Except SearchError Unit :=
  if set.contains field then pure () else throw (set.undeclared field)

/-- Refuses a term set that names a field not declared, the least of them being reported. -/
def check (set : FieldSet) (terms : TermSet) : Except SearchError Unit :=
  match terms.fields.find? fun field => !set.contains field with
  | some field => throw (set.undeclared field)
  | none => pure ()

/-- One step of building a checked term set. -/
def add (set : FieldSet) (terms : TermSet) (field : String) (term : Option String) :
    Except SearchError TermSet := do
  set.checkField field
  pure (terms.insert field term)

/-- Builds a checked term set; of several entries for a field the last counts. -/
def build (set : FieldSet) (entries : List (String × Option String)) :
    Except SearchError TermSet :=
  entries.foldlM (fun terms entry => set.add terms entry.1 entry.2) TermSet.empty

theorem check_eq_ok_iff {set : FieldSet} {terms : TermSet} :
    set.check terms = .ok () ↔ ∀ field ∈ terms.fields, set.contains field = true := by
  unfold check
  cases h : terms.fields.find? fun field => !set.contains field with
  | some field =>
      have hFound := List.find?_some h
      have hMem := List.mem_of_find?_eq_some h
      constructor
      · intro hOk
        cases hOk
      · intro hAll
        simp [hAll field hMem] at hFound
  | none =>
      have hAll := List.find?_eq_none.mp h
      constructor
      · intro _ field hMem
        simpa using hAll field hMem
      · intro _
        rfl

end FieldSet
end FieldSearch
