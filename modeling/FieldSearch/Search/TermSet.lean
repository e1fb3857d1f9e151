import FieldSearch.Json.Decoder

/-!
# Search terms

A term set says, field by field, what is searched. A field may be named without a term, or with an
empty one; both mean that the field is not searched, but they are kept apart, since naming a field
that does not exist is a fault in any case. A blank term is content.

## Main results

* `term?_insert_self`: a field has the term last given for it, unless that is empty.
-/

namespace FieldSearch

/-- Terms by field, absent and empty ones included. -/
structure TermSet where
  terms : KeyMap (Option String)
deriving DecidableEq

namespace TermSet

/-- The set that names no field. -/
def empty : TermSet := ⟨KeyMap.empty⟩

/-- The set with one field written. -/
def insert (set : TermSet) (field : String) (term : Option String) : TermSet :=
  ⟨set.terms.insert field term⟩

/-- The set of the given pairs; of several for one field the last counts. -/
def ofList (pairs : List (String × Option String)) : TermSet := ⟨KeyMap.ofList pairs⟩

/-- The term of an entry, unless it is absent or empty. -/
def effective? : Option String → Option String
  | some term => if term.isEmpty then none else some term
  | none => none

/-- The term by which a field is searched. -/
def term? (set : TermSet) (field : String) : Option String :=
  (set.terms.get? field).bind effective?

/-- The fields that are named, in rising order. -/
def fields (set : TermSet) : List String := set.terms.keys

/-- The fields that are searched, with their terms. -/
def effective (set : TermSet) : List (String × String) :=
  set.terms.entries.filterMap fun entry => (effective? entry.2).map fun term => (entry.1, term)

/-- Whether no field is named. -/
def isEmpty (set : TermSet) : Bool := set.terms.isEmpty

/-- Whether some field is searched. -/
def hasTerms (set : TermSet) : Bool := !set.effective.isEmpty

theorem term?_insert_self (set : TermSet) (field : String) (term : Option String) :
    (set.insert field term).term? field = effective? term := by
  simp [insert, term?]

theorem term?_insert_of_ne (set : TermSet) {field other : String} (term : Option String)
    (hNe : other ≠ field) : (set.insert field term).term? other = set.term? other := by
  simp [insert, term?, KeyMap.get?_insert_of_ne _ _ hNe]

/-- Reads a set from an object of texts and nulls. -/
def decoder : Json.Decoder TermSet :=
  (Json.Decoder.keyMap (Json.Decoder.optional Json.Decoder.text)).map TermSet.mk

/-- The set as an object. -/
def toJson (set : TermSet) : Json := .ofMap (set.terms.mapValues Json.ofText?)

end TermSet
end FieldSearch
