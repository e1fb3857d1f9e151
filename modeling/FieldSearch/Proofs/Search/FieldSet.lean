import FieldSearch.Proofs.Outcome
import FieldSearch.Search.FieldSet
import Mathlib

/-!
# Declared fields

Fields that were declared are told apart by their names, and their order is the order of
declaration.  They were checked by a walk over their names, and the columns of a record
type are checked by the same walk.

A term set is refused for the fields that it names beyond these.  Its own
fields are held in rising order, so the one that is found first, and so reported, is the
least of them.

## Main results

* `checkNames_eq_ok`: names that pass are identifiers that differ.
* `declare_eq_ok`: what is known of a set of fields that was declared.
* `check_eq_error_iff`: the field for which a term set is refused.
-/

namespace FieldSearch

/-- What is found first among rising keys is the least of those with the property. -/
theorem isLeast_of_find?_eq_some {keys : List String} (hRising : keys.Pairwise (· < ·))
    {p : String → Bool} {key : String} (hFound : keys.find? p = some key) :
    IsLeast {other | other ∈ keys ∧ p other = true} key := by
  obtain ⟨hKey, before, after, rfl, hBefore⟩ := List.find?_eq_some_iff_append.mp hFound
  refine ⟨⟨by simp, hKey⟩, ?_⟩
  rintro other ⟨hMem, hOther⟩
  rcases List.mem_append.mp hMem with hEarlier | hLater
  · have hNot := hBefore other hEarlier
    rw [hOther] at hNot
    cases hNot
  · rcases List.mem_cons.mp hLater with rfl | hAfter
    · exact le_refl other
    · have hTail := (List.pairwise_append.mp hRising).2.1
      exact le_of_lt ((List.pairwise_cons.mp hTail).1 other hAfter)

theorem find?_eq_some_iff_isLeast {keys : List String} (hRising : keys.Pairwise (· < ·))
    {p : String → Bool} {key : String} :
    keys.find? p = some key ↔ IsLeast {other | other ∈ keys ∧ p other = true} key := by
  refine ⟨isLeast_of_find?_eq_some hRising, fun hLeast => ?_⟩
  cases hFound : keys.find? p with
  | none => exact absurd hLeast.1.2 (List.find?_eq_none.mp hFound key hLeast.1.1)
  | some first =>
      obtain rfl : first = key := (isLeast_of_find?_eq_some hRising hFound).unique hLeast
      rfl

/-! ## The walk over names -/

theorem checkIdentifier_eq_ok {name : String} {result : Unit} :
    checkIdentifier name = .ok result ↔ Text.isIdentifier name = true := by
  unfold checkIdentifier
  cases Text.isIdentifier name with
  | true => exact iff_of_true rfl rfl
  | false => constructor <;> intro h <;> cases h

/-- Checks names from left to right, each as an identifier and then against those seen. -/
def checkNames (blame : String → SchemaError) :
    List String → List String → Except SchemaError Unit
  | _, [] => pure ()
  | seen, name :: rest => do
      checkIdentifier name
      if seen.contains name then throw (blame name)
      checkNames blame (name :: seen) rest

/-- Names that pass are identifiers that differ from each other and from those seen before. -/
theorem checkNames_eq_ok {blame : String → SchemaError} {names : List String} :
    ∀ {seen : List String} {result : Unit}, checkNames blame seen names = .ok result →
      (∀ name ∈ names, Text.isIdentifier name = true) ∧ names.Nodup ∧
        ∀ name ∈ names, name ∉ seen := by
  induction names with
  | nil =>
      intro seen result _
      exact ⟨fun _ hMem => absurd hMem List.not_mem_nil, List.nodup_nil,
        fun _ hMem => absurd hMem List.not_mem_nil⟩
  | cons name rest ih =>
      intro seen result h
      rw [checkNames] at h
      obtain ⟨_, hIdentifier, h⟩ := bind_eq_ok.mp h
      obtain ⟨hFresh, h⟩ := ite_throw_eq_ok.mp h
      obtain ⟨hNames, hNodup, hSeen⟩ := ih h
      have hNotSeen : name ∉ seen := by simpa using hFresh
      have hNotLater : name ∉ rest := fun hMem => hSeen name hMem List.mem_cons_self
      refine ⟨List.forall_mem_cons.mpr ⟨checkIdentifier_eq_ok.mp hIdentifier, hNames⟩,
        List.nodup_cons.mpr ⟨hNotLater, hNodup⟩, List.forall_mem_cons.mpr ⟨hNotSeen, ?_⟩⟩
      intro other hOther hMem
      exact hSeen other hOther (List.mem_cons_of_mem name hMem)

/-- Fields are checked by the walk. -/
theorem FieldSet.checkFields_eq_checkNames (fields : List String) :
    ∀ seen, checkFields seen fields = checkNames .duplicateSearchField seen fields := by
  induction fields with
  | nil => exact fun _ => rfl
  | cons field rest ih =>
      intro seen
      rw [checkFields, checkNames, ih]

namespace TermSet

/-- The fields that a term set names are in rising order. -/
theorem rising_fields (terms : TermSet) : terms.fields.Pairwise (· < ·) :=
  List.pairwise_map.mpr terms.terms.rising

end TermSet

namespace FieldSet

theorem contains_iff {set : FieldSet} {field : String} :
    set.contains field = true ↔ field ∈ set.fields :=
  List.contains_iff_mem

/-! ## Declarations -/

/-- **Fields that were declared** are the ones that were given, and all of them differ. -/
theorem declare_eq_ok {record : String} {names : List String} {set : FieldSet}
    (h : declare record names = .ok set) : set = ⟨record, names⟩ ∧ names.Nodup := by
  obtain ⟨_, hFields, h⟩ := bind_eq_ok.mp h
  rw [checkFields_eq_checkNames] at hFields
  exact ⟨(Except.ok.inj h).symm, (checkNames_eq_ok hFields).2.1⟩

/-! ## Term sets that are refused -/

/-- The field is the least of those that a term set names beyond the declared ones. -/
def Misses (set : FieldSet) (terms : TermSet) (field : String) : Prop :=
  IsLeast {name | name ∈ terms.fields ∧ name ∉ set.fields} field

/-- **A term set is refused for the least field that it names beyond the declared ones.** -/
theorem check_eq_error_iff {set : FieldSet} {terms : TermSet} {fault : SearchError} :
    set.check terms = .error fault ↔
      ∃ field, set.Misses terms field ∧ fault = set.undeclared field := by
  have hFound : ∀ field, (terms.fields.find? fun name => !set.contains name) = some field ↔
      set.Misses terms field := by
    intro field
    have hNot : ∀ name, (!set.contains name) = true ↔ name ∉ set.fields := by
      intro name
      rw [Bool.not_eq_true', Bool.eq_false_iff, Ne, contains_iff]
    rw [find?_eq_some_iff_isLeast terms.rising_fields]
    simp only [hNot]
    rfl
  rw [check]
  cases hFind : terms.fields.find? fun name => !set.contains name with
  | none =>
      constructor
      · intro h
        cases h
      · rintro ⟨field, hMisses, -⟩
        rw [← hFound, hFind] at hMisses
        cases hMisses
  | some field =>
      rw [hFound] at hFind
      constructor
      · intro h
        exact ⟨field, hFind, (Except.error.inj h).symm⟩
      · rintro ⟨other, hMisses, rfl⟩
        obtain rfl : field = other := hFind.unique hMisses
        rfl

end FieldSet
end FieldSearch
