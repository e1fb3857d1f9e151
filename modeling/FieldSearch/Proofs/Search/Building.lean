import FieldSearch.Proofs.KeyMap
import FieldSearch.Proofs.Search.Compilation
import Mathlib

/-!
# Term sets built under check

A term set is checked either as a whole or while it is built, field by field.  Both come to the
same: building stops at the first entry for a field that is not declared, and what is built of
entries for declared fields is what unchecked writing gives, with the last entry for a field
counting.  The term sets that are built are the ones that pass as a whole, so nothing that was built
is refused later.

## Main results

* `add_of_mem`, `add_of_not_mem`: one step of building.
* `foldlM_add_of_forall_mem`, `foldlM_add_of_first`: a run of it.
* `build_eq_ok_iff`, `build_eq_error_iff`: what is built, and what stops it.
* `check_eq_ok_iff_exists_build`: what passes is what can be built.
-/

namespace FieldSearch

/-- A term set of entries is made by writing one after the other. -/
theorem TermSet.ofList_eq_foldl_insert (entries : List (String × Option String)) :
    ofList entries = entries.foldl (fun terms entry => terms.insert entry.1 entry.2) empty := by
  induction entries using List.reverseRecOn with
  | nil => rfl
  | append_singleton entries entry ih =>
      rw [List.foldl_concat, ← ih, ofList, KeyMap.ofList_concat, insert, ofList]

theorem TermSet.mem_fields_ofList {entries : List (String × Option String)} {field : String} :
    field ∈ (ofList entries).fields ↔ ∃ entry ∈ entries, entry.1 = field :=
  KeyMap.mem_keys_ofList

namespace FieldSet

variable {set : FieldSet} {terms : TermSet} {entries : List (String × Option String)}

/-! ## A step of building -/

theorem add_of_mem {field : String} (h : field ∈ set.fields) (terms : TermSet)
    (term : Option String) : set.add terms field term = .ok (terms.insert field term) := by
  rw [add, checkField, if_pos (contains_iff.mpr h)]
  rfl

theorem add_of_not_mem {field : String} (h : field ∉ set.fields) (terms : TermSet)
    (term : Option String) :
    set.add terms field term = .error (.invalidSearchField set.record field) := by
  rw [add, checkField, if_neg (mt contains_iff.mp h)]
  rfl

/-! ## Runs -/

/-- Entries for declared fields are all written. -/
theorem foldlM_add_of_forall_mem (h : ∀ entry ∈ entries, entry.1 ∈ set.fields) :
    ∀ terms, entries.foldlM (fun terms entry => set.add terms entry.1 entry.2) terms =
      .ok (entries.foldl (fun terms entry => terms.insert entry.1 entry.2) terms) := by
  induction entries with
  | nil => exact fun _ => rfl
  | cons entry rest ih =>
      intro terms
      obtain ⟨hEntry, hRest⟩ := List.forall_mem_cons.mp h
      rw [List.foldlM_cons, add_of_mem hEntry, List.foldl_cons]
      exact ih hRest _

/-- The first entry for a field that is not declared ends the run. -/
theorem foldlM_add_of_first {before after : List (String × Option String)}
    {entry : String × Option String} (hBefore : ∀ earlier ∈ before, earlier.1 ∈ set.fields)
    (hEntry : entry.1 ∉ set.fields) (terms : TermSet) :
    (before ++ entry :: after).foldlM (fun terms entry => set.add terms entry.1 entry.2) terms =
      .error (.invalidSearchField set.record entry.1) := by
  rw [List.foldlM_append]
  refine bind_eq_error.mpr (.inr ⟨_, foldlM_add_of_forall_mem hBefore terms, ?_⟩)
  rw [List.foldlM_cons]
  exact bind_eq_error.mpr (.inl (add_of_not_mem hEntry _ _))

/-- Either every entry is for a declared field, or one is the first that is not. -/
theorem forall_mem_or_exists_first (set : FieldSet) (entries : List (String × Option String)) :
    (∀ entry ∈ entries, entry.1 ∈ set.fields) ∨
      ∃ before entry after, entries = before ++ entry :: after ∧
        (∀ earlier ∈ before, earlier.1 ∈ set.fields) ∧ entry.1 ∉ set.fields := by
  cases hFind : entries.find? fun entry => !set.contains entry.1 with
  | none =>
      refine .inl fun entry hMem => contains_iff.mp ?_
      simpa using List.find?_eq_none.mp hFind entry hMem
  | some entry =>
      obtain ⟨hEntry, before, after, hSplit, hBefore⟩ :=
        List.find?_eq_some_iff_append.mp hFind
      refine .inr ⟨before, entry, after, hSplit, fun earlier hMem => contains_iff.mp ?_, ?_⟩
      · simpa using hBefore earlier hMem
      · rw [← contains_iff]
        simpa using hEntry

/-- **What is built** is what unchecked writing gives, and the fields are declared. -/
theorem build_eq_ok_iff :
    set.build entries = .ok terms ↔
      (∀ entry ∈ entries, entry.1 ∈ set.fields) ∧ terms = TermSet.ofList entries := by
  rw [TermSet.ofList_eq_foldl_insert]
  constructor
  · intro h
    rcases forall_mem_or_exists_first set entries with
      hAll | ⟨before, entry, after, rfl, hBefore, hEntry⟩
    · rw [build, foldlM_add_of_forall_mem hAll] at h
      exact ⟨hAll, (Except.ok.inj h).symm⟩
    · rw [build, foldlM_add_of_first hBefore hEntry] at h
      cases h
  · rintro ⟨hAll, rfl⟩
    exact foldlM_add_of_forall_mem hAll TermSet.empty

/-- **What stops building** is the first entry for a field that is not declared. -/
theorem build_eq_error_iff {fault : SearchError} :
    set.build entries = .error fault ↔
      ∃ before entry after, entries = before ++ entry :: after ∧
        (∀ earlier ∈ before, earlier.1 ∈ set.fields) ∧ entry.1 ∉ set.fields ∧
          fault = .invalidSearchField set.record entry.1 := by
  constructor
  · intro h
    rcases forall_mem_or_exists_first set entries with
      hAll | ⟨before, entry, after, hSplit, hBefore, hEntry⟩
    · rw [build, foldlM_add_of_forall_mem hAll] at h
      cases h
    · refine ⟨before, entry, after, hSplit, hBefore, hEntry, ?_⟩
      rw [hSplit, build, foldlM_add_of_first hBefore hEntry] at h
      exact (Except.error.inj h).symm
  · rintro ⟨before, entry, after, rfl, hBefore, hEntry, rfl⟩
    exact foldlM_add_of_first hBefore hEntry TermSet.empty

/-! ## Both checks -/

/-- **What passes as a whole is what can be built.** -/
theorem check_eq_ok_iff_exists_build :
    set.check terms = .ok () ↔ ∃ entries, set.build entries = .ok terms := by
  rw [check_eq_ok_iff]
  constructor
  · intro hAll
    refine ⟨terms.terms.entries, build_eq_ok_iff.mpr ⟨fun entry hEntry => ?_, ?_⟩⟩
    · exact contains_iff.mp (hAll entry.1 (List.mem_map_of_mem hEntry))
    · rw [TermSet.ofList, KeyMap.ofList_entries]
  · rintro ⟨entries, hBuilt⟩ field hField
    obtain ⟨hAll, rfl⟩ := build_eq_ok_iff.mp hBuilt
    obtain ⟨entry, hEntry, rfl⟩ := TermSet.mem_fields_ofList.mp hField
    exact contains_iff.mpr (hAll entry hEntry)

/-- **Building under check gives exactly the term sets that pass.**  It stops at the first entry for
a field that is not declared, and names that field; otherwise it gives what the same unchecked
writing gives, where the last entry for a field counts.  What can be built is what passes the check
as a whole, and every strategy finds a condition for it, and every key an order. -/
theorem building_gives_what_passes (set : FieldSet) :
    (∀ entries fault, set.build entries = .error fault ↔
      ∃ before entry after, entries = before ++ entry :: after ∧
        (∀ earlier ∈ before, earlier.1 ∈ set.fields) ∧ entry.1 ∉ set.fields ∧
          fault = .invalidSearchField set.record entry.1) ∧
    (∀ entries terms, set.build entries = .ok terms ↔
      (∀ entry ∈ entries, entry.1 ∈ set.fields) ∧
        terms = entries.foldl (fun terms entry => terms.insert entry.1 entry.2) .empty) ∧
    (∀ entries terms, set.build entries = .ok terms →
      ∀ field, terms.terms.get? field = entries.reverse.lookup field) ∧
    ∀ terms, (set.check terms = .ok () ↔ ∃ entries, set.build entries = .ok terms) ∧
      (set.check terms = .ok () →
        (∀ strategy, ∃ predicate, Predicate.forTerms set terms strategy = .ok predicate) ∧
        ∀ primaryKey, ∃ sorting, Sorting.forTerms set terms primaryKey = .ok sorting) := by
  refine ⟨fun _ _ => build_eq_error_iff, fun entries terms => ?_, fun entries terms hBuilt => ?_,
    fun terms => ⟨check_eq_ok_iff_exists_build, fun hCheck => ⟨fun strategy => ?_, ?_⟩⟩⟩
  · rw [← TermSet.ofList_eq_foldl_insert]
    exact build_eq_ok_iff
  · obtain ⟨-, rfl⟩ := build_eq_ok_iff.mp hBuilt
    exact KeyMap.get?_ofList entries
  · exact ⟨_, Predicate.forTerms_of_check hCheck⟩
  · exact fun primaryKey => Sorting.exists_forTerms primaryKey hCheck

/-- A field that is written twice, the last time with an empty term, and entries of which the third
and the fourth are for fields that are not declared. -/
theorem building_gives_what_passes_of_heroes :
    let heroes : FieldSet := ⟨"Hero", ["name", "team"]⟩
    let entries : List (String × Option String) :=
      [("team", some "blue"), ("name", none), ("team", some "")]
    let terms := TermSet.ofList entries
    heroes.build entries = .ok terms ∧ terms.terms.get? "team" = some (some "") ∧
    heroes.check terms = .ok () ∧
    (∃ predicate, Predicate.forTerms heroes terms .fullTextPrefix = .ok predicate) ∧
    (∃ sorting, Sorting.forTerms heroes terms "id" = .ok sorting) ∧
    heroes.build [("name", none), ("team", none), ("power", some "x"), ("age", none)] =
      .error (.invalidSearchField "Hero" "power") := by
  intro heroes entries terms
  obtain ⟨hStops, hBuilds, hLast, hPasses⟩ := building_gives_what_passes heroes
  have hBuilt : heroes.build entries = .ok terms :=
    (hBuilds entries terms).mpr ⟨by decide, rfl⟩
  have hCheck : heroes.check terms = .ok () := (hPasses terms).1.mpr ⟨entries, hBuilt⟩
  refine ⟨hBuilt, (hLast entries terms hBuilt "team").trans rfl, hCheck,
    ((hPasses terms).2 hCheck).1 .fullTextPrefix, ((hPasses terms).2 hCheck).2 "id", ?_⟩
  exact (hStops _ _).mpr ⟨[("name", none), ("team", none)], ("power", some "x"), [("age", none)],
    rfl, by decide, by decide, rfl⟩

end FieldSet
end FieldSearch
