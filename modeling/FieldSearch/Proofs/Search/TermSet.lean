import FieldSearch.Proofs.KeyMap
import FieldSearch.Search.Strategy
import FieldSearch.Search.TermSet
import FieldSearch.Text.Words
import Mathlib

/-!
# Classes of terms

What a search for a field looks like depends on its term only in so far as
there is one and whether it has a word: that is the class of the field.  Two term
sets are alike if they name the same fields and every field is of the same class
in both.  A strategy that matches terms as they stand does not look for words, so
it takes fewer classes apart.

## Main results

* `hasTerms_iff`: a term set has terms if one of its fields has one.
* `isEmpty_words`: a term has no words exactly if no character is alphanumeric.
* `Alike.classOf_eq`: alike term sets have the same class for every field.
-/

namespace FieldSearch

/-- What a strategy can see of the term of a field. -/
inductive TermClass where
  /-- Absent or empty. -/
  | blank
  /-- Without any alphanumeric character. -/
  | wordless
  | worded
deriving DecidableEq, Repr

/-- The class of a term as a strategy sees it: words matter only where they are looked for. -/
def Strategy.see : Strategy → TermClass → TermClass
  | .generic, .wordless => .worded
  | _, seen => seen

namespace TermSet

/-- The class of a field. -/
def classOf (set : TermSet) (field : String) : TermClass :=
  match set.term? field with
  | none => .blank
  | some term => if Text.hasWord term then .worded else .wordless

/-- Term sets that name the same fields, every field being of the same class in both. -/
structure Alike (strategy : Strategy) (left right : TermSet) : Prop where
  fields : left.fields = right.fields
  classes : ∀ field ∈ left.fields,
    strategy.see (left.classOf field) = strategy.see (right.classOf field)

theorem term?_eq_none_of_not_mem {set : TermSet} {field : String} (h : field ∉ set.fields) :
    set.term? field = none := by
  rw [term?, KeyMap.get?_eq_none_iff.mpr h]
  rfl

/-- What holds of the terms of a set and of one more holds of all when that one is written. -/
theorem forall_term?_insert {p : String → Prop} {set : TermSet}
    (hSet : ∀ field term, set.term? field = some term → p term) {term : Option String}
    (hTerm : ∀ written ∈ term, p written) (name : String) :
    ∀ field found, (set.insert name term).term? field = some found → p found := by
  intro field found h
  by_cases hName : field = name
  · subst hName
    rw [term?_insert_self] at h
    cases term with
    | none => cases h
    | some written =>
        rw [effective?] at h
        split at h
        · cases h
        · obtain rfl := Option.some.inj h
          exact hTerm written rfl
  · rw [term?_insert_of_ne _ _ hName] at h
    exact hSet field found h

theorem Alike.classOf_eq {strategy : Strategy} {left right : TermSet}
    (h : Alike strategy left right) (field : String) :
    strategy.see (left.classOf field) = strategy.see (right.classOf field) := by
  by_cases hMem : field ∈ left.fields
  · exact h.classes field hMem
  · have hRight : field ∉ right.fields := h.fields ▸ hMem
    rw [classOf, classOf, term?_eq_none_of_not_mem hMem, term?_eq_none_of_not_mem hRight]

/-- A term set has terms if one of its fields has one. -/
theorem hasTerms_iff {set : TermSet} :
    set.hasTerms = true ↔ ∃ field ∈ set.fields, (set.term? field).isSome = true := by
  have hEffective : set.hasTerms = true ↔
      ∃ entry ∈ set.terms.entries, (effective? entry.2).isSome = true := by
    rw [hasTerms, effective, Bool.not_eq_true', List.isEmpty_eq_false_iff_exists_mem]
    constructor
    · rintro ⟨pair, hPair⟩
      obtain ⟨entry, hEntry, hTerm⟩ := List.mem_filterMap.mp hPair
      refine ⟨entry, hEntry, ?_⟩
      cases hEffective : effective? entry.2 with
      | none => simp [hEffective] at hTerm
      | some term => rfl
    · rintro ⟨entry, hEntry, hSome⟩
      obtain ⟨term, hTerm⟩ := Option.isSome_iff_exists.mp hSome
      exact ⟨(entry.1, term), List.mem_filterMap.mpr ⟨entry, hEntry, by rw [hTerm]; rfl⟩⟩
  rw [hEffective]
  constructor
  · rintro ⟨⟨field, term⟩, hEntry, hSome⟩
    refine ⟨field, List.mem_map_of_mem hEntry, ?_⟩
    rw [term?, KeyMap.get?_eq_some_iff.mpr hEntry]
    exact hSome
  · rintro ⟨field, hField, hSome⟩
    obtain ⟨⟨k, term⟩, hEntry, rfl⟩ := List.mem_map.mp hField
    rw [term?, KeyMap.get?_eq_some_iff.mpr hEntry] at hSome
    exact ⟨(k, term), hEntry, hSome⟩

/-- Every strategy sees whether there is a term. -/
theorem see_classOf_eq_blank (strategy : Strategy) (set : TermSet) (field : String) :
    strategy.see (set.classOf field) = .blank ↔ set.term? field = none := by
  unfold classOf
  cases set.term? field with
  | none => cases strategy <;> exact iff_of_true rfl rfl
  | some term =>
      cases strategy <;> cases hWord : Text.hasWord term <;> simp [Strategy.see, hWord]

theorem Alike.term?_isSome_eq {strategy : Strategy} {left right : TermSet}
    (h : Alike strategy left right) (field : String) :
    (left.term? field).isSome = (right.term? field).isSome := by
  have hNone : left.term? field = none ↔ right.term? field = none := by
    rw [← see_classOf_eq_blank strategy, ← see_classOf_eq_blank strategy, h.classOf_eq field]
  cases hLeft : left.term? field with
  | none => rw [hNone.mp hLeft]
  | some term =>
      cases hRight : right.term? field with
      | none => simp [hNone.mpr hRight] at hLeft
      | some other => rfl

theorem Alike.hasTerms_eq {strategy : Strategy} {left right : TermSet}
    (h : Alike strategy left right) : left.hasTerms = right.hasTerms := by
  rw [Bool.eq_iff_iff, hasTerms_iff, hasTerms_iff, h.fields]
  simp only [h.term?_isSome_eq]

end TermSet

/-! ## Words of a term -/

namespace Text

theorem splitAll_of_all {isSep : Char → Bool} {text : List Char}
    (h : ∀ c ∈ text, isSep c = true) : ∀ piece ∈ splitAll isSep text, piece = [] := by
  induction text with
  | nil => simp [splitAll]
  | cons c rest ih =>
      have hHead : isSep c = true := h c (by simp)
      have hRest := ih fun d hd => h d (by simp [hd])
      simpa [splitAll, hHead] using hRest

theorem exists_mem_splitAll {isSep : Char → Bool} {text : List Char} {c : Char} (hMem : c ∈ text)
    (hSep : isSep c = false) : ∃ piece ∈ splitAll isSep text, c ∈ piece := by
  induction text with
  | nil => cases hMem
  | cons d rest ih =>
      rw [splitAll]
      by_cases hHead : isSep d = true
      · rw [if_pos hHead]
        rcases List.mem_cons.mp hMem with rfl | hRest
        · rw [hSep] at hHead
          cases hHead
        · obtain ⟨piece, hPiece, hc⟩ := ih hRest
          exact ⟨piece, List.mem_cons_of_mem _ hPiece, hc⟩
      · rw [if_neg hHead]
        cases hPieces : splitAll isSep rest with
        | nil => exact absurd hPieces (splitAll_ne_nil isSep rest)
        | cons first others =>
            rcases List.mem_cons.mp hMem with rfl | hRest
            · exact ⟨c :: first, by simp, by simp⟩
            · obtain ⟨piece, hPiece, hc⟩ := ih hRest
              rw [hPieces] at hPiece
              rcases List.mem_cons.mp hPiece with rfl | hOther
              · exact ⟨d :: piece, by simp, by simp [hc]⟩
              · exact ⟨piece, by simp [hOther], hc⟩

/-- **A term has no words exactly if no character of it is alphanumeric.** -/
theorem isEmpty_words (term : String) : (words term).isEmpty = !hasWord term := by
  cases hWord : hasWord term with
  | true =>
      obtain ⟨c, hMem, hAlphanumeric⟩ := List.any_eq_true.mp hWord
      have hSep : isSeparator c = false := by simp [isSeparator, hAlphanumeric]
      obtain ⟨piece, hPiece, hc⟩ := exists_mem_splitAll hMem hSep
      have hKept : piece ∈ wordsOf term.toList := by
        refine List.mem_filter.mpr ⟨hPiece, ?_⟩
        cases piece with
        | nil => cases hc
        | cons _ _ => rfl
      have hSome : String.ofList piece ∈ words term := List.mem_map_of_mem hKept
      cases hWords : words term with
      | nil => simp [hWords] at hSome
      | cons _ _ => rfl
  | false =>
      have hAll : ∀ c ∈ term.toList, isSeparator c = true := by
        intro c hc
        have hNot := List.any_eq_false.mp hWord c hc
        simpa [isSeparator] using hNot
      have hNone : wordsOf term.toList = [] := by
        rw [wordsOf, List.filter_eq_nil_iff]
        intro piece hPiece
        simp [splitAll_of_all hAll piece hPiece]
      rw [words, hNone]
      rfl

end Text
end FieldSearch
