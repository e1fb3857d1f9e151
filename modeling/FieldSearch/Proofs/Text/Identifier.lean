import FieldSearch.Text.Identifier
import Mathlib

/-!
# Identifiers as a language

Messages name the identifiers by a regular expression, `[A-Za-z_][A-Za-z0-9_]*`.  Here
that expression is a language, put together from classes of characters, and the test is
compared with it: a text passes when all of it is in the language.

## Main results

* `isIdentifier_iff`: the test accepts the language.
-/

namespace FieldSearch.Text

open Computability

/-- The texts of one character from a class, which is given by its ranges. -/
def oneOf (ranges : List (Char × Char)) : Language Char :=
  {text | ∃ c, text = [c] ∧ ∃ range ∈ ranges, range.1 ≤ c ∧ c ≤ range.2}

/-- The identifiers, `[A-Za-z_][A-Za-z0-9_]*`. -/
def identifiers : Language Char :=
  oneOf [('A', 'Z'), ('a', 'z'), ('_', '_')] *
    (oneOf [('A', 'Z'), ('a', 'z'), ('0', '9'), ('_', '_')])∗

/-- Texts of characters from a class. -/
theorem mem_kstar_oneOf_iff {ranges : List (Char × Char)} {text : List Char} :
    text ∈ (oneOf ranges)∗ ↔ ∀ c ∈ text, [c] ∈ oneOf ranges := by
  rw [Language.mem_kstar]
  constructor
  · rintro ⟨parts, rfl, hParts⟩ c hMem
    obtain ⟨part, hPart, hIn⟩ := List.mem_flatten.mp hMem
    obtain ⟨d, rfl, hClass⟩ := hParts part hPart
    obtain rfl := List.mem_singleton.mp hIn
    exact ⟨c, rfl, hClass⟩
  · intro hAll
    refine ⟨text.map fun c => [c], ?_, ?_⟩
    · induction text with
      | nil => rfl
      | cons c rest ih =>
          rw [List.map_cons, List.flatten_cons, ← ih (List.forall_mem_cons.mp hAll).2]
          rfl
    · intro part hPart
      obtain ⟨c, hMem, rfl⟩ := List.mem_map.mp hPart
      exact hAll c hMem

theorem singleton_mem_oneOf_iff {ranges : List (Char × Char)} {c : Char} :
    [c] ∈ oneOf ranges ↔ ∃ range ∈ ranges, range.1 ≤ c ∧ c ≤ range.2 := by
  constructor
  · rintro ⟨d, hEq, hClass⟩
    obtain rfl := List.singleton_inj.mp hEq
    exact hClass
  · exact fun hClass => ⟨c, rfl, hClass⟩

/-! ## The two classes -/

theorem isUpper_iff {c : Char} : c.isUpper = true ↔ 'A' ≤ c ∧ c ≤ 'Z' := by
  rw [Char.isUpper, decide_eq_true_eq]
  exact Iff.rfl

theorem isLower_iff {c : Char} : c.isLower = true ↔ 'a' ≤ c ∧ c ≤ 'z' := by
  rw [Char.isLower, Bool.and_eq_true, decide_eq_true_eq, decide_eq_true_eq]
  exact Iff.rfl

theorem isDigit_iff {c : Char} : c.isDigit = true ↔ '0' ≤ c ∧ c ≤ '9' := by
  rw [Char.isDigit, Bool.and_eq_true, decide_eq_true_eq, decide_eq_true_eq]
  exact Iff.rfl

/-- A range from a character to itself. -/
theorem eq_iff_mem_range {c d : Char} : c = d ↔ d ≤ c ∧ c ≤ d :=
  le_antisymm_iff.trans and_comm

theorem isIdentifierStart_iff {c : Char} :
    isIdentifierStart c = true ↔ [c] ∈ oneOf [('A', 'Z'), ('a', 'z'), ('_', '_')] := by
  rw [singleton_mem_oneOf_iff, isIdentifierStart, Char.isAlpha]
  simp only [Bool.or_eq_true, decide_eq_true_eq, isUpper_iff, isLower_iff, eq_iff_mem_range,
    List.exists_mem_cons_iff, List.not_mem_nil, false_and, exists_false, or_false, or_assoc]

theorem isIdentifierPart_iff {c : Char} :
    isIdentifierPart c = true ↔
      [c] ∈ oneOf [('A', 'Z'), ('a', 'z'), ('0', '9'), ('_', '_')] := by
  rw [singleton_mem_oneOf_iff, isIdentifierPart, Char.isAlphanum, Char.isAlpha]
  simp only [Bool.or_eq_true, decide_eq_true_eq, isUpper_iff, isLower_iff, isDigit_iff,
    eq_iff_mem_range, List.exists_mem_cons_iff, List.not_mem_nil, false_and, exists_false,
    or_false, or_assoc]

/-- **A text is a plain identifier if all of it is in the language of identifiers.** -/
theorem isIdentifier_iff {text : String} :
    isIdentifier text = true ↔ text.toList ∈ identifiers := by
  rw [isIdentifier, identifiers, Language.mem_mul]
  constructor
  · intro h
    cases hText : text.toList with
    | nil =>
        rw [hText] at h
        cases h
    | cons c rest =>
        rw [hText, isIdentifierList_cons] at h
        refine ⟨[c], isIdentifierStart_iff.mp h.1, rest, ?_, rfl⟩
        exact mem_kstar_oneOf_iff.mpr fun d hMem => isIdentifierPart_iff.mp (h.2 d hMem)
  · rintro ⟨_, ⟨c, rfl, hClass⟩, rest, hRest, hText⟩
    rw [← hText, List.singleton_append, isIdentifierList_cons]
    exact ⟨isIdentifierStart_iff.mpr ⟨c, rfl, hClass⟩, fun d hMem =>
      isIdentifierPart_iff.mpr (mem_kstar_oneOf_iff.mp hRest d hMem)⟩

end FieldSearch.Text
