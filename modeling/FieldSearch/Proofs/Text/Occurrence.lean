import FieldSearch.Proofs.Text.Matching
import Mathlib

/-!
# Beginnings and first occurrences

A database that ignores case looks at a pattern and at a text with their characters in
lower case.  An escaped term is still the escaped term after that, since lower-casing
leaves the characters alone that mean something in a pattern and makes no new ones.  So the
pattern for the texts that begin with a term matches those that do, and no others, whatever
wildcards the term has in it.

A text begins with a word if the word occurs in it first of all.

## Main results

* `matchesWith_beginningWith`: what the pattern for a beginning matches.
* `positionIn_eq_succ_iff`, `positionIn_eq_zero_iff`: the first occurrence of a word.
* `positionIn_of_prefix`: the word with which a text begins.
-/

namespace FieldSearch.Text

/-! ## First occurrences -/

/-- Where a word first occurs in a text, counted from one, or zero if it does not. -/
def positionIn (word text : List Char) : Nat :=
  match text.tails.findIdx? word.isPrefixOf with
  | some index => index + 1
  | none => 0

/-- A word occurs in a text at a place if it is there behind as many characters. -/
theorem isPrefixOf_tails_iff {word text : List Char} {index : Nat} :
    (∃ h : index < text.tails.length, word.isPrefixOf text.tails[index] = true) ↔
      ∃ before after, text = before ++ word ++ after ∧ before.length = index := by
  constructor
  · rintro ⟨hIndex, hPrefix⟩
    rw [List.getElem_tails, List.isPrefixOf_iff_prefix] at hPrefix
    obtain ⟨after, hAfter⟩ := hPrefix
    have hLength : index ≤ text.length := by
      rw [List.length_tails] at hIndex
      omega
    refine ⟨text.take index, after, ?_, by rw [List.length_take]; omega⟩
    rw [List.append_assoc, hAfter, List.take_append_drop]
  · rintro ⟨before, after, rfl, rfl⟩
    refine ⟨by simp [List.length_tails]; omega, ?_⟩
    rw [List.getElem_tails, List.isPrefixOf_iff_prefix, List.append_assoc, List.drop_left]
    exact List.prefix_append word after

/-- **A position is the first one** at which the word occurs. -/
theorem positionIn_eq_succ_iff {word text : List Char} {index : Nat} :
    positionIn word text = index + 1 ↔
      IsLeast {place | ∃ before after, text = before ++ word ++ after ∧ before.length = place}
        index := by
  have hFound : positionIn word text = index + 1 ↔
      text.tails.findIdx? word.isPrefixOf = some index := by
    rw [positionIn]
    cases text.tails.findIdx? word.isPrefixOf with
    | none => exact iff_of_false (Nat.succ_ne_zero index).symm (Option.some_ne_none index).symm
    | some found => rw [Option.some_inj, Nat.add_right_cancel_iff]
  rw [hFound, List.findIdx?_eq_some_iff_getElem]
  constructor
  · rintro ⟨hIndex, hPrefix, hFirst⟩
    refine ⟨isPrefixOf_tails_iff.mp ⟨hIndex, hPrefix⟩, fun place hPlace => ?_⟩
    obtain ⟨_, hThere⟩ := isPrefixOf_tails_iff.mpr hPlace
    by_contra hEarlier
    exact hFirst place (Nat.lt_of_not_le hEarlier) hThere
  · rintro ⟨hIndex, hLeast⟩
    obtain ⟨hLength, hPrefix⟩ := isPrefixOf_tails_iff.mpr hIndex
    refine ⟨hLength, hPrefix, fun place hEarlier hPlace => ?_⟩
    exact Nat.not_le_of_lt hEarlier (hLeast (isPrefixOf_tails_iff.mp ⟨_, hPlace⟩))

theorem positionIn_eq_zero_iff {word text : List Char} :
    positionIn word text = 0 ↔ ¬ word <:+: text := by
  have hFound : positionIn word text = 0 ↔ text.tails.findIdx? word.isPrefixOf = none := by
    rw [positionIn]
    cases text.tails.findIdx? word.isPrefixOf with
    | none => exact iff_of_true rfl rfl
    | some found => exact iff_of_false (Nat.succ_ne_zero found) (Option.some_ne_none found)
  rw [hFound, List.findIdx?_eq_none_iff, List.infix_iff_prefix_suffix]
  simp only [List.mem_tails, Bool.eq_false_iff, Ne, List.isPrefixOf_iff_prefix, not_exists,
    not_and]
  exact forall_congr' fun rest => imp_not_comm

/-- **A word with which a text begins** occurs there first. -/
theorem positionIn_of_prefix {word text : List Char} (h : word <+: text) :
    positionIn word text = 1 := by
  obtain ⟨after, rfl⟩ := h
  refine positionIn_eq_succ_iff.mpr ⟨⟨[], after, rfl, rfl⟩, fun place _ => Nat.zero_le place⟩

/-! ## Lower case -/

/-- A way of lower-casing texts character by character.  It leaves the characters alone that mean
something in a pattern, and makes no others into them. -/
structure CaseMap where
  lower : Char → Char
  keeps : ∀ c, Like.isSpecial c = true → lower c = c
  spares : ∀ c, Like.isSpecial (lower c) = true → Like.isSpecial c = true

namespace CaseMap

/-- Single characters in lower case, whatever stands beside them. -/
def single : CaseMap where
  lower := lowerChar
  keeps c hSpecial := by
    simp only [Like.isSpecial, Bool.or_eq_true, decide_eq_true_eq] at hSpecial
    rcases hSpecial with (rfl | rfl) | rfl <;> decide
  spares c hSpecial := by
    rcases lowerChar_eq_or c with hSame | hSmall
    · rwa [hSame] at hSpecial
    · simp only [Like.isSpecial, Bool.or_eq_true, decide_eq_true_eq] at hSpecial
      rcases hSpecial with (hEq | hEq) | hEq <;> rw [hEq] at hSmall <;> exact absurd hSmall (by decide)

variable (case : CaseMap)

/-- A text in lower case. -/
def lowered (text : String) : List Char := text.toList.map case.lower

theorem isSpecial_lower (c : Char) : Like.isSpecial (case.lower c) = Like.isSpecial c := by
  rw [Bool.eq_iff_iff]
  refine ⟨case.spares c, fun h => ?_⟩
  rw [case.keeps c h]
  exact h

/-- Escaping and lower-casing do not get into each other's way. -/
theorem map_escapeList (text : List Char) :
    (Like.escapeList text).map case.lower = Like.escapeList (text.map case.lower) := by
  have hBackslash : case.lower '\\' = '\\' := case.keeps _ rfl
  induction text with
  | nil => rfl
  | cons c text ih =>
      rw [List.map_cons, Like.escapeList, Like.escapeList, isSpecial_lower]
      split
      · rw [List.map_cons, List.map_cons, hBackslash, ih]
      · rw [List.map_cons, ih]

theorem lowered_beginningWith (term : String) :
    case.lowered (Like.beginningWith term) = Like.escapeList (case.lowered term) ++ ['%'] := by
  have hPercent : case.lower '%' = '%' := case.keeps _ rfl
  have hRun : "%".toList = ['%'] := rfl
  rw [lowered, Like.beginningWith, Like.escape, String.toList_append, String.toList_ofList,
    List.map_append, map_escapeList, hRun, List.map_singleton, hPercent]
  rfl

/-- **The pattern for a beginning** matches the texts that begin with the term, both in lower case,
and no others. -/
theorem matchesWith_beginningWith (term text : String) :
    Like.matchesWith (· == ·) (case.lowered (Like.beginningWith term)) (case.lowered text) = true ↔
      case.lowered term <+: case.lowered text := by
  have hRun : Like.tokens ['%'] = some [.run] := rfl
  rw [lowered_beginningWith, Like.matchesWith, Like.tokens_escapeList_append, hRun, Option.map_some]
  exact Like.admits_beginning

end CaseMap
end FieldSearch.Text
