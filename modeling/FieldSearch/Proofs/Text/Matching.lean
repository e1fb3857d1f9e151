import FieldSearch.Database.Cell
import FieldSearch.Proofs.Pairs
import FieldSearch.Proofs.Text.Lowercase
import Mathlib

/-!
# What a match finds

The pattern of a term has a run before and behind the escaped term, so it admits
the texts in which the characters of the term stand one after the other.  Both
sides are in lower case when they are compared, and what the comparison adds to
that is only that it reads two noncharacters as the replacement character.

A text is compared up to its first NUL.  Lower-casing writes none, so nothing is
cut off where neither the text nor the term has one.

## Main results

* `admits_containing`: a pattern with a run on both sides finds a word anywhere.
* `matchesPattern?_text`: a text matches the pattern of a term if the term occurs
  in it, both in lower case.
-/

namespace FieldSearch

namespace Text.Like

variable {same : Char → Char → Bool}

theorem admits_run_nil {pattern : List Token} :
    admits same (.run :: pattern) [] = admits same pattern [] := by
  rw [admits.eq_def]

theorem admits_run_cons {pattern : List Token} {c : Char} {text : List Char} :
    admits same (.run :: pattern) (c :: text) =
      (admits same pattern (c :: text) || admits same (.run :: pattern) text) := by
  rw [admits.eq_def]

/-- A run stands for any beginning of the text. -/
theorem admits_run_iff {pattern : List Token} {text : List Char} :
    admits same (.run :: pattern) text = true ↔
      ∃ before after, text = before ++ after ∧ admits same pattern after = true := by
  induction text with
  | nil =>
      rw [admits_run_nil]
      constructor
      · intro h
        exact ⟨[], [], rfl, h⟩
      · rintro ⟨before, after, hText, h⟩
        obtain ⟨-, rfl⟩ := List.append_eq_nil_iff.mp hText.symm
        exact h
  | cons c text ih =>
      rw [admits_run_cons, Bool.or_eq_true, ih]
      constructor
      · rintro (h | ⟨before, after, rfl, h⟩)
        · exact ⟨[], c :: text, rfl, h⟩
        · exact ⟨c :: before, after, rfl, h⟩
      · rintro ⟨before, after, hText, h⟩
        cases before with
        | nil =>
            obtain rfl : c :: text = after := hText
            exact .inl h
        | cons d before =>
            obtain ⟨-, rfl⟩ := List.cons.inj hText
            exact .inr ⟨before, after, rfl, h⟩

/-- Literals stand for as many characters, each the same as the literal. -/
theorem admits_literals_iff {word : List Char} {pattern : List Token} {text : List Char} :
    admits same (word.map .literal ++ pattern) text = true ↔
      ∃ middle after, text = middle ++ after ∧
        List.Forall₂ (fun c d => same c d = true) word middle ∧
        admits same pattern after = true := by
  induction word generalizing text with
  | nil =>
      constructor
      · intro h
        exact ⟨[], text, rfl, .nil, h⟩
      · rintro ⟨middle, after, rfl, hSame, h⟩
        cases hSame
        exact h
  | cons c word ih =>
      cases text with
      | nil =>
          refine iff_of_false (by simp [admits]) ?_
          rintro ⟨middle, after, hText, hSame, -⟩
          cases hSame
          cases hText
      | cons d text =>
          have hStep : admits same ((c :: word).map .literal ++ pattern) (d :: text) =
              (same c d && admits same (word.map .literal ++ pattern) text) := by
            rw [List.map_cons, List.cons_append, admits]
          rw [hStep, Bool.and_eq_true, ih]
          constructor
          · rintro ⟨hFirst, middle, after, rfl, hSame, h⟩
            exact ⟨d :: middle, after, rfl, .cons hFirst hSame, h⟩
          · rintro ⟨middle, after, hText, hSame, h⟩
            cases hSame with
            | cons hFirst hRest =>
                obtain ⟨rfl, rfl⟩ := List.cons.inj hText
                exact ⟨hFirst, _, after, rfl, hRest, h⟩

theorem admits_run_all (text : List Char) : admits same [.run] text = true := by
  rw [admits_run_iff]
  exact ⟨text, [], (List.append_nil text).symm, by rw [admits]; rfl⟩

/-- **A pattern with a run on both sides finds a word anywhere in a text**, where characters are the
same if they are read as the same. -/
theorem admits_containing {read : Char → Char} {word text : List Char}
    (hRead : ∀ c ∈ word, ∀ d ∈ text, same c d = true ↔ read c = read d) :
    admits same (.run :: (word.map .literal ++ [.run])) text = true ↔
      word.map read <:+: text.map read := by
  rw [admits_run_iff]
  constructor
  · rintro ⟨before, rest, rfl, hRest⟩
    obtain ⟨middle, after, rfl, hSame, -⟩ := admits_literals_iff.mp hRest
    have hEach : List.Forall₂ (fun c d => read c = read d) word middle := by
      exact forall₂_imp_of_mem hSame fun c hc d hd h => (hRead c hc d (by simp [hd])).mp h
    have hEq : word.map read = middle.map read := by
      rw [← List.forall₂_eq_eq_eq, List.forall₂_map_left_iff, List.forall₂_map_right_iff]
      exact hEach
    refine ⟨before.map read, after.map read, ?_⟩
    rw [hEq, List.map_append, List.map_append, List.append_assoc]
  · rintro ⟨before, after, hText⟩
    obtain ⟨front, rest, hFront, rfl, hRest⟩ :=
      List.map_eq_append_iff.mp (hText.symm.trans (List.append_assoc _ _ _))
    obtain ⟨middle, back, hBack, hMiddle, rfl⟩ := List.map_eq_append_iff.mp hRest
    subst hFront hBack
    refine ⟨front, middle ++ back, rfl,
      admits_literals_iff.mpr ⟨middle, back, rfl, ?_, admits_run_all back⟩⟩
    have hEach : List.Forall₂ (fun c d => read c = read d) word middle := by
      have hEq := hMiddle.symm
      rw [← List.forall₂_eq_eq_eq, List.forall₂_map_left_iff, List.forall₂_map_right_iff] at hEq
      exact hEq
    exact forall₂_imp_of_mem hEach fun c hc d hd h => (hRead c hc d (by simp [hd])).mpr h

/-- A pattern with a run behind it finds the word with which a text begins. -/
theorem admits_beginning {word text : List Char} :
    admits (· == ·) (word.map .literal ++ [.run]) text = true ↔ word <+: text := by
  rw [admits_literals_iff]
  simp only [beq_iff_eq, List.forall₂_eq_eq_eq]
  constructor
  · rintro ⟨middle, after, hText, rfl, -⟩
    exact ⟨after, hText.symm⟩
  · rintro ⟨after, hText⟩
    exact ⟨_, after, hText.symm, rfl, admits_run_all after⟩

/-- The tokens of the pattern for the texts that contain a term, in lower case. -/
theorem tokens_lowercase_containing (term : String) :
    tokens (lowercase (containing term)).toList =
      some (.run :: ((lowerFrom false term.toList).map .literal ++ [.run])) := by
  have hEnd : tokens ['%'] = some [.run] := rfl
  rw [toList_lowercase_containing, tokens, tokens_escapeList_append, hEnd]
  rfl

end Text.Like

/-! ## Texts without NUL -/

/-- The text has no NUL. -/
def Text.NulFree (text : String) : Prop := ∀ c ∈ text.toList, c.toNat ≠ 0

theorem Text.untilNul_lowercase {text : String} (h : NulFree text) :
    untilNul (lowercase text) = lowerFrom false text.toList := by
  rw [untilNul, toList_lowercase, List.takeWhile_eq_self_iff]
  intro c hc
  rcases mem_lowerFrom hc with hMem | hSmall
  · simpa using h c hMem
  · simp
    omega

theorem Text.Like.mem_escapeList {text : List Char} {c : Char} (h : c ∈ escapeList text) :
    c ∈ text ∨ c = '\\' := by
  induction text with
  | nil => cases h
  | cons d text ih =>
      rw [escapeList] at h
      split at h <;> grind

theorem Text.nulFree_containing {term : String} (h : NulFree term) :
    NulFree (Like.containing term) := by
  intro c hc
  simp only [Like.containing, Like.escape, String.toList_append, String.toList_ofList,
    List.mem_append] at hc
  rcases hc with (hc | hc) | hc
  · obtain rfl := List.mem_singleton.mp hc
    decide
  · rcases Like.mem_escapeList hc with hMem | rfl
    · exact h c hMem
    · decide
  · obtain rfl := List.mem_singleton.mp hc
    decide

namespace Database.Cell

/-! ## Matching a cell -/

/-- Characters in lower case are compared as matching reads them: there is no case left to fold. -/
theorem sameChar_iff {c d : Char} (hc : Text.foldAscii c = c) (hd : Text.foldAscii d = d) :
    sameChar c d = true ↔ readChar c = readChar d := by
  have hFold : ∀ e : Char, Text.foldAscii e = e → Text.foldAscii (readChar e) = readChar e := by
    intro e he
    unfold readChar
    split
    · decide
    · exact he
  rw [sameChar, beq_iff_eq, hFold c hc, hFold d hd]

/-- A term occurs in a text, both in lower case and as matching reads them. -/
def Occurs (term text : String) : Prop :=
  (Text.lowercase term).toList.map readChar <:+: (Text.lowercase text).toList.map readChar

instance (term text : String) : Decidable (Occurs term text) := by
  unfold Occurs
  infer_instance

/-- A pattern that is not too long is no fault, whatever it is matched with. -/
theorem matchesPattern?_of_short (cell : Cell) {pattern : String}
    (hShort : (Text.lowercase pattern).utf8ByteSize ≤ maxPatternBytes) :
    cell.matchesPattern? pattern = some (cell.caseFolded.map fun text =>
      Text.Like.matchesWith sameChar (Text.untilNul (Text.lowercase pattern))
        (Text.untilNul text)) := by
  rw [matchesPattern?, if_neg (Nat.not_lt.mpr hShort)]

/-- **A text matches the pattern of a term if the term occurs in it**, the pattern being short
enough. -/
theorem matchesPattern?_text {term text : String} (hTerm : Text.NulFree term)
    (hText : Text.NulFree text)
    (hShort : (Text.lowercase (Text.Like.containing term)).utf8ByteSize ≤ maxPatternBytes) :
    ∃ found, (Cell.text text).matchesPattern? (Text.Like.containing term) = some (some found) ∧
      (found = true ↔ Occurs term text) := by
  refine ⟨_, matchesPattern?_of_short _ hShort, ?_⟩
  have hPattern : Text.untilNul (Text.lowercase (Text.Like.containing term)) =
      (Text.lowercase (Text.Like.containing term)).toList := by
    rw [Text.untilNul_lowercase (Text.nulFree_containing hTerm), Text.toList_lowercase]
  dsimp only
  rw [hPattern, Text.untilNul_lowercase hText, Occurs, Text.toList_lowercase term,
    Text.toList_lowercase text]
  unfold Text.Like.matchesWith
  rw [Text.Like.tokens_lowercase_containing]
  exact Text.Like.admits_containing fun c hc d hd =>
    sameChar_iff (Text.foldAscii_of_mem_lowerFrom hc) (Text.foldAscii_of_mem_lowerFrom hd)

end Database.Cell
end FieldSearch
