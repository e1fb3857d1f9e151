import FieldSearch.Text.Like
import Mathlib

/-!
# What lower case leaves alone

Lower-casing writes two kinds of characters: those that it was given, and small
letters, none of which lies below the small letters of the ASCII range.  It never
writes a capital letter of that range, so folding the case of ASCII letters
afterwards changes nothing.

The special characters of patterns are neither cased nor looked through.  They
stay what they are, and for a sigma that stands beside one of them its word ends
there, as it does at the end of the text.

## Main results

* `mem_lowerFrom`: a character of the result was there before or is a small
  letter.
* `foldAscii_of_mem_lowerFrom`: no capital letter of the ASCII range is left.
* `lowerFrom_escapeList`: lower-casing an escaped text is escaping the text in
  lower case.
-/

namespace FieldSearch.Text

/-! ## Single characters -/

/-- The lower case of every character of the run is a character, and lies beyond the capital letters
of the ASCII range. -/
def CaseRun.Sound (run : CaseRun) : Prop :=
  0x61 ≤ run.first + run.offset ∧
    (run.last + run.offset < 0xd800 ∨
      0xdfff < run.first + run.offset ∧ run.last + run.offset < 0x110000)

instance (run : CaseRun) : Decidable run.Sound := by
  unfold CaseRun.Sound
  infer_instance

theorem sound_of_mem_lowerRuns : ∀ run ∈ lowerRuns, run.Sound := by decide +kernel

theorem mem_of_findRun {runs : List CaseRun} {point : Nat} {run : CaseRun}
    (h : findRun runs point = some run) : run ∈ runs ∧ run.covers point = true := by
  induction runs with
  | nil => cases h
  | cons first rest ih =>
      rw [findRun] at h
      split at h
      · cases h
      · split at h
        next hCovers =>
          obtain rfl := Option.some.inj h
          exact ⟨List.mem_cons_self, hCovers⟩
        next => exact ⟨List.mem_cons_of_mem _ (ih h).1, (ih h).2⟩

/-- A character of a run is between its ends, and is moved by its offset. -/
theorem toNat_lowerChar_of_findRun {c : Char} {run : CaseRun}
    (h : findRun lowerRuns c.toNat = some run) :
    run.first ≤ c.toNat ∧ c.toNat ≤ run.last ∧
      ((lowerChar c).toNat : Int) = c.toNat + run.offset := by
  obtain ⟨hMem, hCovers⟩ := mem_of_findRun h
  obtain ⟨hLow, hCode⟩ := sound_of_mem_lowerRuns run hMem
  simp only [CaseRun.covers, Bool.and_eq_true, decide_eq_true_eq] at hCovers
  obtain ⟨⟨hFirst, hLast⟩, -⟩ := hCovers
  have hValid : (c.toNat + run.offset).toNat.isValidChar := by
    unfold Nat.isValidChar
    omega
  have hLower : (lowerChar c).toNat = (c.toNat + run.offset).toNat := by
    rw [lowerChar, h]
    exact (Char.toNat_ofNat _).trans (if_pos hValid)
  refine ⟨hFirst, hLast, ?_⟩
  omega

/-- A character is its own lower case unless a run covers it, and then the lower case is a small
letter. -/
theorem lowerChar_eq_or (c : Char) : lowerChar c = c ∨ 0x61 ≤ (lowerChar c).toNat := by
  cases hRun : findRun lowerRuns c.toNat with
  | none =>
      rw [lowerChar, hRun]
      exact .inl rfl
  | some run =>
      obtain ⟨hLow, -⟩ := sound_of_mem_lowerRuns run (mem_of_findRun hRun).1
      obtain ⟨hFirst, -, hLower⟩ := toNat_lowerChar_of_findRun hRun
      right
      omega

/-- Whether a character is a capital letter of the ASCII range. -/
def IsCapital (c : Char) : Prop := 0x41 ≤ c.toNat ∧ c.toNat ≤ 0x5a

theorem lowerChar_ne_of_isCapital {c : Char} (h : IsCapital c) : lowerChar c ≠ c := by
  obtain ⟨hFirst, hLast⟩ := h
  have hCovers : CaseRun.covers ⟨0x41, 0x5a, 1, 32⟩ c.toNat = true := by
    simp [CaseRun.covers, hFirst, hLast, Nat.mod_one]
  have hRun : findRun lowerRuns c.toNat = some ⟨0x41, 0x5a, 1, 32⟩ := by
    rw [lowerRuns, findRun, if_neg (Nat.not_lt.mpr hFirst), if_pos hCovers]
  obtain ⟨-, -, hLower⟩ := toNat_lowerChar_of_findRun hRun
  dsimp only at hLower
  intro hEq
  rw [hEq] at hLower
  omega

theorem not_isCapital_lowerChar (c : Char) : ¬ IsCapital (lowerChar c) := by
  intro hCapital
  rcases lowerChar_eq_or c with hSame | hSmall
  · exact lowerChar_ne_of_isCapital (hSame ▸ hCapital) hSame
  · have hLast := hCapital.2
    omega

theorem foldAscii_of_not_isCapital {c : Char} (h : ¬ IsCapital c) : foldAscii c = c := by
  refine if_neg fun hBounds => h ?_
  simp only [Char.le_def, UInt32.le_iff_toNat_le] at hBounds
  exact hBounds

/-! ## Texts -/

theorem mem_lowerAt {before : Bool} {c d : Char} {after : List Char}
    (h : d ∈ lowerAt before c after) : (d = c ∨ 0x61 ≤ d.toNat) ∧ ¬ IsCapital d := by
  unfold lowerAt at h
  split at h
  · obtain rfl := List.mem_singleton.mp h
    split <;> simp [IsCapital]
  · split at h
    · rcases List.mem_pair.mp h with rfl | rfl <;> simp [IsCapital]
    · obtain rfl := List.mem_singleton.mp h
      exact ⟨lowerChar_eq_or c, not_isCapital_lowerChar c⟩

theorem exists_of_mem_lowerFrom {before : Bool} {text : List Char} {d : Char}
    (h : d ∈ lowerFrom before text) :
    ∃ state, ∃ c ∈ text, ∃ after, d ∈ lowerAt state c after := by
  induction text generalizing before with
  | nil => cases h
  | cons c rest ih =>
      rw [lowerFrom_cons] at h
      rcases List.mem_append.mp h with hHead | hRest
      · exact ⟨before, c, List.mem_cons_self, rest, hHead⟩
      · obtain ⟨state, other, hMem, after, hOther⟩ := ih hRest
        exact ⟨state, other, List.mem_cons_of_mem _ hMem, after, hOther⟩

/-- **A character of a text in lower case was there before or is a small letter.** -/
theorem mem_lowerFrom {before : Bool} {text : List Char} {d : Char}
    (h : d ∈ lowerFrom before text) : d ∈ text ∨ 0x61 ≤ d.toNat := by
  obtain ⟨state, c, hMem, after, hHead⟩ := exists_of_mem_lowerFrom h
  rcases (mem_lowerAt hHead).1 with rfl | hSmall
  · exact .inl hMem
  · exact .inr hSmall

theorem foldAscii_of_mem_lowerFrom {before : Bool} {text : List Char} {d : Char}
    (h : d ∈ lowerFrom before text) : foldAscii d = d := by
  obtain ⟨_, _, _, _, hHead⟩ := exists_of_mem_lowerFrom h
  exact foldAscii_of_not_isCapital (mem_lowerAt hHead).2

/-! ## Patterns -/

namespace Like

/-- A special character is not cased, is not looked through, and is its own lower case. -/
theorem neutral_of_isSpecial {c : Char} (h : isSpecial c = true) (before : Bool)
    (after : List Char) :
    lowerAt before c after = [c] ∧ endsCased before c = false ∧
      startsCased (c :: after) = false := by
  simp only [isSpecial, Bool.or_eq_true, decide_eq_true_eq] at h
  rcases h with (rfl | rfl) | rfl <;> exact ⟨rfl, rfl, rfl⟩

theorem isSpecial_backslash : isSpecial '\\' = true := rfl

theorem isSpecial_percent : isSpecial '%' = true := rfl

theorem not_isSpecial_of_mem_lowerAt {before : Bool} {c d : Char} {after : List Char}
    (hc : ¬ isSpecial c = true) (h : d ∈ lowerAt before c after) : ¬ isSpecial d = true := by
  rcases (mem_lowerAt h).1 with rfl | hSmall
  · exact hc
  · intro hSpecial
    simp only [isSpecial, Bool.or_eq_true, decide_eq_true_eq] at hSpecial
    rcases hSpecial with (rfl | rfl) | rfl <;> simp at hSmall

theorem escapeList_append (left right : List Char) :
    escapeList (left ++ right) = escapeList left ++ escapeList right := by
  induction left with
  | nil => rfl
  | cons c left ih =>
      by_cases hc : isSpecial c = true
      · simp only [List.cons_append, escapeList, if_pos hc, ih]
      · simp only [List.cons_append, escapeList, if_neg hc, ih]

theorem escapeList_of_forall {text : List Char} (h : ∀ c ∈ text, ¬ isSpecial c = true) :
    escapeList text = text := by
  induction text with
  | nil => rfl
  | cons c text ih =>
      rw [escapeList, if_neg (h c List.mem_cons_self),
        ih fun d hd => h d (List.mem_cons_of_mem _ hd)]

/-- An escape ends a word where the character that it escapes does. -/
theorem startsCased_escapeList (text : List Char) :
    startsCased (escapeList text ++ ['%']) = startsCased text := by
  induction text with
  | nil => rfl
  | cons c text ih =>
      by_cases hc : isSpecial c = true
      · rw [escapeList, if_pos hc, List.cons_append,
          (neutral_of_isSpecial isSpecial_backslash false _).2.2,
          (neutral_of_isSpecial hc false text).2.2]
      · rw [escapeList, if_neg hc, List.cons_append, startsCased, startsCased, ih]

/-- **Lower-casing an escaped text is escaping the text in lower case.** -/
theorem lowerFrom_escapeList (before : Bool) (text : List Char) :
    lowerFrom before (escapeList text ++ ['%']) = escapeList (lowerFrom before text) ++ ['%'] := by
  induction text generalizing before with
  | nil => rfl
  | cons c text ih =>
      by_cases hc : isSpecial c = true
      · obtain ⟨hBackslash, hAfter, -⟩ :=
          neutral_of_isSpecial isSpecial_backslash before (c :: (escapeList text ++ ['%']))
        obtain ⟨hHead, hNext, -⟩ := neutral_of_isSpecial hc false (escapeList text ++ ['%'])
        obtain ⟨hLower, hEnds, -⟩ := neutral_of_isSpecial hc before text
        rw [escapeList, if_pos hc, List.cons_append, List.cons_append, lowerFrom_cons, hBackslash,
          hAfter, lowerFrom_cons, hHead, hNext, ih, lowerFrom_cons before c text, hLower, hEnds,
          List.singleton_append, List.singleton_append, List.singleton_append, escapeList,
          if_pos hc]
        rfl
      · have hAt : lowerAt before c (escapeList text ++ ['%']) = lowerAt before c text := by
          simp only [lowerAt, startsCased_escapeList]
        rw [escapeList, if_neg hc, List.cons_append, lowerFrom_cons, ih, hAt, lowerFrom_cons,
          escapeList_append, List.append_assoc,
          escapeList_of_forall fun d hd => not_isSpecial_of_mem_lowerAt hc hd]

/-- The pattern for the texts that contain a term, in lower case. -/
theorem toList_lowercase_containing (term : String) :
    (lowercase (containing term)).toList =
      '%' :: (escapeList (lowerFrom false term.toList) ++ ['%']) := by
  have hPattern : (containing term).toList = '%' :: (escapeList term.toList ++ ['%']) := by
    simp [containing, escape]
  obtain ⟨hHead, hNext, -⟩ :=
    neutral_of_isSpecial isSpecial_percent false (escapeList term.toList ++ ['%'])
  rw [toList_lowercase, hPattern, lowerFrom_cons, hHead, hNext, lowerFrom_escapeList]
  rfl

end Like
end FieldSearch.Text
