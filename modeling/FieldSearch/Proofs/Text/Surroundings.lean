import FieldSearch.Proofs.Text.Matching
import Mathlib

/-!
# Lower case of a text within another

A text that is part of another is not always put into lower case as it is by
itself.  What stands around it decides one thing, whether a capital sigma ends its
word: a cased character before the text can make it end one, and a cased
character behind the text can keep it from that.

`lowerBetween` is the lower case of a text between two others.  A text that comes
out the same wherever it stands is `Settled`.  Two places decide that, since what
stands before a text and what stands behind it work in opposite directions: the
place behind a letter, and the place before one.

## Main results

* `lowerFrom_append`: a text in lower case, cut anywhere.
* `settled_iff`: the two places that decide whether a text is settled.
* `settled_of_not_mem`: without a capital sigma, a text is settled.
* `infix_of_settled`, `exists_of_not_settled`: a settled text is found within every
  text that it is part of, and any other text is missed in one.
-/

namespace FieldSearch.Text

/-! ## Cutting a text -/

/-- The lower case of a text before another one. -/
def lowerBetween (after : List Char) : Bool → List Char → List Char
  | _, [] => []
  | before, c :: rest =>
      lowerAt before c (rest ++ after) ++ lowerBetween after (endsCased before c) rest

theorem lowerBetween_cons (after : List Char) (before : Bool) (c : Char) (rest : List Char) :
    lowerBetween after before (c :: rest) =
      lowerAt before c (rest ++ after) ++ lowerBetween after (endsCased before c) rest := rfl

/-- **A text in lower case, cut anywhere.** -/
theorem lowerFrom_append (before : Bool) (text after : List Char) :
    lowerFrom before (text ++ after) =
      lowerBetween after before text ++ lowerFrom (text.foldl endsCased before) after := by
  induction text generalizing before with
  | nil => rfl
  | cons c rest ih =>
      rw [List.cons_append, lowerFrom_cons, ih, lowerBetween_cons, List.append_assoc,
        List.foldl_cons]

/-- Before nothing, a text is put into lower case as the rest of a text is. -/
theorem lowerBetween_nil (before : Bool) (text : List Char) :
    lowerBetween [] before text = lowerFrom before text := by
  have h := lowerFrom_append before text []
  rw [List.append_nil, lowerFrom_nil, List.append_nil] at h
  exact h.symm

/-! ## What the surroundings decide -/

theorem startsCased_append (text after : List Char) :
    startsCased (text ++ after) =
      (startsCased text || text.all isCaseIgnorable && startsCased after) := by
  induction text with
  | nil => rfl
  | cons c rest ih =>
      rw [List.cons_append, startsCased, startsCased, ih, List.all_cons]
      cases isCaseIgnorable c with
      | true => rfl
      | false => exact (Bool.or_false (isCased c)).symm

/-- Two characters in lower case that come from the same one. -/
inductive Alike : Char → Char → Prop where
  | refl (c : Char) : Alike c c
  | sigma : Alike 'σ' 'ς'
  | final : Alike 'ς' 'σ'

theorem alike_lowerAt (before other : Bool) (c : Char) (after behind : List Char) :
    List.Forall₂ Alike (lowerAt before c after) (lowerAt other c behind) := by
  unfold lowerAt
  by_cases hSigma : c = 'Σ'
  · rw [if_pos hSigma, if_pos hSigma]
    refine .cons ?_ .nil
    cases before && !startsCased after <;> cases other && !startsCased behind <;> constructor
  · rw [if_neg hSigma, if_neg hSigma]
    exact List.forall₂_same.mpr fun d _ => .refl d

/-- **The surroundings of a text decide about its sigmas only.** -/
theorem alike_lowerBetween (after behind : List Char) (text : List Char) :
    ∀ before other, List.Forall₂ Alike (lowerBetween after before text)
      (lowerBetween behind other text) := by
  induction text with
  | nil => exact fun _ _ => .nil
  | cons c rest ih =>
      intro before other
      exact List.rel_append (alike_lowerAt before other c (rest ++ after) (rest ++ behind))
        (ih (endsCased before c) (endsCased other c))

theorem length_lowerAt (before other : Bool) (c : Char) (after behind : List Char) :
    (lowerAt before c after).length = (lowerAt other c behind).length :=
  (alike_lowerAt before other c after behind).length_eq

/-- What cannot be told apart by a reading that tells the two small sigmas apart is the same. -/
theorem eq_of_alike {read : Char → Char} (hRead : read 'σ' ≠ read 'ς') {left right : List Char}
    (hAlike : List.Forall₂ Alike left right) (h : left.map read = right.map read) :
    left = right := by
  induction hAlike with
  | nil => rfl
  | cons hHead _ ih =>
      rw [List.map_cons, List.map_cons] at h
      obtain ⟨hSame, hRest⟩ := List.cons.inj h
      rw [ih hRest]
      cases hHead with
      | refl c => rfl
      | sigma => exact absurd hSame hRead
      | final => exact absurd hSame.symm hRead

/-! ## Settled texts -/

/-- The text is put into lower case in the same way wherever it stands. -/
def Settled (text : List Char) : Prop :=
  ∀ before after, lowerBetween after before text = lowerFrom false text

/-- A letter, which is cased and is not looked through. -/
structure IsLetter (c : Char) : Prop where
  cased : isCased c = true
  solid : isCaseIgnorable c = false

theorem IsLetter.startsCased {c : Char} (h : IsLetter c) (rest : List Char) :
    startsCased (c :: rest) = true := by
  rw [Text.startsCased, if_neg (by simp [h.solid]), h.cased]

/-- A character that comes out the same behind a letter and before one comes out the same
everywhere. -/
theorem lowerAt_eq {low high before : Bool} (hOrder : low ≤ before) (hHigh : before ≤ high)
    {c : Char} {rest after letters : List Char} (hLetters : startsCased letters = true)
    (hBehind : lowerAt high c rest = lowerAt low c rest)
    (hBefore : lowerAt low c (rest ++ letters) = lowerAt low c rest) :
    lowerAt before c (rest ++ after) = lowerAt low c rest := by
  unfold lowerAt at *
  by_cases hSigma : c = 'Σ'
  · simp only [if_pos hSigma, List.cons.injEq, and_true, startsCased_append, hLetters] at *
    revert hBehind hBefore hOrder hHigh
    cases low <;> cases high <;> cases before <;> cases startsCased rest <;>
      cases startsCased after <;> cases rest.all isCaseIgnorable <;> decide
  · simp only [if_neg hSigma]

theorem endsCased_le {low high : Bool} (h : low ≤ high) (c : Char) :
    endsCased low c ≤ endsCased high c := by
  unfold endsCased
  split
  · exact h
  · exact le_rfl

/-- A text that comes out the same behind a letter and before one comes out the same everywhere. -/
theorem lowerBetween_eq {text after letters : List Char} (hLetters : startsCased letters = true) :
    ∀ {low high before : Bool}, low ≤ before → before ≤ high →
      lowerBetween [] high text = lowerBetween [] low text →
      lowerBetween letters low text = lowerBetween [] low text →
      lowerBetween after before text = lowerBetween [] low text := by
  induction text with
  | nil => exact fun _ _ _ _ => rfl
  | cons c rest ih =>
      intro low high before hLow hHigh hBehind hBefore
      simp only [lowerBetween_cons, List.append_nil] at hBehind hBefore ⊢
      obtain ⟨hBehind, hBehinds⟩ := List.append_inj hBehind (length_lowerAt _ _ _ _ _)
      obtain ⟨hBefore, hBefores⟩ := List.append_inj hBefore (length_lowerAt _ _ _ _ _)
      rw [lowerAt_eq hLow hHigh hLetters hBehind hBefore,
        ih (endsCased_le hLow c) (endsCased_le hHigh c) hBehinds hBefores]

/-- **Two places decide whether a text is settled**, that behind a letter and that before one. -/
theorem settled_iff {c : Char} (hLetter : IsLetter c) (text : List Char) :
    Settled text ↔
      lowerFrom true text = lowerFrom false text ∧
        lowerBetween [c] false text = lowerFrom false text := by
  constructor
  · intro h
    exact ⟨(lowerBetween_nil true text).symm.trans (h true []), h false [c]⟩
  · rintro ⟨hBehind, hBefore⟩ before after
    rw [← lowerBetween_nil] at hBehind hBefore ⊢
    rw [← lowerBetween_nil false text] at hBehind
    exact lowerBetween_eq (hLetter.startsCased []) (Bool.false_le before) (Bool.le_true before)
      hBehind hBefore

theorem isLetter_a : IsLetter 'a' := ⟨rfl, rfl⟩

theorem isLetter_b : IsLetter 'b' := ⟨rfl, rfl⟩

instance (text : List Char) : Decidable (Settled text) :=
  decidable_of_iff _ (settled_iff isLetter_a text).symm

/-- **A text without a capital sigma is settled.** -/
theorem settled_of_not_mem {text : List Char} (h : 'Σ' ∉ text) : Settled text := by
  have hAt : ∀ c ∈ text, ∀ before other after behind,
      lowerAt before c after = lowerAt other c behind := by
    intro c hMem before other after behind
    have hSigma : c ≠ 'Σ' := fun hEq => h (hEq ▸ hMem)
    rw [lowerAt, lowerAt, if_neg hSigma, if_neg hSigma]
  intro before after
  rw [← lowerBetween_nil]
  generalize false = other
  induction text generalizing before other with
  | nil => rfl
  | cons c rest ih =>
      rw [lowerBetween_cons, lowerBetween_cons,
        hAt c List.mem_cons_self before other (rest ++ after) (rest ++ []),
        ih (fun hMem => h (List.mem_cons_of_mem _ hMem))
          fun d hd => hAt d (List.mem_cons_of_mem _ hd)]

/-! ## Parts of texts -/

/-- **A settled text is found, in lower case, within every text that it is part of.** -/
theorem infix_of_settled {part text : List Char} (hSettled : Settled part) (h : part <:+: text) :
    lowerFrom false part <:+: lowerFrom false text := by
  obtain ⟨front, back, rfl⟩ := h
  rw [List.append_assoc, lowerFrom_append, lowerFrom_append, hSettled]
  exact ⟨_, _, List.append_assoc _ _ _⟩

theorem not_infix_cons {word other : List Char} {c : Char} (hLength : word.length = other.length)
    (hNe : word ≠ other) (hHead : word.head? ≠ some c) : ¬ word <:+: c :: other := by
  rw [List.infix_cons_iff, List.prefix_cons_iff]
  rintro ((rfl | ⟨rest, rfl, -⟩) | hInfix)
  · exact hNe (List.eq_nil_of_length_eq_zero hLength.symm).symm
  · exact hHead rfl
  · exact hNe (hInfix.eq_of_length hLength)

theorem not_infix_concat {word other : List Char} {c : Char} (hLength : word.length = other.length)
    (hNe : word ≠ other) (hLast : word.getLast? ≠ some c) : ¬ word <:+: other ++ [c] := by
  rw [List.infix_concat_iff, List.suffix_concat_iff]
  rintro ((rfl | ⟨rest, rfl, -⟩) | hInfix)
  · exact hNe (List.eq_nil_of_length_eq_zero hLength.symm).symm
  · exact hLast List.getLast?_concat
  · exact hNe (hInfix.eq_of_length hLength)

/-- The letters that are put around a text. -/
def markers : List Char := ['a', 'b']

theorem lowerFrom_marker {c : Char} (h : c ∈ markers) (before : Bool) (rest : List Char) :
    lowerFrom before (c :: rest) = c :: lowerFrom true rest := by
  rcases List.mem_pair.mp h with rfl | rfl <;> rfl

theorem isLetter_of_mem_markers {c : Char} (h : c ∈ markers) : IsLetter c := by
  rcases List.mem_pair.mp h with rfl | rfl
  · exact isLetter_a
  · exact isLetter_b

/-- Of the two letters there is one that reads as something other than a given character. -/
theorem exists_marker_ne {read : Char → Char} (hRead : read 'a' ≠ read 'b')
    (given : Option Char) : ∃ c ∈ markers, given ≠ some (read c) := by
  by_cases h : given = some (read 'a')
  · refine ⟨'b', by decide, fun hOther => hRead ?_⟩
    exact Option.some.inj (h.symm.trans hOther)
  · exact ⟨'a', by decide, h⟩

/-- **A text that is not settled is missed, in lower case, within a text that it is part of**: the
one behind a letter or the one before a letter. -/
theorem exists_of_not_settled {read : Char → Char} (hSigma : read 'σ' ≠ read 'ς')
    (hLetters : read 'a' ≠ read 'b') {part : List Char} (h : ¬ Settled part) :
    ∃ front back, (∀ c ∈ front ++ back, c ∈ markers) ∧
      ¬ (lowerFrom false part).map read <:+:
        (lowerFrom false (front ++ part ++ back)).map read := by
  obtain ⟨first, hFirst, hHead⟩ :=
    exists_marker_ne hLetters ((lowerFrom false part).map read).head?
  obtain ⟨last, hLast, hEnd⟩ :=
    exists_marker_ne hLetters ((lowerFrom false part).map read).getLast?
  rw [settled_iff (isLetter_of_mem_markers hLast), not_and_or, ← lowerBetween_nil true] at h
  have hAlike : ∀ after before,
      List.Forall₂ Alike (lowerFrom false part) (lowerBetween after before part) := by
    intro after before
    rw [← lowerBetween_nil]
    exact alike_lowerBetween [] after part false before
  have hLength : ∀ after before, ((lowerFrom false part).map read).length =
      ((lowerBetween after before part).map read).length := by
    intro after before
    rw [List.length_map, List.length_map, (hAlike after before).length_eq]
  have hNe : ∀ after before, lowerBetween after before part ≠ lowerFrom false part →
      (lowerFrom false part).map read ≠ (lowerBetween after before part).map read :=
    fun after before hOther hEq => hOther (eq_of_alike hSigma (hAlike after before) hEq).symm
  rcases h with hBehind | hBefore
  · refine ⟨[first], [], List.forall_mem_singleton.mpr hFirst, ?_⟩
    rw [List.append_nil, List.singleton_append, lowerFrom_marker hFirst, ← lowerBetween_nil true,
      List.map_cons]
    exact not_infix_cons (hLength [] true) (hNe [] true hBehind) hHead
  · refine ⟨[], [last], List.forall_mem_singleton.mpr hLast, ?_⟩
    rw [List.nil_append, lowerFrom_append, lowerFrom_marker hLast, lowerFrom_nil, List.map_append]
    exact not_infix_concat (hLength [last] false) (hNe [last] false hBefore) hEnd

end FieldSearch.Text
