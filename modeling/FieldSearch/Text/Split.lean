/-!
# Cutting a text at separators

Three ways of cutting: at every character that satisfies a test, once at the first occurrence of a
given character, and behind a given beginning. Nothing is lost but the separators and the beginning;
only where a NUL ends a text the rest is not looked at.

## Main results

* `splitAll_ne_nil`: there is always at least one piece.
* `splitOnce_eq_some_iff`: the left part of a single cut is the longest one free of the separator,
  and both parts with the separator between them are the text.
* `cut?_eq_some_iff`, `cut?_eq_none_iff`: the same of a string.
* `withoutStart?_eq_some_iff`: beginning and rest together are the text.
-/

namespace FieldSearch.Text

/-- The pieces between the characters that satisfy the test, empty ones included. -/
def splitAll (isSeparator : Char → Bool) : List Char → List (List Char)
  | [] => [[]]
  | c :: rest =>
      if isSeparator c then [] :: splitAll isSeparator rest
      else
        match splitAll isSeparator rest with
        | [] => [[c]]
        | piece :: pieces => (c :: piece) :: pieces

theorem splitAll_ne_nil (isSeparator : Char → Bool) (text : List Char) :
    splitAll isSeparator text ≠ [] := by
  cases text with
  | nil => simp [splitAll]
  | cons c rest =>
      simp only [splitAll]
      split
      · simp
      · split <;> simp

/-- What stands before and after the first occurrence of a character, if there is one. -/
def splitOnce (separator : Char) : List Char → Option (List Char × List Char)
  | [] => none
  | c :: rest =>
      if c = separator then some ([], rest)
      else (splitOnce separator rest).map fun (left, right) => (c :: left, right)

theorem splitOnce_eq_some_iff {separator : Char} {text left right : List Char} :
    splitOnce separator text = some (left, right) ↔
      text = left ++ separator :: right ∧ separator ∉ left := by
  induction text generalizing left with
  | nil => simp [splitOnce]
  | cons c rest ih =>
      by_cases h : c = separator
      · subst h
        constructor
        · intro hSplit
          simp only [splitOnce, if_true, Option.some.injEq, Prod.mk.injEq] at hSplit
          obtain ⟨rfl, rfl⟩ := hSplit
          simp
        · rintro ⟨hText, hLeft⟩
          cases left with
          | nil => simp_all [splitOnce]
          | cons d left => simp_all
      · simp only [splitOnce, if_neg h, Option.map_eq_some_iff, Prod.exists, Prod.mk.injEq]
        constructor
        · rintro ⟨tail, _, hTail, rfl, rfl⟩
          obtain ⟨rfl, hMem⟩ := ih.mp hTail
          exact ⟨rfl, by simp [hMem, Ne.symm h]⟩
        · rintro ⟨hText, hLeft⟩
          cases left with
          | nil => simp_all
          | cons d left =>
              simp only [List.cons_append, List.cons.injEq] at hText
              obtain ⟨rfl, hRest⟩ := hText
              simp only [List.mem_cons, not_or] at hLeft
              exact ⟨left, right, ih.mpr ⟨hRest, hLeft.2⟩, rfl, rfl⟩

theorem splitOnce_eq_none_iff {separator : Char} {text : List Char} :
    splitOnce separator text = none ↔ separator ∉ text := by
  induction text with
  | nil => simp [splitOnce]
  | cons c rest ih =>
      by_cases h : c = separator
      · simp [splitOnce, h]
      · simp [splitOnce, h, ih, Ne.symm h]

/-- What follows a given beginning, if the text has it. -/
def withoutStart? : List Char → List Char → Option (List Char)
  | [], text => some text
  | _ :: _, [] => none
  | c :: start, d :: text => if c = d then withoutStart? start text else none

theorem withoutStart?_eq_some_iff {start text rest : List Char} :
    withoutStart? start text = some rest ↔ text = start ++ rest := by
  induction start generalizing text with
  | nil => simp [withoutStart?, eq_comm]
  | cons c start ih =>
      cases text with
      | nil => simp [withoutStart?]
      | cons d text =>
          by_cases h : c = d
          · simp [withoutStart?, h, ih]
          · simp [withoutStart?, h, Ne.symm h]

/-- The characters before the first NUL. -/
def untilNul (text : String) : List Char := text.toList.takeWhile (·.toNat ≠ 0)

/-- A single cut of a string. -/
def cut? (text : String) (separator : Char) : Option (String × String) :=
  (splitOnce separator text.toList).map fun (left, right) =>
    (String.ofList left, String.ofList right)

theorem cut?_eq_some_iff {text left right : String} {separator : Char} :
    cut? text separator = some (left, right) ↔
      text.toList = left.toList ++ separator :: right.toList ∧ separator ∉ left.toList := by
  rw [cut?, ← splitOnce_eq_some_iff, Option.map_eq_some_iff]
  constructor
  · rintro ⟨⟨front, back⟩, hSplit, hEq⟩
    obtain ⟨rfl, rfl⟩ := Prod.mk.inj hEq
    rwa [String.toList_ofList, String.toList_ofList]
  · intro hSplit
    exact ⟨_, hSplit, by simp⟩

theorem cut?_eq_none_iff {text : String} {separator : Char} :
    cut? text separator = none ↔ separator ∉ text.toList := by
  rw [cut?, Option.map_eq_none_iff, splitOnce_eq_none_iff]

/-- A line without the carriage return at its end. -/
def withoutReturn (line : List Char) : List Char :=
  if line.getLast? = some '\r' then line.dropLast else line

/-- The lines of a text. A line feed, or a carriage return and a line feed, ends a line, and at the
end of the text it opens no further one. -/
def lines (text : String) : List String :=
  let pieces := splitAll (· = '\n') text.toList
  let rest := pieces.getLast?.toList.filter (!·.isEmpty)
  (pieces.dropLast.map withoutReturn ++ rest).map String.ofList

end FieldSearch.Text
