import FieldSearch.Proofs.Text.Matching
import Mathlib

/-!
# Patterns

Matching first cuts a pattern into tokens and then goes along the text, stepping back where
a run took too little.  What it is meant to find out is said here without all that, by one
rule for each sign of a pattern: `Matches`.  A pattern that ends in a backslash with
nothing behind it is the form of no text, as there is no rule for it.

Escaping puts a backslash before each special character.  Such a pattern never ends in a
backslash that has nothing to escape, however many backslashes the term itself ends in, and
without its backslashes it is the term again.  So the pattern of a term has the form of the
term and of nothing else, and with runs around it that of the texts that hold the term.

## Main results

* `matchesWith_iff`: matching finds out whether a text has the form of a pattern.
* `unescape?_eq_none_iff`: the escapes can be taken out of a pattern unless the last of them
  is open.
* `escaped_terms_are_literal`: what the patterns of a term match, and what is left of an
  escaped term without its escapes.
-/

namespace FieldSearch.Text.Like

variable {same : Char → Char → Bool} {pattern text : List Char}

/-! ## The form of a pattern -/

/-- A text has the form of a pattern, where characters are compared by `same`. -/
inductive Matches (same : Char → Char → Bool) : List Char → List Char → Prop where
  /-- The empty pattern is the form of the empty text. -/
  | nil : Matches same [] []
  /-- `%` stands for any run of characters. -/
  | run {pattern after : List Char} (skipped : List Char) (rest : Matches same pattern after) :
      Matches same ('%' :: pattern) (skipped ++ after)
  /-- `_` stands for any one character. -/
  | one {pattern after : List Char} (c : Char) (rest : Matches same pattern after) :
      Matches same ('_' :: pattern) (c :: after)
  /-- A backslash makes the next character stand for itself. -/
  | escaped {pattern after : List Char} {c d : Char} (hSame : same c d = true)
      (rest : Matches same pattern after) : Matches same ('\\' :: c :: pattern) (d :: after)
  /-- Any other character stands for itself. -/
  | plain {pattern after : List Char} {c d : Char} (hPlain : isSpecial c = false)
      (hSame : same c d = true) (rest : Matches same pattern after) :
      Matches same (c :: pattern) (d :: after)

/-- What a token may leave of a text when it has taken its part from the front. -/
def Token.Leaves (same : Char → Char → Bool) (text after : List Char) : Token → Prop
  | .run => after <:+ text
  | .one => ∃ c, text = c :: after
  | .literal c => ∃ d, same c d = true ∧ text = d :: after

theorem matches_nil_iff : Matches same [] text ↔ text = [] := by
  constructor
  · rintro ⟨⟩
    rfl
  · rintro rfl
    exact .nil

theorem matches_run_iff : Matches same ('%' :: pattern) text ↔
    ∃ after, Token.run.Leaves same text after ∧ Matches same pattern after := by
  constructor
  · intro h
    cases h with
    | run skipped rest => exact ⟨_, ⟨skipped, rfl⟩, rest⟩
    | plain hPlain => cases hPlain
  · rintro ⟨after, ⟨skipped, rfl⟩, h⟩
    exact .run skipped h

theorem matches_one_iff : Matches same ('_' :: pattern) text ↔
    ∃ after, Token.one.Leaves same text after ∧ Matches same pattern after := by
  constructor
  · intro h
    cases h with
    | one c rest => exact ⟨_, ⟨c, rfl⟩, rest⟩
    | plain hPlain => cases hPlain
  · rintro ⟨after, ⟨c, rfl⟩, h⟩
    exact .one c h

theorem matches_escaped_iff {c : Char} : Matches same ('\\' :: c :: pattern) text ↔
    ∃ after, (Token.literal c).Leaves same text after ∧ Matches same pattern after := by
  constructor
  · intro h
    cases h with
    | escaped hSame rest => exact ⟨_, ⟨_, hSame, rfl⟩, rest⟩
    | plain hPlain => cases hPlain
  · rintro ⟨after, ⟨d, hSame, rfl⟩, h⟩
    exact .escaped hSame h

theorem matches_plain_iff {c : Char} (hPlain : isSpecial c = false) :
    Matches same (c :: pattern) text ↔
      ∃ after, (Token.literal c).Leaves same text after ∧ Matches same pattern after := by
  constructor
  · intro h
    cases h with
    | plain _ hSame rest => exact ⟨_, ⟨_, hSame, rfl⟩, rest⟩
    | run => cases hPlain
    | one => cases hPlain
    | escaped => cases hPlain
  · rintro ⟨after, ⟨d, hSame, rfl⟩, h⟩
    exact .plain hPlain hSame h

/-- There is no rule for a backslash with nothing behind it. -/
theorem not_matches_open : ¬ Matches same ['\\'] text := by
  intro h
  cases h with
  | plain hPlain => cases hPlain

/-! ## What matching finds out -/

/-- A character that begins neither an open escape nor one with a character behind it. -/
theorem ne_backslash_of_cases {c : Char} {rest : List Char} (hOpen : c = '\\' → rest = [] → False)
    (hEscape : ∀ d after, c = '\\' → rest = d :: after → False) : c ≠ '\\' := by
  intro hEq
  cases rest with
  | nil => exact hOpen hEq rfl
  | cons d after => exact hEscape d after hEq rfl

theorem tokens_cons_of_plain {c : Char} (hPlain : isSpecial c = false) :
    tokens (c :: pattern) = (tokens pattern).map (.literal c :: ·) := by
  simp only [isSpecial, Bool.or_eq_false_iff, decide_eq_false_iff_not] at hPlain
  obtain ⟨⟨hPercent, hUnderscore⟩, hBackslash⟩ := hPlain
  rw [tokens.eq_def]
  split <;> simp_all

theorem admits_cons_iff {token : Token} {form : List Token} :
    admits same (token :: form) text = true ↔
      ∃ after, token.Leaves same text after ∧ admits same form after = true := by
  cases token with
  | run =>
      rw [admits_run_iff, exists_comm]
      simp only [Token.Leaves, List.IsSuffix, eq_comm, exists_and_right]
  | one => cases text <;> simp [admits, Token.Leaves]
  | literal c => cases text <;> simp [admits, Token.Leaves, and_assoc]

/-- Matching goes on behind the first token of a pattern. -/
theorem matchesWith_iff_of_tokens {token : Token} {rest : List Char}
    (hTokens : tokens pattern = (tokens rest).map (token :: ·)) :
    matchesWith same pattern text = true ↔
      ∃ after, token.Leaves same text after ∧ matchesWith same rest after = true := by
  rw [matchesWith, hTokens]
  cases hRest : tokens rest with
  | none => simp [matchesWith, hRest]
  | some form => simp [matchesWith, hRest, admits_cons_iff]

/-- **Matching finds out whether a text has the form of a pattern.** -/
theorem matchesWith_iff : matchesWith same pattern text = true ↔ Matches same pattern text := by
  -- Patterns are taken apart as the tokens are: an escape and the character behind it at once.
  induction pattern using tokens.induct generalizing text with
  | case1 =>
      rw [matches_nil_iff, matchesWith, tokens]
      simp [admits]
  | case2 => exact iff_of_false Bool.false_ne_true not_matches_open
  | case3 c rest ih =>
      rw [matches_escaped_iff, matchesWith_iff_of_tokens rfl]
      simp only [ih]
  | case4 rest ih =>
      rw [matches_run_iff, matchesWith_iff_of_tokens rfl]
      simp only [ih]
  | case5 rest ih =>
      rw [matches_one_iff, matchesWith_iff_of_tokens rfl]
      simp only [ih]
  | case6 c rest hOpen hEscape hRun hOne ih =>
      have hPlain : isSpecial c = false := by
        have hPercent : c ≠ '%' := hRun
        have hUnderscore : c ≠ '_' := hOne
        simp [isSpecial, ne_backslash_of_cases hOpen hEscape, hPercent, hUnderscore]
      rw [matches_plain_iff hPlain, matchesWith_iff_of_tokens (tokens_cons_of_plain hPlain)]
      simp only [ih]

/-! ## Escapes -/

/-- The pattern without its escapes, the character behind each of them being left as it is.  There
is no such text if an escape has no character behind it. -/
def unescape? : List Char → Option (List Char)
  | [] => some []
  | ['\\'] => none
  | '\\' :: c :: rest => (unescape? rest).map (c :: ·)
  | c :: rest => (unescape? rest).map (c :: ·)

/-- Backslashes that stand together escape one another in pairs.  A pattern ends in an open escape
if it ends in an odd number of them. -/
def EndsOpen (pattern : List Char) : Prop := Odd (pattern.rtakeWhile (· = '\\')).length

instance (pattern : List Char) : Decidable (EndsOpen pattern) := by
  unfold EndsOpen
  infer_instance

/-- What stands in front does not matter, as long as it ends in backslashes that come in pairs. -/
theorem endsOpen_append_iff {front : List Char}
    (hEven : Even (front.rtakeWhile (· = '\\')).length) :
    EndsOpen (front ++ pattern) ↔ EndsOpen pattern := by
  simp only [EndsOpen, List.rtakeWhile, List.reverse_append, List.length_reverse] at hEven ⊢
  rw [List.takeWhile_append]
  -- The backslashes of the front count only if there is nothing else behind it.
  split
  next hAll =>
    rw [List.length_append, ← hAll, Nat.odd_add]
    exact iff_true_right hEven
  next => rfl

theorem unescape?_cons {c : Char} (h : c ≠ '\\') :
    unescape? (c :: pattern) = (unescape? pattern).map (c :: ·) := by
  rw [unescape?.eq_def]
  split <;> simp_all

theorem unescape?_escapeList (text : List Char) : unescape? (escapeList text) = some text := by
  induction text with
  | nil => rfl
  | cons c text ih =>
      by_cases hc : isSpecial c = true
      · rw [escapeList, if_pos hc, unescape?, ih, Option.map_some]
      · have hBackslash : c ≠ '\\' := by
          rintro rfl
          exact hc isSpecial_backslash
        rw [escapeList, if_neg hc, unescape?_cons hBackslash, ih, Option.map_some]

/-- **The escapes can be taken out of a pattern** unless the last of them is open. -/
theorem unescape?_eq_none_iff : unescape? pattern = none ↔ EndsOpen pattern := by
  induction pattern using unescape?.induct with
  | case1 => simp [unescape?, EndsOpen]
  | case2 => simp [unescape?, EndsOpen, List.rtakeWhile]
  | case3 c rest ih =>
      -- The character behind an escape may be a backslash: then there are two of them, else none.
      have hPair : Even ((['\\', c] : List Char).rtakeWhile (· = '\\')).length := by
        by_cases hc : c = '\\' <;> simp [List.rtakeWhile, hc]
      rw [unescape?, Option.map_eq_none_iff, ih]
      exact (endsOpen_append_iff hPair).symm
  | case4 c rest hOpen hEscape ih =>
      have hBackslash := ne_backslash_of_cases hOpen hEscape
      have hNone : Even (([c] : List Char).rtakeWhile (· = '\\')).length := by
        simp [List.rtakeWhile, hBackslash]
      rw [unescape?_cons hBackslash, Option.map_eq_none_iff, ih]
      exact (endsOpen_append_iff hNone).symm

example : EndsOpen "50\\%\\\\\\".toList ∧ ¬ EndsOpen (escape "50%\\").toList := by decide

/-! ## Terms -/

theorem matches_containing_iff {term text : String} :
    Matches (· == ·) (containing term).toList text.toList ↔ term.toList <:+: text.toList := by
  have hTokens : tokens (containing term).toList =
      some (.run :: (term.toList.map .literal ++ [.run])) := by
    have hPattern : (containing term).toList = '%' :: (escapeList term.toList ++ ['%']) := by
      simp [containing, escape]
    rw [hPattern, tokens, tokens_escapeList_append]
    rfl
  have hFound : admits (· == ·) (.run :: (term.toList.map .literal ++ [.run])) text.toList = true ↔
      term.toList.map id <:+: text.toList.map id :=
    admits_containing fun _ _ _ _ => beq_iff_eq
  rw [← matchesWith_iff, matchesWith, hTokens]
  rwa [List.map_id, List.map_id] at hFound

theorem matches_beginningWith_iff {term text : String} :
    Matches (· == ·) (beginningWith term).toList text.toList ↔ term.toList <+: text.toList := by
  have hTokens : tokens (beginningWith term).toList =
      some (term.toList.map .literal ++ [.run]) := by
    have hPattern : (beginningWith term).toList = escapeList term.toList ++ ['%'] := by
      simp [beginningWith, escape]
    rw [hPattern, tokens_escapeList_append]
    rfl
  rw [← matchesWith_iff, matchesWith, hTokens]
  exact admits_beginning

/-- **Escaped terms are literal.**  Matching finds out whether a text has the form of a pattern.
The pattern with runs around an escaped term is the form of the texts that hold the term, the one
with a run behind it that of the texts that begin with the term.  An escaped term does not end in
an escape that has nothing to escape, and without its escapes it is the term. -/
theorem escaped_terms_are_literal :
    (∀ pattern text : List Char,
      matchesWith (· == ·) pattern text = true ↔ Matches (· == ·) pattern text) ∧
    ∀ term : String,
      (∀ text : String,
        (Matches (· == ·) (containing term).toList text.toList ↔ term.toList <:+: text.toList) ∧
        (Matches (· == ·) (beginningWith term).toList text.toList ↔
          term.toList <+: text.toList)) ∧
      ¬ EndsOpen (escape term).toList ∧
      unescape? (escape term).toList = some term.toList := by
  refine ⟨fun pattern text => matchesWith_iff, fun term => ⟨fun text => ?_, ?_, ?_⟩⟩
  · exact ⟨matches_containing_iff, matches_beginningWith_iff⟩
  · rw [← unescape?_eq_none_iff, escape, String.toList_ofList, unescape?_escapeList]
    exact Option.some_ne_none _
  · rw [escape, String.toList_ofList]
    exact unescape?_escapeList term.toList

end FieldSearch.Text.Like
