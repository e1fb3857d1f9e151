import FieldSearch.Text.Lowercase

/-!
# LIKE patterns

In a pattern `%` stands for any run of characters, `_` for any single one, and a backslash makes
the next character literal. `escape` writes a text so that it stands for itself alone.
-/

namespace FieldSearch.Text.Like

/-- The characters with a meaning of their own in a pattern. -/
def isSpecial (c : Char) : Bool := c = '%' || c = '_' || c = '\\'

/-- A list of characters with a backslash before each special one. -/
def escapeList : List Char → List Char
  | [] => []
  | c :: rest => if isSpecial c then '\\' :: c :: escapeList rest else c :: escapeList rest

/-- The pattern that stands for the text itself. -/
def escape (text : String) : String := String.ofList (escapeList text.toList)

/-- The pattern for all texts that contain the given one. -/
def containing (text : String) : String := "%" ++ escape text ++ "%"

/-- The pattern for all texts that begin with the given one. -/
def beginningWith (text : String) : String := escape text ++ "%"

/-- What a pattern is made of. -/
inductive Token where
  /-- Any run of characters. -/
  | run
  /-- Any single character. -/
  | one
  /-- This character. -/
  | literal (c : Char)
deriving DecidableEq, Repr

/-- The tokens of a pattern; a pattern that ends in an open escape has none. -/
def tokens : List Char → Option (List Token)
  | [] => some []
  | ['\\'] => none
  | '\\' :: c :: rest => (tokens rest).map (.literal c :: ·)
  | '%' :: rest => (tokens rest).map (.run :: ·)
  | '_' :: rest => (tokens rest).map (.one :: ·)
  | c :: rest => (tokens rest).map (.literal c :: ·)

/-- Whether a text has the form of the tokens, characters being compared by `same`. -/
def admits (same : Char → Char → Bool) : List Token → List Char → Bool
  | [], text => text.isEmpty
  | .run :: pattern, [] => admits same pattern []
  | .run :: pattern, c :: text =>
      admits same pattern (c :: text) || admits same (.run :: pattern) text
  | .one :: _, [] => false
  | .one :: pattern, _ :: text => admits same pattern text
  | .literal _ :: _, [] => false
  | .literal c :: pattern, d :: text => same c d && admits same pattern text
termination_by pattern text => (pattern.length, text.length)

/-- Whether a pattern matches a text; one with an open escape matches nothing. -/
def matchesWith (same : Char → Char → Bool) (pattern text : List Char) : Bool :=
  match tokens pattern with
  | some form => admits same form text
  | none => false

@[simp]
theorem escapeList_nil : escapeList [] = [] := rfl

theorem tokens_escapeList_append (text rest : List Char) :
    tokens (escapeList text ++ rest) = (tokens rest).map (text.map Token.literal ++ ·) := by
  induction text with
  | nil => cases h : tokens rest <;> simp [h]
  | cons c text ih =>
      by_cases hc : isSpecial c = true
      · simp only [escapeList, hc, if_true, List.cons_append, tokens, ih, Option.map_map]
        rfl
      · simp only [escapeList, hc, Bool.false_eq_true, if_false, List.cons_append]
        simp only [isSpecial, Bool.or_eq_true, decide_eq_true_eq, not_or] at hc
        obtain ⟨⟨hPercent, hUnderscore⟩, hBackslash⟩ := hc
        rw [tokens.eq_def]
        split <;> simp_all [Option.map_map, Function.comp_def]

end FieldSearch.Text.Like
