import FieldSearch.Proofs.Sql.Pieces
import FieldSearch.Search.Sorting
import Mathlib

/-!
# The grammar of selections

What a statement says once it has been cut into tokens, with the values in the
places of their placeholders.  A condition is a choice of conjunctions of
comparisons and of conditions in parentheses, so `AND` binds tighter than `OR`
and parentheses group; both associate to the left.  A match (`LIKE`, `ILIKE`,
`@@`), `IN`, `=` and `IS NULL` are comparisons and have no parts that are
conditions.

The readers take tokens from the front and return what is left.  Conditions
recur through parentheses; the recursion is on the number of tokens left, and
a reader that returned no fewer tokens than it was given would be refused,
which never happens.

`readParts` is a reader of another kind: it looks for comparisons and
positions from left to right and passes over all else.  It finds them in any
statement, also in one that has empty parentheses and so is no selection.
-/

namespace FieldSearch.Sql

/-- Tokens with the values in their places. -/
abbrev Tokens := List (Token Value)

/-! ## What statements say -/

/-- A comparison: a condition without parts that are conditions. -/
inductive Comparison where
  | numbers (left right : Nat)
  /-- A match up to case, with a backslash before characters that stand for themselves, in the
  form of a dialect. -/
  | like (dialect : Dialect) (column : String) (pattern : Value)
  /-- A match of words, with the configuration of each side if it is named. -/
  | words (vectorConfig : Option Value) (column : String) (queryConfig : Option Value)
      (query : Value)
  | isIn (column : String) (values : List Value)
  | equals (column : String) (value : Value)
  | isNull (column : String)
deriving DecidableEq, Repr

/-- A condition. -/
inductive Condition where
  | comparison (comparison : Comparison)
  | both (left right : Condition)
  | either (left right : Condition)
deriving DecidableEq, Repr

/-- What a row scores in one field. -/
inductive Score where
  /-- One if a comparison holds, and else zero. -/
  | flag (comparison : Comparison)
  /-- The position of a term in a column, or null. -/
  | position (term : Value) (column : String)
deriving DecidableEq, Repr

/-- What is sorted by. -/
inductive KeyExpr where
  | column (name : String)
  | score (score : Score)
  | greatest (scores : List Score)
  | least (scores : List Score)
deriving DecidableEq, Repr

/-- A key of an order. -/
structure Key where
  expr : KeyExpr
  direction : Direction
  nullsLast : Bool
deriving DecidableEq, Repr

/-- A selection from one table. -/
structure Statement where
  columns : List String
  table : String
  condition : Option Condition
  keys : List Key
  limit : Option Int
  offset : Option Int
deriving DecidableEq, Repr

/-! ## Comparisons -/

/-- Values up to a closing parenthesis. -/
def readValues? : Tokens → Option (List Value × Tokens)
  | .operand value :: .sign ')' :: rest => some ([value], rest)
  | .operand value :: .sign ',' :: rest =>
      (readValues? rest).map fun (values, rest) => (value :: values, rest)
  | _ => none

/-- The configuration of a text search function, if it is named. -/
def readConfig : Tokens → Option Value × Tokens
  | .operand config :: .sign ':' :: .sign ':' :: .word "text" :: .sign ':' :: .sign ':' ::
      .word "regconfig" :: .sign ',' :: rest => (some config, rest)
  | tokens => (none, tokens)

/-- The query of a match of words. -/
def readQuery? (vectorConfig : Option Value) (column : String) (tokens : Tokens) :
    Option (Comparison × Tokens) :=
  match readConfig tokens with
  | (queryConfig, .operand query :: .sign ')' :: rest) =>
      some (.words vectorConfig column queryConfig query, rest)
  | _ => none

/-- The sides of a match of words. -/
def readWords? (tokens : Tokens) : Option (Comparison × Tokens) :=
  match readConfig tokens with
  | (vectorConfig, .name column :: .sign ')' :: .sign '@' :: .sign '@' :: .word "to_tsquery" ::
      .sign '(' :: rest) => readQuery? vectorConfig column rest
  | _ => none

/-- A comparison. -/
def readComparison? : Tokens → Option (Comparison × Tokens)
  | .number left :: .sign '=' :: .number right :: rest => some (.numbers left right, rest)
  | .name column :: .sign '=' :: .operand value :: rest => some (.equals column value, rest)
  | .name column :: .word "IS" :: .word "NULL" :: rest => some (.isNull column, rest)
  | .name column :: .word "IN" :: .sign '(' :: rest =>
      (readValues? rest).map fun (values, rest) => (.isIn column values, rest)
  | .name column :: .word "ILIKE" :: .operand pattern :: .word "ESCAPE" :: .literal "\\" ::
      rest => some (.like .postgres column pattern, rest)
  | .word "casefold" :: .sign '(' :: .name column :: .sign ')' :: .word "LIKE" ::
      .word "casefold" :: .sign '(' :: .operand pattern :: .sign ')' :: .word "ESCAPE" ::
      .literal "\\" :: rest => some (.like .sqlite column pattern, rest)
  | .word "to_tsvector" :: .sign '(' :: rest => readWords? rest
  | _ => none

/-! ## Conditions -/

mutual

/-- A comparison, or a condition in parentheses. -/
def readPrimary? (tokens : Tokens) : Option (Condition × Tokens) :=
  match tokens with
  | .sign '(' :: rest =>
      match readChoice? rest with
      | some (condition, .sign ')' :: rest) => some (condition, rest)
      | _ => none
  | tokens => (readComparison? tokens).map fun (comparison, rest) => (.comparison comparison, rest)
termination_by (tokens.length, 0)

/-- Primaries with `AND` between them. -/
def readConjunction? (tokens : Tokens) : Option (Condition × Tokens) :=
  match readPrimary? tokens with
  | some (first, rest) =>
      if rest.length < tokens.length then readConjuncts? first rest else none
  | none => none
termination_by (tokens.length, 1)

/-- More primaries behind a condition. -/
def readConjuncts? (left : Condition) (tokens : Tokens) : Option (Condition × Tokens) :=
  match tokens with
  | .word "AND" :: rest =>
      match readPrimary? rest with
      | some (right, last) =>
          if last.length < rest.length then readConjuncts? (.both left right) last else none
      | none => none
  | tokens => some (left, tokens)
termination_by (tokens.length, 0)

/-- Conjunctions with `OR` between them. -/
def readChoice? (tokens : Tokens) : Option (Condition × Tokens) :=
  match readConjunction? tokens with
  | some (first, rest) =>
      if rest.length < tokens.length then readAlternatives? first rest else none
  | none => none
termination_by (tokens.length, 2)

/-- More conjunctions behind a condition. -/
def readAlternatives? (left : Condition) (tokens : Tokens) : Option (Condition × Tokens) :=
  match tokens with
  | .word "OR" :: rest =>
      match readConjunction? rest with
      | some (right, last) =>
          if last.length < rest.length then readAlternatives? (.either left right) last else none
      | none => none
  | tokens => some (left, tokens)
termination_by (tokens.length, 0)

end

/-! ## Lists and keys -/

/-- One or more items with commas between them. -/
def readList? {β : Type} (item : Tokens → Option (β × Tokens)) (tokens : Tokens) :
    Option (List β × Tokens) :=
  match item tokens with
  | some (first, .sign ',' :: rest) =>
      if rest.length < tokens.length then
        (readList? item rest).map fun (others, last) => (first :: others, last)
      else none
  | some (first, rest) => some ([first], rest)
  | none => none
termination_by tokens.length

/-- A name. -/
def readName? : Tokens → Option (String × Tokens)
  | .name name :: rest => some (name, rest)
  | _ => none

/-- The comparison of a flag. -/
def readFlag? (tokens : Tokens) : Option (Score × Tokens) :=
  match readComparison? tokens with
  | some (comparison, .word "THEN" :: .number 1 :: .word "ELSE" :: .number 0 :: .word "END" ::
      rest) => some (.flag comparison, rest)
  | _ => none

/-- The position of a term, from the name of its function on. -/
def readPosition? : Tokens → Option (Value × String × Tokens)
  | .word "POSITION" :: .sign '(' :: .word "LOWER" :: .sign '(' :: .operand term :: .sign ':' ::
      .sign ':' :: .word "text" :: .sign ')' :: .word "IN" :: .word "LOWER" :: .sign '(' ::
      .name column :: .sign ')' :: .sign ')' :: rest => some (term, column, rest)
  | _ => none

/-- A score. -/
def readScore? (tokens : Tokens) : Option (Score × Tokens) :=
  match tokens with
  | .word "CASE" :: .word "WHEN" :: rest => readFlag? rest
  | .word "NULLIF" :: .sign '(' :: rest =>
      match readPosition? rest with
      | some (term, column, .sign ',' :: .number 0 :: .sign ')' :: rest) =>
          some (.position term column, rest)
      | _ => none
  | _ => none

/-- Scores up to a closing parenthesis. -/
def readScores? (make : List Score → KeyExpr) (tokens : Tokens) : Option (KeyExpr × Tokens) :=
  match readList? readScore? tokens with
  | some (scores, .sign ')' :: rest) => some (make scores, rest)
  | _ => none

/-- What is sorted by. -/
def readKeyExpr? (tokens : Tokens) : Option (KeyExpr × Tokens) :=
  match tokens with
  | .name name :: rest => some (.column name, rest)
  | .word "GREATEST" :: .sign '(' :: rest => readScores? .greatest rest
  | .word "LEAST" :: .sign '(' :: rest => readScores? .least rest
  | tokens => (readScore? tokens).map fun (score, rest) => (.score score, rest)

/-- The direction of a key. -/
def readDirection? : Tokens → Option (Direction × Tokens)
  | .word "ASC" :: rest => some (.ascending, rest)
  | .word "DESC" :: rest => some (.descending, rest)
  | _ => none

/-- Whether nulls come last. -/
def readNullsLast : Tokens → Bool × Tokens
  | .word "NULLS" :: .word "LAST" :: rest => (true, rest)
  | tokens => (false, tokens)

/-- A key. -/
def readKey? (tokens : Tokens) : Option (Key × Tokens) := do
  let (expr, rest) ← readKeyExpr? tokens
  let (direction, rest) ← readDirection? rest
  let (nullsLast, rest) := readNullsLast rest
  some (⟨expr, direction, nullsLast⟩, rest)

/-! ## Statements -/

/-- An integer. -/
def readInteger? : Tokens → Option (Int × Tokens)
  | .number value :: rest => some (value, rest)
  | .sign '-' :: .number value :: rest => some (-value, rest)
  | _ => none

/-- The condition of a selection, if there is one. -/
def readWhere? (tokens : Tokens) : Option (Option Condition × Tokens) :=
  match tokens with
  | .word "WHERE" :: rest => (readChoice? rest).map fun (condition, rest) => (some condition, rest)
  | tokens => some (none, tokens)

/-- The keys of a selection, if there are any. -/
def readOrderBy? (tokens : Tokens) : Option (List Key × Tokens) :=
  match tokens with
  | .word "ORDER" :: .word "BY" :: rest => readList? readKey? rest
  | tokens => some ([], tokens)

/-- The limit of a selection, if there is one. -/
def readLimit? (tokens : Tokens) : Option (Option Int × Tokens) :=
  match tokens with
  | .word "LIMIT" :: rest => (readInteger? rest).map fun (limit, rest) => (some limit, rest)
  | tokens => some (none, tokens)

/-- The offset of a selection, if there is one. -/
def readOffset? (tokens : Tokens) : Option (Option Int × Tokens) :=
  match tokens with
  | .word "OFFSET" :: rest => (readInteger? rest).map fun (offset, rest) => (some offset, rest)
  | tokens => some (none, tokens)

/-- What follows the table of a selection, to the end of the statement. -/
def readClauses? (columns : List String) (table : String) (tokens : Tokens) :
    Option Statement := do
  let (condition, rest) ← readWhere? tokens
  let (keys, rest) ← readOrderBy? rest
  let (limit, rest) ← readLimit? rest
  let (offset, rest) ← readOffset? rest
  if rest.isEmpty then some ⟨columns, table, condition, keys, limit, offset⟩ else none

/-- A selection. -/
def readStatement? (tokens : Tokens) : Option Statement :=
  match tokens with
  | .word "SELECT" :: rest =>
      match readList? readName? rest with
      | some (columns, .word "FROM" :: .name table :: rest) => readClauses? columns table rest
      | _ => none
  | _ => none

/-- What a text says with its parameters, each in the place of its placeholder. -/
def Fragment.read? (dialect : Dialect) (fragment : Fragment) : Option Statement :=
  (resolve fragment.params (lex dialect.mark fragment.sql.toList)).bind readStatement?

/-! ## Parts in which values stand -/

/-- A part of a statement in which values can stand. -/
inductive Part where
  | comparison (comparison : Comparison)
  | position (term : Value) (column : String)
deriving DecidableEq, Repr

/-- The values of a comparison, in the order of writing. -/
def Comparison.values : Comparison → List Value
  | .numbers _ _ => []
  | .like _ _ pattern => [pattern]
  | .words vectorConfig _ queryConfig query =>
      vectorConfig.toList ++ queryConfig.toList ++ [query]
  | .isIn _ values => values
  | .equals _ value => [value]
  | .isNull _ => []

/-- The values of a part, in the order of writing. -/
def Part.values : Part → List Value
  | .comparison inner => inner.values
  | .position term _ => [term]

/-- The part with which tokens begin, if they begin with one. -/
def readPart? (tokens : Tokens) : Option (Part × Tokens) :=
  match readComparison? tokens with
  | some (comparison, rest) => some (.comparison comparison, rest)
  | none => (readPosition? tokens).map fun (term, column, rest) => (.position term column, rest)

/-- All parts among tokens, from left to right. -/
def readParts (tokens : Tokens) : List Part :=
  match tokens with
  | [] => []
  | token :: rest =>
      match readPart? (token :: rest) with
      | some (part, last) =>
          if last.length ≤ rest.length then part :: readParts last else []
      | none => readParts rest
termination_by tokens.length

end FieldSearch.Sql
