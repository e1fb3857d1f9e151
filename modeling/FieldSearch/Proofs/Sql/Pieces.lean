import FieldSearch.Proofs.Sql.Token
import Mathlib

/-!
# Reading templates

A template is written piece by piece.  Its text is read back piece by piece if
no piece runs into the next one: between two pieces, either the first ends in
a sign or a blank, or the second is a fixed text that begins with one.  Such a
template is `Separated`, and that can be checked junction by junction.

A value is written as the next placeholder, so behind `count` values the
placeholders of a template are `count + 1`, `count + 2`, and so on.  Looked up
in the parameters they give the values back: `resolve` puts the values in the
places of their placeholders, and what comes out is `Template.tokens`, the
template itself read as tokens.

## Main results

* `lex_texts`: the tokens of the text of a separated template.
* `operands_numbered`: its placeholders are numbered consecutively.
* `resolve_numbered`: its placeholders stand for its values.
* `resolve_render`: what a writer has rendered reads back.
-/

namespace FieldSearch.Sql

/-! ## Values in the places of placeholders -/

/-- The value of a token, if it stands for one. -/
def Token.operand? {α : Type} : Token α → Option α
  | .operand value => some value
  | _ => none

/-- What stands for values in tokens, in order. -/
def operands {α : Type} (tokens : List (Token α)) : List α := tokens.filterMap Token.operand?

@[simp]
theorem operands_append {α : Type} (left right : List (Token α)) :
    operands (left ++ right) = operands left ++ operands right :=
  List.filterMap_append

/-- A token with the parameter in the place of its number; numbers count from one. -/
def Token.resolve (params : List Value) : Token Nat → Option (Token Value)
  | .operand 0 => none
  | .operand (index + 1) => (params[index]?).map .operand
  | .word text => some (.word text)
  | .name text => some (.name text)
  | .literal text => some (.literal text)
  | .number value => some (.number value)
  | .sign c => some (.sign c)
  | .unfinished => some .unfinished

/-- Tokens with the parameters in the places of their numbers, if there are that many. -/
def resolve (params : List Value) (tokens : List (Token Nat)) : Option (List (Token Value)) :=
  tokens.mapM (Token.resolve params)

theorem resolve_append (params : List Value) (left right : List (Token Nat)) :
    resolve params (left ++ right) =
      (resolve params left).bind fun first =>
        (resolve params right).map fun second => first ++ second := by
  simp only [resolve, List.mapM_append]
  cases List.mapM (Token.resolve params) left <;>
    cases List.mapM (Token.resolve params) right <;> rfl

/-- Tokens without placeholders are the same under all parameters. -/
theorem resolve_of_operands_nil (params : List Value) (tokens : List (Token Nat))
    (hNone : operands tokens = []) :
    resolve params tokens = some (tokens.filterMap (Token.resolve [])) := by
  induction tokens with
  | nil => rfl
  | cons token rest ih =>
      have hSplit : operands [token] ++ operands rest = [] := by
        rw [← operands_append]
        exact hNone
      obtain ⟨hHead, hRest⟩ := List.append_eq_nil_iff.mp hSplit
      have hTail := ih hRest
      rw [resolve] at hTail
      cases token with
      | operand index => simp [operands, Token.operand?] at hHead
      | _ => simp [resolve, Token.resolve, hTail]

/-! ## Pieces as tokens -/

namespace Piece

/-- The token in which the reading of a piece ends. -/
def pending (dialect : Dialect) : Piece → Pending
  | .fixed text => (scan dialect.mark .blank text.toList).2
  | .name identifier => .nameEnd identifier.toList.reverse
  | .value _ => .index 0

/-- Whether a piece ends in a token that nothing continues. -/
def closes (dialect : Dialect) (piece : Piece) : Bool := (piece.pending dialect).isClosed

/-- Whether a piece begins with a character that continues no token. -/
def opens : Piece → Bool
  | .fixed text => text.toList.head?.any isBreak
  | _ => false

/-- Whether a fixed text holds no placeholder, ends outside of quotes, and is not empty. -/
def isPlain (dialect : Dialect) : Piece → Bool
  | .fixed text =>
      (scan dialect.mark .blank text.toList).2.isOutside &&
        (operands (lex dialect.mark text.toList)).isEmpty && !text.toList.isEmpty
  | _ => true

/-- The tokens of a piece behind `count` values. -/
def numbered (dialect : Dialect) (count : Nat) : Piece → List (Token Nat)
  | .fixed text => lex dialect.mark text.toList
  | .name identifier => [.name identifier]
  | .value _ => [.operand (count + 1)]

/-- The tokens of a piece, a value standing for itself. -/
def tokens (dialect : Dialect) : Piece → List (Token Value)
  | .fixed text => (lex dialect.mark text.toList).filterMap (Token.resolve [])
  | .name identifier => [.name identifier]
  | .value bound => [.operand bound]

/-- Whether a piece can be followed by another one without running into it. -/
def Fits (dialect : Dialect) (piece next : Piece) : Prop :=
  piece.closes dialect = true ∨ next.opens = true

theorem lex_text (dialect : Dialect) (count : Nat) (piece : Piece) :
    lex dialect.mark (piece.text dialect count).toList = piece.numbered dialect count := by
  cases piece with
  | fixed text => rfl
  | name identifier => exact lex_quoteIdentifier _ dialect.mark_ne_quote identifier
  | value value => exact lex_placeholder dialect (count + 1)

theorem pending_isOutside {dialect : Dialect} {piece : Piece}
    (hPlain : piece.isPlain dialect = true) : (piece.pending dialect).isOutside = true := by
  cases piece with
  | fixed text =>
      simp only [isPlain, Bool.and_eq_true] at hPlain
      exact hPlain.1.1
  | name identifier => rfl
  | value value => rfl

/-- What continues a piece is decided by what it is, not by the number of its placeholder. -/
theorem extend_text (dialect : Dialect) (count : Nat) (piece : Piece) (c : Char)
    (hNone : (piece.pending dialect).extend c = none) :
    (scan dialect.mark .blank (piece.text dialect count).toList).2.extend c = none := by
  cases piece with
  | fixed text => exact hNone
  | name identifier =>
      simp only [text, scan_quoteIdentifier _ dialect.mark_ne_quote]
      exact hNone
  | value value =>
      simp only [text, scan_placeholder]
      simpa [pending, Pending.extend] using hNone

end Piece

/-! ## Templates as tokens -/

namespace Template

/-- The tokens of a template behind `count` values. -/
def numbered (dialect : Dialect) : Nat → Template → List (Token Nat)
  | _, [] => []
  | count, piece :: rest =>
      piece.numbered dialect count ++ numbered dialect (count + piece.values.length) rest

/-- The tokens of a template, values standing for themselves. -/
def tokens (dialect : Dialect) (template : Template) : List (Token Value) :=
  template.flatMap (Piece.tokens dialect)

@[simp]
theorem tokens_nil (dialect : Dialect) : tokens dialect [] = [] := rfl

@[simp]
theorem tokens_cons (dialect : Dialect) (piece : Piece) (rest : Template) :
    tokens dialect (piece :: rest) = piece.tokens dialect ++ tokens dialect rest := rfl

@[simp]
theorem tokens_append (dialect : Dialect) (left right : Template) :
    tokens dialect (left ++ right) = tokens dialect left ++ tokens dialect right := by
  simp [tokens]

/-- No piece runs into the next one, and fixed texts are plain. -/
structure Separated (dialect : Dialect) (template : Template) : Prop where
  plain : ∀ piece ∈ template, piece.isPlain dialect = true
  chain : List.IsChain (Piece.Fits dialect) template

theorem Separated.tail {dialect : Dialect} {piece : Piece} {rest : Template}
    (h : Separated dialect (piece :: rest)) : Separated dialect rest :=
  ⟨fun other hOther => h.plain other (by simp [hOther]), h.chain.tail⟩

/-- The text of a template begins as its first piece does. -/
theorem head?_texts {dialect : Dialect} {count : Nat} {next : Piece} {rest : Template} {c : Char}
    (hOpens : next.opens = true)
    (hHead : c ∈ (String.join (texts dialect count (next :: rest))).toList.head?) :
    isBreak c = true := by
  cases next with
  | name name => exact absurd hOpens (by simp [Piece.opens])
  | value value => exact absurd hOpens (by simp [Piece.opens])
  | fixed text =>
      simp only [Piece.opens] at hOpens
      cases hText : text.toList with
      | nil => simp [hText] at hOpens
      | cons d others =>
          simp [texts, Piece.text, String.toList_join, hText] at hHead
          subst hHead
          simpa [hText] using hOpens

/-- **A separated template is read piece by piece.** -/
theorem lex_texts (dialect : Dialect) (template : Template) :
    ∀ count, Separated dialect template →
      lex dialect.mark (String.join (texts dialect count template)).toList =
        numbered dialect count template := by
  induction template with
  | nil => intro count _; rfl
  | cons piece rest ih =>
      intro count hSeparated
      have hRest := ih (count + piece.values.length) hSeparated.tail
      have hJunction : ∀ c ∈ (String.join (texts dialect (count + piece.values.length)
            rest)).toList.head?,
          (scan dialect.mark .blank (piece.text dialect count).toList).2.extend c = none := by
        intro c hc
        refine piece.extend_text dialect count c ?_
        cases rest with
        | nil => simp [texts] at hc
        | cons next others =>
            have hFits : piece.Fits dialect next := hSeparated.chain.rel
            rcases hFits with hCloses | hOpens
            · exact extend_of_isClosed c hCloses
            · exact extend_of_isBreak
                (Piece.pending_isOutside (hSeparated.plain piece (by simp)))
                (head?_texts hOpens hc)
      have hText : (String.join (texts dialect count (piece :: rest))).toList =
          (piece.text dialect count).toList ++
            (String.join (texts dialect (count + piece.values.length) rest)).toList := by
        simp [texts, String.toList_join]
      rw [hText, lex_append _ _ _ hJunction, hRest, Piece.lex_text]
      rfl

/-- The placeholders of a template count on from those before it. -/
theorem operands_numbered (dialect : Dialect) (template : Template) :
    ∀ count, (∀ piece ∈ template, piece.isPlain dialect = true) →
      operands (numbered dialect count template) =
        List.range' (count + 1) template.values.length := by
  induction template with
  | nil => intro count _; rfl
  | cons piece rest ih =>
      intro count hPlain
      have hRest := ih (count + piece.values.length) fun other hOther =>
        hPlain other (by simp [hOther])
      have hPiece := hPlain piece (by simp)
      simp only [numbered, operands_append, hRest]
      cases piece with
      | fixed text =>
          simp only [Piece.isPlain, Bool.and_eq_true, List.isEmpty_iff] at hPiece
          simp [Piece.numbered, hPiece.1.2, values, Piece.values]
      | name name => simp [Piece.numbered, operands, Token.operand?, values, Piece.values]
      | value value =>
          simp [Piece.numbered, operands, Token.operand?, values, Piece.values, List.range'_succ]

/-- **Placeholders stand for the values of their template**, wherever in the parameters these
are. -/
theorem resolve_numbered (dialect : Dialect) (template : Template) :
    ∀ before after : List Value, (∀ piece ∈ template, piece.isPlain dialect = true) →
      resolve (before ++ template.values ++ after) (numbered dialect before.length template) =
        some (tokens dialect template) := by
  induction template with
  | nil => intro before after _; rfl
  | cons piece rest ih =>
      intro before after hPlain
      have hRest := ih (before ++ piece.values) after fun other hOther =>
        hPlain other (by simp [hOther])
      have hParams : before ++ values (piece :: rest) ++ after =
          before ++ piece.values ++ values rest ++ after := by
        simp [values, List.append_assoc]
      have hPiece : resolve (before ++ values (piece :: rest) ++ after)
          (piece.numbered dialect before.length) = some (piece.tokens dialect) := by
        cases piece with
        | fixed text =>
            have hText := hPlain (.fixed text) (by simp)
            simp only [Piece.isPlain, Bool.and_eq_true, List.isEmpty_iff] at hText
            exact resolve_of_operands_nil _ _ hText.1.2
        | name name => rfl
        | value value =>
            simp [Piece.numbered, Piece.tokens, resolve, Token.resolve, values, Piece.values]
      rw [List.length_append, ← hParams] at hRest
      rw [numbered, resolve_append, hPiece, hRest]
      rfl

/-! ## Rendered templates -/

variable {writer : Writer} {template : Template}

theorem lex_render (hSeparated : Separated writer.dialect template) :
    lex writer.dialect.mark (writer.render template).sql.toList =
      numbered writer.dialect writer.params.length template :=
  lex_texts writer.dialect template _ hSeparated

/-- **What was rendered reads back** as the template, behind whatever was written before. -/
theorem resolve_render (hSeparated : Separated writer.dialect template) :
    resolve (writer.render template).params
        (lex writer.dialect.mark (writer.render template).sql.toList) =
      some (tokens writer.dialect template) := by
  have hResolved := resolve_numbered writer.dialect template writer.params [] hSeparated.plain
  rw [List.append_nil] at hResolved
  rw [lex_render hSeparated]
  exact hResolved

end Template
end FieldSearch.Sql
