import FieldSearch.Proofs.Number.Integer
import FieldSearch.Sql.Template
import Mathlib

/-!
# Tokens of a statement

A statement is read character by character.  Between double quotes stands a
name, between single quotes a literal, and in both a doubled quote stands for
one.  Outside of quotes the mark of the dialect and the digits behind it are a
placeholder, letters and digits make words and numbers, blanks only separate,
and every other character is a sign of its own.

What is being read is kept as a `Pending` token, which the next character
either continues or ends.  So a text that is put together from pieces has the
tokens of its pieces, as long as no piece continues the last token of the one
before it: that is `lex_append`, on which all reading of templates rests.

## Main results

* `lex_append`: the tokens of two texts, one behind the other.
* `lex_quoteIdentifier`: a quoted name is one token, whatever the name holds.
* `lex_placeholder`: a placeholder is one token, with its number.
* `scan_integer`: an integer is one token, behind a sign if it is negative.
-/

namespace FieldSearch.Sql

/-- A token of a statement; `α` is what stands for a value. -/
inductive Token (α : Type) where
  /-- A keyword or the name of a function. -/
  | word (text : String)
  /-- A quoted name. -/
  | name (text : String)
  /-- A quoted text. -/
  | literal (text : String)
  | number (value : Nat)
  /-- A value: in the text its placeholder. -/
  | operand (value : α)
  | sign (c : Char)
  /-- Quotes that were never closed. -/
  | unfinished
deriving DecidableEq, Repr

/-- The sign with which a placeholder begins. -/
def Dialect.mark : Dialect → Char
  | .sqlite => '?'
  | .postgres => '$'

/-- The token that is being read; texts are kept last character first. -/
inductive Pending where
  /-- A blank, or nothing at all. -/
  | blank
  | sign (c : Char)
  | word (read : List Char)
  | number (value : Nat)
  | index (value : Nat)
  | name (read : List Char)
  /-- A name behind a quote that ends it, unless another quote follows. -/
  | nameEnd (read : List Char)
  | literal (read : List Char)
  /-- A literal behind a quote that ends it, unless another quote follows. -/
  | literalEnd (read : List Char)
deriving DecidableEq, Repr

namespace Pending

/-- The value of a number with one more digit. -/
def withDigit (value : Nat) (c : Char) : Nat := 10 * value + (c.toNat - '0'.toNat)

/-- What the first character of a token begins. -/
def start (mark c : Char) : Pending :=
  if c = ' ' then .blank
  else if c = mark then .index 0
  else if c = '"' then .name []
  else if c = '\'' then .literal []
  else if c.isDigit then .number (withDigit 0 c)
  else if Text.isIdentifierStart c then .word [c]
  else .sign c

/-- The token with one more character, if the character continues it. -/
def extend : Pending → Char → Option Pending
  | .blank, _ => none
  | .sign _, _ => none
  | .word read, c => if Text.isIdentifierPart c then some (.word (c :: read)) else none
  | .number value, c => if c.isDigit then some (.number (withDigit value c)) else none
  | .index value, c => if c.isDigit then some (.index (withDigit value c)) else none
  | .name read, c => some (if c = '"' then .nameEnd read else .name (c :: read))
  | .nameEnd read, c => if c = '"' then some (.name (c :: read)) else none
  | .literal read, c => some (if c = '\'' then .literalEnd read else .literal (c :: read))
  | .literalEnd read, c => if c = '\'' then some (.literal (c :: read)) else none

/-- The token that has been read, if it is one. -/
def flush : Pending → List (Token Nat)
  | .blank => []
  | .sign c => [.sign c]
  | .word read => [.word (String.ofList read.reverse)]
  | .number value => [.number value]
  | .index value => [.operand value]
  | .nameEnd read => [.name (String.ofList read.reverse)]
  | .literalEnd read => [.literal (String.ofList read.reverse)]
  | .name _ => [.unfinished]
  | .literal _ => [.unfinished]

/-- Whether the reading is outside of quotes. -/
def isOutside : Pending → Bool
  | .name _ => false
  | .literal _ => false
  | _ => true

/-- Whether nothing can continue the token. -/
def isClosed : Pending → Bool
  | .blank => true
  | .sign _ => true
  | _ => false

end Pending

/-- Reads characters behind a pending token: the tokens that ended, and the one that is pending
then. -/
def scan (mark : Char) : Pending → List Char → List (Token Nat) × Pending
  | pending, [] => ([], pending)
  | pending, c :: rest =>
      match pending.extend c with
      | some next => scan mark next rest
      | none =>
          let (tokens, last) := scan mark (Pending.start mark c) rest
          (pending.flush ++ tokens, last)

/-- The tokens of a text. -/
def lex (mark : Char) (text : List Char) : List (Token Nat) :=
  (scan mark .blank text).1 ++ (scan mark .blank text).2.flush

/-! ## Texts behind each other -/

/-- Reading goes on where it stopped. -/
theorem scan_append (mark : Char) (left right : List Char) :
    ∀ pending, scan mark pending (left ++ right) =
      ((scan mark pending left).1 ++ (scan mark (scan mark pending left).2 right).1,
        (scan mark (scan mark pending left).2 right).2) := by
  induction left with
  | nil => intro pending; simp [scan]
  | cons c left ih =>
      intro pending
      simp only [List.cons_append, scan]
      cases hNext : pending.extend c with
      | some next => simp only [ih next]
      | none => simp only [ih (Pending.start mark c), List.append_assoc]

/-- A text whose first character does not continue the pending token is read as if nothing had
stood before it. -/
theorem scan_of_extend_none (mark : Char) (pending : Pending) (text : List Char)
    (hHead : ∀ c ∈ text.head?, pending.extend c = none) :
    (scan mark pending text).1 ++ (scan mark pending text).2.flush =
      pending.flush ++ lex mark text := by
  cases text with
  | nil => simp [lex, scan, Pending.flush]
  | cons c rest =>
      have hNone : pending.extend c = none := hHead c (by simp)
      have hBlank : Pending.blank.extend c = none := rfl
      simp only [lex, scan, hNone, hBlank, List.append_assoc]
      rfl

/-- **Texts behind each other.**  The tokens of two texts are those of the one and then those of the
other, unless the second continues the last token of the first. -/
theorem lex_append (mark : Char) (left right : List Char)
    (hHead : ∀ c ∈ right.head?, (scan mark .blank left).2.extend c = none) :
    lex mark (left ++ right) = lex mark left ++ lex mark right := by
  have hRight := scan_of_extend_none mark (scan mark .blank left).2 right hHead
  rw [lex, scan_append, List.append_assoc, hRight, ← List.append_assoc, ← lex]

/-- A character that continues no token outside of quotes. -/
def isBreak (c : Char) : Bool := !Text.isIdentifierPart c && c != '"' && c != '\''

theorem isDigit_isIdentifierPart {c : Char} (hDigit : c.isDigit = true) :
    Text.isIdentifierPart c = true := by
  simp [Text.isIdentifierPart, Char.isAlphanum, hDigit]

theorem extend_of_isBreak {pending : Pending} {c : Char} (hOutside : pending.isOutside = true)
    (hBreak : isBreak c = true) : pending.extend c = none := by
  simp only [isBreak, Bool.and_eq_true, Bool.not_eq_true', bne_iff_ne, ne_eq] at hBreak
  obtain ⟨⟨hPart, hDouble⟩, hSingle⟩ := hBreak
  have hDigit : c.isDigit = false := by
    by_contra hDigit
    rw [Bool.not_eq_false] at hDigit
    rw [isDigit_isIdentifierPart hDigit] at hPart
    cases hPart
  cases pending with
  | name read => simp [Pending.isOutside] at hOutside
  | literal read => simp [Pending.isOutside] at hOutside
  | blank => rfl
  | sign _ => rfl
  | word read => simp [Pending.extend, hPart]
  | number value => simp [Pending.extend, hDigit]
  | index value => simp [Pending.extend, hDigit]
  | nameEnd read => simp [Pending.extend, hDouble]
  | literalEnd read => simp [Pending.extend, hSingle]

theorem extend_of_isClosed {pending : Pending} (c : Char) (hClosed : pending.isClosed = true) :
    pending.extend c = none := by
  cases pending with
  | blank => rfl
  | sign _ => rfl
  | _ => simp [Pending.isClosed] at hClosed

/-! ## Quoted names -/

/-- Between the quotes a name is read as it is, every doubled quote being one. -/
theorem scan_doubleQuotes (mark : Char) (text rest : List Char) :
    ∀ read, scan mark (.name read) (Text.doubleQuotes text ++ rest) =
      scan mark (.name (text.reverse ++ read)) rest := by
  induction text with
  | nil => intro read; rfl
  | cons c text ih =>
      intro read
      by_cases hQuote : c = '"'
      · subst hQuote
        simp [Text.doubleQuotes, scan, Pending.extend, ih]
      · simp [Text.doubleQuotes, hQuote, scan, Pending.extend, ih]

theorem scan_quoteIdentifier (mark : Char) (hMark : mark ≠ '"') (name : String) :
    scan mark .blank (Text.quoteIdentifier name).toList = ([], .nameEnd name.toList.reverse) := by
  have hStart : Pending.start mark '"' = .name [] := by
    simp [Pending.start, Ne.symm hMark]
  simp [Text.quoteIdentifier, scan, Pending.extend, Pending.flush, hStart, scan_doubleQuotes]

/-- A quoted name is a single token that holds the name. -/
theorem lex_quoteIdentifier (mark : Char) (hMark : mark ≠ '"') (name : String) :
    lex mark (Text.quoteIdentifier name).toList = [.name name] := by
  simp [lex, scan_quoteIdentifier mark hMark, Pending.flush]

/-! ## Placeholders -/

/-- Digits continue whatever is made of a number, one after the other. -/
theorem scan_digits {mark : Char} {pending : Nat → Pending}
    (hExtend : ∀ value c, c.isDigit = true →
      (pending value).extend c = some (pending (Pending.withDigit value c)))
    {digits : List Char} (hDigits : ∀ c ∈ digits, c.isDigit = true) :
    ∀ value, scan mark (pending value) digits =
      ([], pending (Nat.ofDigitChars 10 digits value)) := by
  induction digits with
  | nil => intro value; simp [scan]
  | cons c digits ih =>
      intro value
      obtain ⟨hHead, hTail⟩ := List.forall_mem_cons.mp hDigits
      simp only [scan, hExtend value c hHead, ih hTail, Nat.ofDigitChars_cons]
      rfl

theorem extend_index {c : Char} (value : Nat) (hDigit : c.isDigit = true) :
    (Pending.index value).extend c = some (.index (Pending.withDigit value c)) := by
  rw [Pending.extend, if_pos hDigit]

theorem toList_placeholder (dialect : Dialect) (index : Nat) :
    (dialect.placeholder index).toList = dialect.mark :: Nat.toDigits 10 index := by
  cases dialect <;>
    simp [Dialect.placeholder, Dialect.mark, Nat.toList_repr, ToString.toString]

theorem scan_placeholder (dialect : Dialect) (index : Nat) :
    scan dialect.mark .blank (dialect.placeholder index).toList = ([], .index index) := by
  have hStart : Pending.start dialect.mark dialect.mark = .index 0 := by cases dialect <;> rfl
  have hDigits : ∀ c ∈ Nat.toDigits 10 index, c.isDigit = true := fun c hc =>
    Nat.isDigit_of_mem_toDigits (by decide) (by decide) hc
  simp [toList_placeholder, scan, Pending.extend, Pending.flush, hStart,
    @scan_digits dialect.mark .index (fun value _ => extend_index value) _ hDigits]

/-- A placeholder is a single token that holds its number. -/
theorem lex_placeholder (dialect : Dialect) (index : Nat) :
    lex dialect.mark (dialect.placeholder index).toList = [.operand index] := by
  simp [lex, scan_placeholder, Pending.flush]

theorem Dialect.mark_ne_quote (dialect : Dialect) : dialect.mark ≠ '"' := by
  cases dialect <;> decide

/-! ## Numbers -/

theorem extend_number {c : Char} (value : Nat) (hDigit : c.isDigit = true) :
    (Pending.number value).extend c = some (.number (Pending.withDigit value c)) := by
  rw [Pending.extend, if_pos hDigit]

theorem start_of_isDigit (dialect : Dialect) {c : Char} (hDigit : c.isDigit = true) :
    Pending.start dialect.mark c = .number (Pending.withDigit 0 c) := by
  have hNe : ∀ d : Char, d.isDigit = false → c ≠ d := by
    intro d hd hEq
    rw [hEq, hd] at hDigit
    cases hDigit
  have hMark : c ≠ dialect.mark := hNe _ (by cases dialect <;> decide)
  have hBlank : c ≠ ' ' := hNe _ (by decide)
  have hDouble : c ≠ '"' := hNe _ (by decide)
  have hSingle : c ≠ '\'' := hNe _ (by decide)
  simp [Pending.start, hMark, hBlank, hDouble, hSingle, hDigit]

/-- The digits of a number behind anything that they do not continue. -/
theorem scan_toDigits (dialect : Dialect) (pending : Pending) (hClosed : pending.isClosed = true)
    (n : Nat) :
    scan dialect.mark pending (Nat.toDigits 10 n) = (pending.flush, .number n) := by
  have hSpelled := Number.spelled_toDigits n
  cases hText : Nat.toDigits 10 n with
  | nil => exact absurd hText hSpelled.nonempty
  | cons c rest =>
      rw [hText] at hSpelled
      obtain ⟨hFirst, hRest⟩ := List.forall_mem_cons.mp hSpelled.isDigit
      have hValue := hSpelled.value
      rw [Nat.ofDigitChars_cons] at hValue
      simp only [scan, extend_of_isClosed c hClosed, start_of_isDigit dialect hFirst,
        @scan_digits dialect.mark .number (fun value _ => extend_number value) rest hRest,
        Pending.withDigit, hValue, List.append_nil]

/-- **An integer behind a blank** is a number, behind a sign if it is negative. -/
theorem scan_integer (dialect : Dialect) (value : Int) :
    scan dialect.mark .blank (toString value).toList =
      (if value < 0 then [.sign '-'] else [], .number value.natAbs) := by
  have hScan : ∀ pending : Pending, pending.isClosed = true →
      scan dialect.mark pending (Nat.toDigits 10 value.natAbs) =
        (pending.flush, .number value.natAbs) :=
    fun pending hClosed => scan_toDigits dialect pending hClosed value.natAbs
  rw [Number.toList_toString]
  by_cases hSign : value < 0
  · have hStart : Pending.start dialect.mark '-' = .sign '-' := by cases dialect <;> rfl
    rw [if_pos hSign, if_pos hSign, List.singleton_append]
    simp only [scan, Pending.extend, hStart, hScan (.sign '-') rfl]
    rfl
  · rw [if_neg hSign, if_neg hSign, List.nil_append, hScan .blank rfl]
    rfl

end FieldSearch.Sql
