import FieldSearch.Database.SystemTable

/-!
# Tokens as a table

A table tells the tokens of a text: the runs of ASCII letters, ASCII digits and characters beyond
ASCII, with small letters for capital ones, each with the bytes between which it stands.
-/

namespace FieldSearch.Database

/-- A token of a text. -/
structure Token where
  written : List Char
  /-- The number of bytes in front of it. -/
  start : Nat
deriving DecidableEq, Repr

namespace Token

/-- Whether a character stands between tokens; a NUL does not. -/
def isDelimiter (c : Char) : Bool := decide (c.toNat < 0x80) && c.toNat != 0 && !c.isAlphanum

/-- Where a token ends. -/
def stop (token : Token) : Nat := token.start + (String.ofList token.written).utf8ByteSize

/-- The token as it is told. -/
def text (token : Token) : String := Text.asciiLowercase (String.ofList token.written)

/-- The tokens among pieces of a text between which one byte stands. -/
def ofPieces : (start : Nat) → List (List Char) → List Token
  | _, [] => []
  | start, piece :: rest =>
      let token : Token := ⟨piece, start⟩
      if piece.isEmpty then ofPieces (start + 1) rest
      else token :: ofPieces (token.stop + 1) rest

/-- The tokens of a text. -/
def tokensOf (input : String) : List Token :=
  ofPieces 0 (Text.splitAll isDelimiter input.toList)

end Token

namespace TokenTable

/-- The place of the column that is asked for its tokens. -/
def inputColumn : Nat := 0

/-- The rows with which a question is answered, numbered from one. -/
def rows (question : Question) : Except Fault (List Row) :=
  match (question.lookup inputColumn).map Cell.textual with
  | some (.text input) =>
      pure ((Token.tokensOf input).zipIdx.map fun (token, index) =>
        ⟨index + 1,
          [question.textCell inputColumn, .text token.text, .integer token.start,
            .integer token.stop, .integer index]⟩)
  | _ => throw .logicError

/-- The table of the tokens of a text. -/
def table : SystemTable where
  name := "fts3tokenize"
  columns := ["input", "token", "start", "end", "position"].map fun name => ⟨name, "", false⟩
  taking := { columns := [inputColumn], takesFirst := true }
  answer := rows

end TokenTable
end FieldSearch.Database
