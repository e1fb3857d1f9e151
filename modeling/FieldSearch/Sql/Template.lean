import FieldSearch.Sql.Dialect
import FieldSearch.Text.Identifier

/-!
# Statements with parameters

No value given by a user is ever part of the text of a statement. A statement is built as a
sequence of pieces: fixed text, names and values. A writer turns the pieces into text from left to
right; a name is quoted, and a value becomes the next placeholder and the next parameter. So
placeholders are numbered in the order in which they stand, and the parameters are the values in
that order.

## Main results

* `write_concat`: a value behind what has been written is written by binding it.
-/

namespace FieldSearch.Sql

open Number (Binary64)

/-- A value that a statement is given as a parameter. -/
inductive Value where
  | text (value : String)
  | integer (value : Int)
  | real (value : Binary64)
  | bool (value : Bool)
  | null
deriving DecidableEq, Repr

/-- A part of a statement. -/
inductive Piece where
  /-- Fixed text. -/
  | fixed (text : String)
  /-- The name of a table or a column. -/
  | name (name : String)
  /-- A value, passed as a parameter. -/
  | value (value : Value)
deriving DecidableEq, Repr

/-- The values that a piece binds. -/
def Piece.values : Piece → List Value
  | .value bound => [bound]
  | _ => []

/-- The text of a piece when `count` values were bound before it. -/
def Piece.text (dialect : Dialect) (count : Nat) : Piece → String
  | .fixed text => text
  | .name identifier => Text.quoteIdentifier identifier
  | .value _ => dialect.placeholder (count + 1)

/-- A statement, or a part of one, before its placeholders are numbered. -/
abbrev Template := List Piece

namespace Template

/-- The values of a template, in order. -/
def values (template : Template) : List Value := template.flatMap Piece.values

/-- The texts of the pieces when `count` values were bound before them. -/
def texts (dialect : Dialect) : Nat → Template → List String
  | _, [] => []
  | count, piece :: rest =>
      piece.text dialect count :: texts dialect (count + piece.values.length) rest

@[simp]
theorem values_append (left right : Template) :
    values (left ++ right) = values left ++ values right := by
  simp [values]

theorem texts_append (dialect : Dialect) (count : Nat) (left right : Template) :
    texts dialect count (left ++ right) =
      texts dialect count left ++ texts dialect (count + (values left).length) right := by
  induction left generalizing count with
  | nil => simp [texts, values]
  | cons piece left ih => simp [texts, values, ih, Nat.add_assoc]

end Template

/-- A statement with its parameters. -/
structure Fragment where
  sql : String
  params : List Value
deriving DecidableEq, Repr

/-- What has been bound so far while a statement is written. -/
structure Writer where
  dialect : Dialect
  /-- The text search configuration that full text conditions name. -/
  textSearchConfig : Option String := none
  params : List Value := []
deriving DecidableEq, Repr

namespace Writer

/-- Binds a value: its placeholder, and the writer that holds it. -/
def bind (writer : Writer) (value : Value) : String × Writer :=
  (writer.dialect.placeholder (writer.params.length + 1),
    { writer with params := writer.params ++ [value] })

/-- Writes a template: its text, and the writer that holds its values. -/
def write (writer : Writer) (template : Template) : String × Writer :=
  (String.join (template.texts writer.dialect writer.params.length),
    { writer with params := writer.params ++ template.values })

/-- The statement of a text, with all that was bound. -/
def finish (writer : Writer) (sql : String) : Fragment := ⟨sql, writer.params⟩

/-- A template as a statement. -/
def render (writer : Writer) (template : Template) : Fragment :=
  let (sql, last) := writer.write template
  last.finish sql

/-- A value behind what has been written is written by binding it there. -/
theorem write_concat (writer : Writer) (template : Template) (value : Value) :
    writer.write (template ++ [.value value]) =
      ((writer.write template).1 ++ ((writer.write template).2.bind value).1,
        ((writer.write template).2.bind value).2) := by
  simp [write, bind, Template.texts_append, Template.texts, Template.values, Piece.text,
    Piece.values, List.append_assoc]

end Writer

/-- The templates with a separator between them. -/
def Template.joined (separator : String) : List Template → Template
  | [] => []
  | [template] => template
  | template :: rest => template ++ .fixed separator :: Template.joined separator rest

/-- A condition that a column matches a pattern up to case: `column` and `pattern` are the two
sides. -/
def like (dialect : Dialect) (column pattern : Template) : Template :=
  match dialect with
  | .sqlite =>
      [.fixed "casefold("] ++ column ++ [.fixed ") LIKE casefold("] ++ pattern ++
        [.fixed ") ESCAPE '\\'"]
  | .postgres => column ++ [.fixed " ILIKE "] ++ pattern ++ [.fixed " ESCAPE '\\'"]

end FieldSearch.Sql
