import FieldSearch.Proofs.Sql.Listed
import FieldSearch.Proofs.Sql.Separation
import FieldSearch.Schema.Statements
import Mathlib

/-!
# What changes say

A statement that changes a database creates a table or stores a row.  Here is their grammar: a
table has a name and columns, each with a name, the words of a type and perhaps the
mark of the key; a row names columns and has as many values, or has nothing but
defaults.  The readers know nothing of how such statements are written.

Whatever is written for a table with columns, or for a row, is read as that table and
that row, with the parameters in the places of their placeholders, and behind whatever
the writer held before.

## Main results

* `readChange?_createTable`: what the statement that creates a table says.
* `readChange?_insert`: what the statement that stores a row says.
-/

namespace FieldSearch

namespace Sql

/-! ## The grammar of changes -/

/-- A column as a statement defines it. -/
structure ColumnDefinition where
  name : String
  /-- The words of its type, with blanks between them. -/
  type : String
  isKey : Bool
deriving DecidableEq, Repr

/-- A change of a database. -/
inductive Change where
  /-- A table, unless there is one of its name. -/
  | create (table : String) (columns : List ColumnDefinition)
  /-- A row, with values for some columns and defaults for all others. -/
  | insert (table : String) (cells : List (String × Value))
deriving DecidableEq, Repr

/-- The words that end a type. -/
def constraintWords : List String :=
  ["CONSTRAINT", "PRIMARY", "NOT", "NULL", "UNIQUE", "CHECK", "DEFAULT", "COLLATE", "REFERENCES",
    "GENERATED", "AS"]

/-- The words of a type. -/
def readType : Tokens → List String × Tokens
  | .word text :: rest =>
      if text ∈ constraintWords then ([], .word text :: rest)
      else
        let (words, last) := readType rest
        (text :: words, last)
  | tokens => ([], tokens)

/-- Whether the mark of the key stands here. -/
def readKeyMark : Tokens → Bool × Tokens
  | .word "PRIMARY" :: .word "KEY" :: rest => (true, rest)
  | tokens => (false, tokens)

/-- A column. -/
def readColumn? : Tokens → Option (ColumnDefinition × Tokens)
  | .name name :: rest =>
      let (words, rest) := readType rest
      let (isKey, rest) := readKeyMark rest
      some (⟨name, " ".intercalate words, isKey⟩, rest)
  | _ => none

/-- A table that is created, to the end of the statement. -/
def readCreate? : Tokens → Option Change
  | .word "TABLE" :: .word "IF" :: .word "NOT" :: .word "EXISTS" :: .name table :: .sign '(' ::
      rest =>
      match readList? readColumn? rest with
      | some (columns, [.sign ')']) => some (.create table columns)
      | _ => none
  | _ => none

/-- The values of a row for the columns that are named, to the end of the statement. -/
def readRow? (table : String) (names : List String) (tokens : Tokens) : Option Change :=
  match readValues? tokens with
  | some (values, []) =>
      if names.length = values.length then some (.insert table (names.zip values)) else none
  | _ => none

/-- A row that is stored, to the end of the statement. -/
def readInsert? : Tokens → Option Change
  | [.word "INTO", .name table, .word "DEFAULT", .word "VALUES"] => some (.insert table [])
  | .word "INTO" :: .name table :: .sign '(' :: rest =>
      match readList? readName? rest with
      | some (names, .sign ')' :: .word "VALUES" :: .sign '(' :: rest) => readRow? table names rest
      | _ => none
  | _ => none

/-- A change. -/
def readChange? : Tokens → Option Change
  | .word "CREATE" :: rest => readCreate? rest
  | .word "INSERT" :: rest => readInsert? rest
  | _ => none

/-- What a text says with its parameters, each in the place of its placeholder. -/
def Fragment.readChange? (dialect : Dialect) (fragment : Fragment) : Option Change :=
  (resolve fragment.params (lex dialect.mark fragment.sql.toList)).bind Sql.readChange?

end Sql

open Sql (Dialect Template Token Tokens Writer Value)

/-! ## Columns -/

/-- The words of a type in a dialect. -/
def ColumnType.words : ColumnType → Dialect → List String
  | .float, .postgres => ["DOUBLE", "PRECISION"]
  | type, dialect => [type.sqlType dialect]

/-- The definition of a column in a dialect. -/
def NewColumn.definition (dialect : Dialect) (column : NewColumn) : Sql.ColumnDefinition where
  name := column.name
  type := column.type.sqlType dialect
  isKey := column.isKey

namespace Sql

variable {dialect : Dialect}

theorem intercalate_words (type : ColumnType) (dialect : Dialect) :
    " ".intercalate (type.words dialect) = type.sqlType dialect := by
  cases type <;> cases dialect <;> rfl

theorem not_mem_constraintWords (type : ColumnType) (dialect : Dialect) :
    ∀ word ∈ type.words dialect, word ∉ constraintWords := by
  cases type <;> cases dialect <;> decide

theorem tokens_columnTemplate (dialect : Dialect) (column : NewColumn) :
    Template.tokens dialect (CreateTable.columnTemplate dialect column) =
      .name column.name :: ((column.type.words dialect).map .word ++
        if column.isKey then [.word "PRIMARY", .word "KEY"] else []) := by
  obtain ⟨name, type, isKey⟩ := column
  cases isKey <;> cases type <;> cases dialect <;>
    simp only [CreateTable.columnTemplate, Bool.false_eq_true, if_true, if_false] <;> rfl

/-- What does not go on with a word. -/
def EndsWords (rest : Tokens) : Prop := ∀ next ∈ rest.head?, ∀ text, next ≠ .word text

theorem readType_of_endsWords {rest : Tokens} (hEnds : EndsWords rest) :
    readType rest = ([], rest) := by
  rw [readType.eq_def]
  split
  · exact absurd rfl (hEnds _ rfl _)
  · rfl

theorem readKeyMark_of_endsWords {rest : Tokens} (hEnds : EndsWords rest) :
    readKeyMark rest = (false, rest) := by
  rw [readKeyMark.eq_def]
  split
  · exact absurd rfl (hEnds _ rfl _)
  · rfl

theorem readType_words {words : List String} (hWords : ∀ word ∈ words, word ∉ constraintWords)
    {rest : Tokens} (hRest : readType rest = ([], rest)) :
    readType (words.map .word ++ rest) = (words, rest) := by
  induction words with
  | nil => exact hRest
  | cons word others ih =>
      obtain ⟨hWord, hOthers⟩ := List.forall_mem_cons.mp hWords
      rw [List.map_cons, List.cons_append, readType, if_neg hWord, ih hOthers]

/-- **A column is read as it was written**, in front of anything but a word. -/
theorem readColumn?_columnTemplate (dialect : Dialect) (column : NewColumn) {rest : Tokens}
    (hEnds : EndsWords rest) :
    readColumn? (Template.tokens dialect (CreateTable.columnTemplate dialect column) ++ rest) =
      some (column.definition dialect, rest) := by
  have hWords := not_mem_constraintWords column.type dialect
  rw [tokens_columnTemplate, List.cons_append, List.append_assoc, readColumn?]
  cases hKey : column.isKey with
  | true =>
      have hType := @readType_words _ hWords (.word "PRIMARY" :: .word "KEY" :: rest)
        (by rw [readType, if_pos (by decide)])
      simp only [if_true, List.cons_append, List.nil_append, hType, readKeyMark,
        intercalate_words, NewColumn.definition, hKey]
  | false =>
      have hType := readType_words hWords (readType_of_endsWords hEnds)
      simp only [Bool.false_eq_true, if_false, List.nil_append, hType,
        readKeyMark_of_endsWords hEnds, intercalate_words, NewColumn.definition, hKey]

/-! ## Tables -/

theorem separated_columnTemplate (dialect : Dialect) (column : NewColumn) :
    Template.Separated dialect (CreateTable.columnTemplate dialect column) := by
  obtain ⟨name, type, isKey⟩ := column
  cases isKey <;> cases type <;> cases dialect <;>
    simp only [CreateTable.columnTemplate, Bool.false_eq_true, if_true, if_false] <;>
    exact .of_separates rfl

theorem separated_createTable (dialect : Dialect) (statement : CreateTable) :
    Template.Separated dialect (statement.template dialect) := by
  have hHead : Template.Separated dialect
      [.fixed "CREATE TABLE IF NOT EXISTS ", .name statement.table, .fixed " ("] := by
    cases dialect <;> exact .of_separates rfl
  have hColumns : Template.Separated dialect (Template.joined ", "
      (statement.columns.map (CreateTable.columnTemplate dialect))) :=
    .joined_map (separated_columnTemplate dialect) statement.columns
  exact (hHead.append_of_closes hColumns (by cases dialect <;> rfl)).closed

theorem readCreate?_columns (table : String) {columns : List NewColumn}
    (hColumns : columns ≠ []) :
    readCreate? (.word "TABLE" :: .word "IF" :: .word "NOT" :: .word "EXISTS" :: .name table ::
        .sign '(' :: (Template.tokens dialect (Template.joined ", "
          (columns.map (CreateTable.columnTemplate dialect))) ++ [.sign ')'])) =
      some (.create table (columns.map (NewColumn.definition dialect))) := by
  have hEach : List.Forall₂ (fun column template => ∀ rest, EndsWords rest →
      readColumn? (Template.tokens dialect template ++ rest) =
        some (NewColumn.definition dialect column, rest))
      columns (columns.map (CreateTable.columnTemplate dialect)) := by
    rw [List.forall₂_map_right_iff, List.forall₂_same]
    exact fun column _ rest hEnds => readColumn?_columnTemplate dialect column hEnds
  have hSign (c : Char) (rest : Tokens) : EndsWords (.sign c :: rest) := by
    simp [EndsWords]
  have hList := readList?_joined hEach hColumns (hSign ',') (hSign ')' []) (by simp)
  rw [readCreate?, hList]
  rfl

/-- **What the statement that creates a table says**: the table, with its columns as the dialect
defines them. -/
theorem readChange?_createTable (writer : Writer) {statement : CreateTable}
    (hColumns : statement.columns ≠ []) :
    (writer.render (statement.template writer.dialect)).readChange? writer.dialect =
      some (.create statement.table
        (statement.columns.map (NewColumn.definition writer.dialect))) := by
  have hHead : Template.tokens writer.dialect
      [.fixed "CREATE TABLE IF NOT EXISTS ", .name statement.table, .fixed " ("] =
      [.word "CREATE", .word "TABLE", .word "IF", .word "NOT", .word "EXISTS",
        .name statement.table, .sign '('] := by
    cases writer.dialect <;> rfl
  rw [Fragment.readChange?, Template.resolve_render (separated_createTable _ statement),
    Option.bind_some, CreateTable.template, Template.tokens_append, Template.tokens_append, hHead,
    tokens_close, List.append_assoc]
  exact readCreate?_columns statement.table hColumns

/-! ## Rows -/

theorem separated_insert (dialect : Dialect) (statement : Insert) :
    Template.Separated dialect statement.template := by
  obtain ⟨table, cells⟩ := statement
  rw [Insert.template]
  split
  · cases dialect <;> exact .of_separates rfl
  · have hHead : Template.Separated dialect
        [.fixed "INSERT INTO ", .name table, .fixed " ("] := by
      cases dialect <;> exact .of_separates rfl
    have hMiddle : Template.Separated dialect [.fixed ") VALUES ("] := by
      cases dialect <;> exact .of_separates rfl
    have hNames : Template.Separated dialect
        (Template.joined ", " (cells.map fun cell => [.name cell.1])) :=
      .joined_map (fun cell => by cases dialect <;> exact .of_separates rfl) cells
    have hValues : Template.Separated dialect
        (Template.joined ", " (cells.map fun cell => [.value cell.2])) :=
      .joined_map (fun cell => by cases dialect <;> exact .of_separates rfl) cells
    have hNamed := hHead.append_of_closes hNames (by cases dialect <;> rfl)
    have hRow := hMiddle.append_of_closes hValues.closed (by cases dialect <;> rfl)
    rw [List.append_assoc, List.append_assoc]
    exact hNamed.append_of_opens hRow rfl

theorem readInsert?_cells (table : String) {cells : List (String × Value)} (hCells : cells ≠ []) :
    readInsert? (.word "INTO" :: .name table :: .sign '(' ::
        (Template.tokens dialect (Template.joined ", " (cells.map fun cell => [.name cell.1])) ++
          .sign ')' :: .word "VALUES" :: .sign '(' ::
          (Template.tokens dialect (Template.joined ", " (cells.map fun cell => [.value cell.2])) ++
            [.sign ')']))) =
      some (.insert table cells) := by
  have hNamed : cells.map Prod.fst ≠ [] := by simpa using hCells
  have hValued : cells.map Prod.snd ≠ [] := by simpa using hCells
  have hNames := readName?_joined dialect hNamed (.sign ')' :: .word "VALUES" :: .sign '(' ::
    (Template.tokens dialect (Template.joined ", " (cells.map fun cell => [.value cell.2])) ++
      [.sign ')'])) (by simp)
  have hValues := readValues?_joined dialect hValued []
  simp only [List.map_map, Function.comp_def] at hNames hValues
  have hRow : readRow? table (cells.map Prod.fst) (Template.tokens dialect
      (Template.joined ", " (cells.map fun cell => [.value cell.2])) ++ [.sign ')']) =
      some (.insert table cells) := by
    have hZip : (cells.map Prod.fst).zip (cells.map Prod.snd) = cells := by
      rw [← List.unzip_fst, ← List.unzip_snd, List.zip_unzip]
    rw [readRow?, hValues]
    simp only [List.length_map, if_true, hZip]
  rw [readInsert?, hNames]
  exact hRow

/-- **What the statement that stores a row says**: the row, with its parameters as values. -/
theorem readChange?_insert (writer : Writer) (statement : Insert) :
    (writer.render statement.template).readChange? writer.dialect =
      some (.insert statement.table statement.cells) := by
  rw [Fragment.readChange?, Template.resolve_render (separated_insert _ statement),
    Option.bind_some]
  obtain ⟨table, cells⟩ := statement
  by_cases hCells : cells = []
  · rw [hCells]
    cases writer.dialect <;> rfl
  · have hHead : Template.tokens writer.dialect
        [.fixed "INSERT INTO ", .name table, .fixed " ("] =
        [.word "INSERT", .word "INTO", .name table, .sign '('] := by
      cases writer.dialect <;> rfl
    have hMiddle : Template.tokens writer.dialect [.fixed ") VALUES ("] =
        [.sign ')', .word "VALUES", .sign '('] := by
      cases writer.dialect <;> rfl
    have hRow := @readInsert?_cells writer.dialect table cells hCells
    rw [Insert.template, if_neg (by simpa using hCells)]
    simp only [Template.tokens_append, hHead, hMiddle, tokens_close, List.append_assoc]
    exact hRow

end Sql
end FieldSearch
