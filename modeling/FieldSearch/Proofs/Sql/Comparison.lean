import FieldSearch.Proofs.Sql.Listed
import FieldSearch.Proofs.Sql.Rendering
import Mathlib

/-!
# Comparisons as they are read

Clauses, id filters and column filters are rendered as comparisons.  Read
back, each is the comparison that it should be, with the values that were bound
for it in their places, and what stands behind it is left.

`Template.Compares` is that property of a template.  It is proved here once
for each template that is a comparison; what is put together from comparisons is
read with these lemmas only.
-/

namespace FieldSearch

/-- The comparison that a clause becomes. -/
def Clause.comparison (dialect : Sql.Dialect) (config : Option String) :
    Clause → Sql.Comparison
  | .contains field term => .like dialect field (.text (Text.Like.containing term))
  | .beginsWords field words =>
      .words (config.map .text) field (config.map .text) (.text (Text.prefixQuery words))

/-- The comparison that makes a field with its term begin a ranking. -/
def FieldTerm.comparison (dialect : Sql.Dialect) (pair : FieldTerm) : Sql.Comparison :=
  .like dialect pair.field (.text (Text.Like.beginningWith pair.term))

namespace Sql

/-- The comparison that a column has one of some values; with no values it never holds. -/
def idComparison (column : String) : List Value → Comparison
  | [] => .numbers 1 0
  | ids => .isIn column ids

/-- The comparison that a column has a value, or has none. -/
def valueComparison (column : String) : Value → Comparison
  | .null => .isNull column
  | value => .equals column value

/-- The template is the comparison, whatever follows, and binds the values of the comparison. -/
structure Template.Compares (dialect : Dialect) (template : Template) (comparison : Comparison) :
    Prop where
  read : ∀ rest, readComparison? (template.tokens dialect ++ rest) = some (comparison, rest)
  values : template.values = comparison.values

theorem compares_always (dialect : Dialect) :
    Template.Compares dialect [.fixed "1 = 1"] (.numbers 1 1) := by
  refine ⟨fun rest => ?_, rfl⟩
  cases dialect <;> rfl

theorem compares_never (dialect : Dialect) :
    Template.Compares dialect [.fixed "1 = 0"] (.numbers 1 0) := by
  refine ⟨fun rest => ?_, rfl⟩
  cases dialect <;> rfl

theorem compares_like (dialect : Dialect) (column : String) (pattern : Value) :
    Template.Compares dialect (like dialect [.name column] [.value pattern])
      (.like dialect column pattern) := by
  cases dialect <;> exact ⟨fun rest => rfl, rfl⟩

theorem compares_renderClause {dialect : Dialect} {config : Option String} {clause : Clause}
    {template : Template} (h : renderClause dialect config clause = .done template) :
    Template.Compares dialect template (clause.comparison dialect config) := by
  cases clause with
  | contains field term =>
      obtain rfl := Rendering.done.inj h
      exact compares_like dialect field _
  | beginsWords field words =>
      obtain ⟨rfl, rfl⟩ := requireFullText_eq_done h
      cases config <;> exact ⟨fun rest => rfl, rfl⟩

/-- Separators bind nothing. -/
theorem Template.values_joined (separator : String) (templates : List Template) :
    (Template.joined separator templates).values = templates.flatMap Template.values := by
  induction templates with
  | nil => rfl
  | cons first rest ih =>
      cases rest with
      | nil => simp [Template.joined]
      | cons second others =>
          have hJoined : Template.joined separator (first :: second :: others) =
              first ++ ([.fixed separator] ++ Template.joined separator (second :: others)) := rfl
          rw [hJoined, Template.values_append, Template.values_append, ih, List.flatMap_cons]
          rfl

theorem compares_isIn (dialect : Dialect) (column : String) {values : List Value}
    (hNonempty : values ≠ []) :
    Template.Compares dialect ([.name column, .fixed " IN ("] ++
      Template.joined ", " (values.map fun value => [.value value]) ++ [.fixed ")"])
        (.isIn column values) := by
  have hBound : Template.values ([.name column, .fixed " IN ("] ++
      Template.joined ", " (values.map fun value => [.value value]) ++ [.fixed ")"]) = values := by
    simp only [Template.values_append, Template.values_joined, List.flatMap_map]
    simp [Template.values, Piece.values]
  refine ⟨fun rest => ?_, hBound⟩
  have hOpen : Template.tokens dialect [.name column, .fixed " IN ("] =
      [.name column, .word "IN", .sign '('] := by
    cases dialect <;> rfl
  have hValues := readValues?_joined dialect hNonempty rest
  rw [Template.tokens_append, Template.tokens_append, hOpen, tokens_close]
  simp only [List.append_assoc, List.cons_append, List.nil_append, readComparison?, hValues]
  rfl

theorem compares_isNull (dialect : Dialect) (column : String) :
    Template.Compares dialect [.name column, .fixed " IS NULL"] (.isNull column) := by
  cases dialect <;> exact ⟨fun rest => rfl, rfl⟩

theorem compares_equals (dialect : Dialect) (column : String) (value : Value) :
    Template.Compares dialect [.name column, .fixed " = ", .value value]
      (.equals column value) := by
  cases dialect <;> exact ⟨fun rest => rfl, rfl⟩

/-- The tokens of a position, from the name of its function to its last parenthesis. -/
def positionTokens (term : Value) (column : String) : Tokens :=
  [.word "POSITION", .sign '(', .word "LOWER", .sign '(', .operand term, .sign ':', .sign ':',
    .word "text", .sign ')', .word "IN", .word "LOWER", .sign '(', .name column, .sign ')',
    .sign ')']

theorem tokens_matchPosition (dialect : Dialect) (pair : FieldTerm) :
    Template.tokens dialect (matchPosition pair) =
      [.word "NULLIF", .sign '('] ++ positionTokens (.text pair.term) pair.field ++
        [.sign ',', .number 0, .sign ')'] := by
  cases dialect <;> rfl

/-! ## Filters -/

theorem compares_idIn {dialect : Dialect} {config : Option String} {column : String}
    {ids : List Value} {template : Template}
    (h : filterRendering dialect config (.idIn column ids) = .done template) :
    Template.Compares dialect template (idComparison column ids) := by
  cases ids with
  | nil =>
      obtain rfl := Rendering.done.inj h
      exact compares_never dialect
  | cons first rest =>
      obtain rfl := Rendering.done.inj h
      exact compares_isIn dialect column (List.cons_ne_nil first rest)

theorem compares_columnEquals {dialect : Dialect} {config : Option String} {column : String}
    {value : Value} {template : Template}
    (h : filterRendering dialect config (.columnEquals column value) = .done template) :
    Template.Compares dialect template (valueComparison column value) := by
  cases value with
  | null =>
      obtain rfl := Rendering.done.inj h
      exact compares_isNull dialect column
  | _ =>
      obtain rfl := Rendering.done.inj h
      exact compares_equals dialect column _

end Sql
end FieldSearch
