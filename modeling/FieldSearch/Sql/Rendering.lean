import FieldSearch.Search.Error
import FieldSearch.Sql.Template

/-!
# Renderings

What becomes of a condition or an order in a dialect: a template, or a refusal because the dialect
cannot express it. A refusal keeps the pieces that came before it, since by then their values have
been bound. Of renderings behind each other the first refusal decides.

## Main results

* `append_done_nil`: nothing behind a rendering leaves it as it is.
-/

namespace FieldSearch.Sql

/-- A template, or a refusal behind the pieces that precede it. -/
inductive Rendering where
  | done (template : Template)
  | refused (before : Template) (error : SearchError)
deriving DecidableEq, Repr

namespace Rendering

/-- One rendering behind another. -/
def append : Rendering → Rendering → Rendering
  | .done left, .done right => .done (left ++ right)
  | .done left, .refused before error => .refused (left ++ before) error
  | .refused before error, _ => .refused before error

instance : Append Rendering := ⟨append⟩

/-- The rendering of a fixed text. -/
def fixed (text : String) : Rendering := .done [.fixed text]

@[simp]
theorem done_append_done (left right : Template) :
    Rendering.done left ++ Rendering.done right = .done (left ++ right) := rfl

@[simp]
theorem done_append_refused (left before : Template) (error : SearchError) :
    Rendering.done left ++ Rendering.refused before error = .refused (left ++ before) error := rfl

@[simp]
theorem refused_append (before : Template) (error : SearchError) (right : Rendering) :
    Rendering.refused before error ++ right = .refused before error := rfl

theorem append_done_nil (rendering : Rendering) : rendering ++ .done [] = rendering := by
  cases rendering <;> simp

/-- Renderings with a separator between them. -/
def joined (separator : String) : List Rendering → Rendering
  | [] => .done []
  | [rendering] => rendering
  | rendering :: rest => rendering ++ fixed separator ++ joined separator rest

/-- The template, or the fault. -/
def template : Rendering → Except SearchError Template
  | .done template => .ok template
  | .refused _ error => .error error

/-- The values bound by the end, or up to the refusal. -/
def values : Rendering → List Value
  | .done template => template.values
  | .refused before _ => before.values

/-- The statement of a rendering in the hands of a writer. -/
def render (writer : Writer) (rendering : Rendering) : Except SearchError Fragment :=
  rendering.template.map writer.render

end Rendering
end FieldSearch.Sql
