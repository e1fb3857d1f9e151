import FieldSearch.Proofs.Sql.Rendering
import Mathlib

/-!
# Statements without their values

To mask a template is to put the same value in the place of each of its
values.  The text of a template and the number of its parameters are not changed
by that, since a value stands in the text as its placeholder only.

Conditions, orders and selections can be masked too: terms, ids and values of
columns are blotted out, while fields, columns and the shape of everything stay.
Whatever is rendered from a masked selection has the same mask as what is
rendered from the selection itself.  So two selections with the same mask have
the same text: `sql_eq_of_masked_eq`.

## Main results

* `masked_renderPredicate`, `masked_renderSelect`: rendering only sees what
  a mask leaves.
* `sql_eq_of_masked_eq`: selections with the same mask give the same text.
-/

namespace FieldSearch

namespace Sql

/-! ## Masked templates -/

/-- The piece with its value blotted out. -/
def Piece.masked : Piece → Piece
  | .value _ => .value .null
  | piece => piece

/-- The template with all its values blotted out. -/
def Template.masked (template : Template) : Template := template.map Piece.masked

/-- The rendering with all its values blotted out. -/
def Rendering.masked : Rendering → Rendering
  | .done template => .done template.masked
  | .refused before error => .refused before.masked error

theorem Piece.text_masked (dialect : Dialect) (count : Nat) (piece : Piece) :
    piece.masked.text dialect count = piece.text dialect count := by
  cases piece <;> rfl

theorem Piece.length_values_masked (piece : Piece) :
    piece.masked.values.length = piece.values.length := by
  cases piece <;> rfl

namespace Template

/-- Values leave no trace in the text. -/
theorem texts_masked (dialect : Dialect) (template : Template) :
    ∀ count, texts dialect count template.masked = texts dialect count template := by
  induction template with
  | nil => intro count; rfl
  | cons piece rest ih =>
      intro count
      have hRest := ih (count + piece.values.length)
      rw [masked, List.map_cons, texts, texts, Piece.text_masked, Piece.length_values_masked]
      exact congrArg _ hRest

theorem length_values_masked (template : Template) :
    template.masked.values.length = template.values.length := by
  induction template with
  | nil => rfl
  | cons piece rest ih =>
      have hPiece := Piece.length_values_masked piece
      rw [masked] at ih ⊢
      simp only [values, List.map_cons, List.flatMap_cons, List.length_append] at ih ⊢
      rw [hPiece, ih]

@[simp]
theorem masked_append (left right : Template) :
    masked (left ++ right) = masked left ++ masked right :=
  List.map_append

theorem masked_joined (separator : String) (templates : List Template) :
    masked (joined separator templates) = joined separator (templates.map masked) := by
  induction templates with
  | nil => rfl
  | cons first rest ih =>
      cases rest with
      | nil => rfl
      | cons second others =>
          have hJoined : joined separator (first :: second :: others) =
              first ++ ([.fixed separator] ++ joined separator (second :: others)) := rfl
          rw [hJoined, masked_append, masked_append, ih]
          rfl

/-- Values in a list are blotted out one by one. -/
theorem masked_joined_values (separator : String) (values : List Value) :
    masked (joined separator (values.map fun value => [.value value])) =
      masked (joined separator ((values.map fun _ => .null).map fun value => [.value value])) := by
  rw [masked_joined, masked_joined, List.map_map, List.map_map, List.map_map]
  rfl

end Template

namespace Rendering

@[simp]
theorem masked_append (left right : Rendering) :
    (left ++ right).masked = left.masked ++ right.masked := by
  cases left <;> cases right <;> simp [masked]

theorem masked_joined (separator : String) (renderings : List Rendering) :
    (joined separator renderings).masked = joined separator (renderings.map masked) := by
  induction renderings with
  | nil => rfl
  | cons first rest ih =>
      cases rest with
      | nil => rfl
      | cons second others =>
          rw [joined_cons_cons, masked_append, masked_append, ih]
          rfl

/-- What is joined item by item is blotted out item by item. -/
theorem masked_joined_map {β : Type} (separator : String) (render : β → Rendering)
    (mask : β → β) (items : List β)
    (hEach : ∀ item ∈ items, (render item).masked = (render (mask item)).masked) :
    (joined separator (items.map render)).masked =
      (joined separator ((items.map mask).map render)).masked := by
  rw [masked_joined, masked_joined, List.map_map, List.map_map, List.map_map]
  exact congrArg _ (List.map_congr_left hEach)

end Rendering

/-- Two templates with the same mask have the same text and as many parameters. -/
theorem Writer.render_eq_of_masked_eq (writer : Writer) {left right : Template}
    (h : left.masked = right.masked) :
    (writer.render left).sql = (writer.render right).sql ∧
      (writer.render left).params.length = (writer.render right).params.length := by
  have hTexts : left.texts writer.dialect writer.params.length =
      right.texts writer.dialect writer.params.length := by
    rw [← Template.texts_masked, h, Template.texts_masked]
  have hLength : left.values.length = right.values.length := by
    rw [← Template.length_values_masked, h, Template.length_values_masked]
  constructor
  · exact congrArg String.join hTexts
  · show (writer.params ++ left.values).length = (writer.params ++ right.values).length
    rw [List.length_append, List.length_append, hLength]

end Sql

/-! ## Masked conditions and orders -/

/-- The clause without its term. -/
def Clause.masked : Clause → Clause
  | .contains field _ => .contains field ""
  | .beginsWords field _ => .beginsWords field []

namespace Predicate

mutual

/-- The condition without its terms. -/
def masked : Predicate → Predicate
  | .always => .always
  | .never => .never
  | .single clause => .single clause.masked
  | .any alternatives => .any (maskedAll alternatives)

/-- The conditions without their terms. -/
def maskedAll : List Predicate → List Predicate
  | [] => []
  | alternative :: rest => masked alternative :: maskedAll rest

end

theorem maskedAll_eq_map (alternatives : List Predicate) :
    maskedAll alternatives = alternatives.map masked := by
  induction alternatives with
  | nil => rfl
  | cons first rest ih => rw [maskedAll, ih, List.map_cons]

end Predicate

/-- The pair without its term. -/
def FieldTerm.masked (pair : FieldTerm) : FieldTerm := { pair with term := "" }

/-- The ranking expression without its terms. -/
def RankExpr.masked : RankExpr → RankExpr
  | .exactPrefix pairs => .exactPrefix (pairs.map FieldTerm.masked)
  | .matchPosition pairs => .matchPosition (pairs.map FieldTerm.masked)
  | .column name => .column name

/-- The key without its terms. -/
def SortKey.masked (key : SortKey) : SortKey := { key with expr := key.expr.masked }

/-- The order without its terms. -/
def Sorting.masked (sorting : Sorting) : Sorting := ⟨sorting.keys.map SortKey.masked⟩

/-- The value, of which only is left whether there is one. -/
def Sql.Value.masked : Sql.Value → Sql.Value
  | .null => .null
  | _ => .bool true

/-- The filter without its values; their number is left, and whether a column should have one. -/
def Filter.masked : Filter → Filter
  | .idIn column ids => .idIn column (ids.map fun _ => .null)
  | .search predicate => .search predicate.masked
  | .columnEquals column value => .columnEquals column value.masked

/-- The selection without its terms and values. -/
def Select.masked (select : Select) : Select :=
  { select with
    filters := select.filters.map Filter.masked
    sorting := select.sorting.masked }

namespace Sql

theorem masked_requireFullText (dialect : Dialect) (rendering : Rendering) :
    (requireFullText dialect rendering).masked = requireFullText dialect rendering.masked := by
  cases dialect <;> rfl

theorem masked_renderClause (dialect : Dialect) (config : Option String) (clause : Clause) :
    (renderClause dialect config clause).masked =
      (renderClause dialect config clause.masked).masked := by
  cases clause with
  | contains field term => cases dialect <;> rfl
  | beginsWords field words => cases dialect <;> cases config <;> rfl

theorem masked_renderPredicate (dialect : Dialect) (config : Option String)
    (predicate : Predicate) :
    (renderPredicate dialect config predicate).masked =
      (renderPredicate dialect config predicate.masked).masked := by
  induction predicate using Predicate.induct with
  | always => rfl
  | never => rfl
  | single clause => exact masked_renderClause dialect config clause
  | any alternatives ih =>
      rw [Predicate.masked, Predicate.maskedAll_eq_map, renderPredicate, renderPredicate,
        renderAlternatives_eq_map, renderAlternatives_eq_map, Rendering.masked_append,
        Rendering.masked_append, Rendering.masked_append, Rendering.masked_append,
        Rendering.masked_joined_map " OR " (renderPredicate dialect config) Predicate.masked _ ih]

theorem masked_folded (function : String) (parts : List Template) :
    (folded function parts).masked = folded function (parts.map Template.masked) := by
  match parts with
  | [] => rfl
  | [part] => rfl
  | first :: second :: others =>
      have hFolded : folded function (first :: second :: others) = [.fixed (function ++ "(")] ++
          Template.joined ", " (first :: second :: others) ++ [.fixed ")"] := rfl
      rw [hFolded, Template.masked_append, Template.masked_append, Template.masked_joined]
      rfl

theorem masked_folded_map (function : String) {render : FieldTerm → Template}
    (hEach : ∀ pair, (render pair).masked = (render pair.masked).masked)
    (pairs : List FieldTerm) :
    (folded function (pairs.map render)).masked =
      (folded function ((pairs.map FieldTerm.masked).map render)).masked := by
  rw [masked_folded, masked_folded, List.map_map, List.map_map, List.map_map]
  exact congrArg _ (List.map_congr_left fun pair _ => hEach pair)

theorem masked_renderExpr (dialect : Dialect) (expr : RankExpr) :
    (renderExpr dialect expr).masked = (renderExpr dialect expr.masked).masked := by
  cases expr with
  | column name => rfl
  | exactPrefix pairs =>
      have hFlag : ∀ pair : FieldTerm, (exactPrefixFlag dialect pair).masked =
          (exactPrefixFlag dialect pair.masked).masked := fun pair => by cases dialect <;> rfl
      rw [RankExpr.masked, renderExpr, renderExpr, masked_requireFullText, masked_requireFullText]
      exact congrArg (fun template => requireFullText dialect (.done template))
        (masked_folded_map "GREATEST" hFlag pairs)
  | matchPosition pairs =>
      rw [RankExpr.masked, renderExpr, renderExpr, masked_requireFullText, masked_requireFullText]
      exact congrArg (fun template => requireFullText dialect (.done template))
        (masked_folded_map "LEAST" (fun pair => rfl) pairs)

theorem masked_renderKey (dialect : Dialect) (key : SortKey) :
    (renderKey dialect key).masked = (renderKey dialect key.masked).masked := by
  rw [renderKey, renderKey, Rendering.masked_append, Rendering.masked_append, masked_renderExpr]
  rfl

/-! ## Masked selections -/

theorem narrows_masked (filter : Filter) : filter.masked.narrows = filter.narrows := by
  cases filter with
  | search predicate => cases predicate <;> rfl
  | _ => rfl

theorem masked_filterRendering (dialect : Dialect) (config : Option String) (filter : Filter) :
    (filterRendering dialect config filter).masked =
      (filterRendering dialect config filter.masked).masked := by
  cases filter with
  | search predicate => exact masked_renderPredicate dialect config predicate
  | columnEquals column value => cases value <;> rfl
  | idIn column ids =>
      cases ids with
      | nil => rfl
      | cons first rest =>
          have hIds := Template.masked_joined_values ", " (first :: rest)
          show Rendering.done (Template.masked _) = Rendering.done (Template.masked _)
          rw [Template.masked_append, Template.masked_append, hIds, ← Template.masked_append,
            ← Template.masked_append]

theorem masked_renderWhere (dialect : Dialect) (config : Option String) (filters : List Filter) :
    (renderWhere dialect config filters).masked =
      (renderWhere dialect config (filters.map Filter.masked)).masked := by
  have hKept : (filters.map Filter.masked).filter Filter.narrows =
      (filters.filter Filter.narrows).map Filter.masked := by
    rw [List.filter_map]
    exact congrArg _ (List.filter_congr fun filter _ => narrows_masked filter)
  have hConditions := Rendering.masked_joined_map " AND " (filterRendering dialect config)
    Filter.masked (filters.filter Filter.narrows)
    fun filter _ => masked_filterRendering dialect config filter
  rw [renderWhere, renderWhere, filterMap_renderFilter, filterMap_renderFilter, hKept]
  cases hFilters : filters.filter Filter.narrows with
  | nil => rfl
  | cons first rest =>
      rw [hFilters] at hConditions
      simp only [List.map_cons] at hConditions ⊢
      rw [Rendering.masked_append, Rendering.masked_append, hConditions]

theorem masked_renderOrderBy (dialect : Dialect) (sorting : Sorting) :
    (renderOrderBy dialect sorting).masked = (renderOrderBy dialect sorting.masked).masked := by
  obtain ⟨keys⟩ := sorting
  have hKeys := Rendering.masked_joined_map ", " (renderKey dialect) SortKey.masked keys
    fun key _ => masked_renderKey dialect key
  cases keys with
  | nil => rfl
  | cons first rest =>
      simp only [renderOrderBy, renderSorting, Sorting.masked, List.map_cons] at hKeys ⊢
      rw [Rendering.masked_append, Rendering.masked_append, hKeys]

/-- **Rendering a selection only sees what a mask leaves.** -/
theorem masked_renderSelect (dialect : Dialect) (config : Option String) (select : Select) :
    (renderSelect dialect config select).masked =
      (renderSelect dialect config select.masked).masked := by
  simp only [renderSelect, Rendering.masked_append]
  rw [masked_renderWhere, masked_renderOrderBy]
  rfl

/-- **Selections with the same mask give the same text**, with as many parameters. -/
theorem sql_eq_of_masked_eq {writer : Writer} {left right : Select}
    (hMasked : left.masked = right.masked) {first second : Fragment}
    (hFirst : writer.renderSelect left = .ok first)
    (hSecond : writer.renderSelect right = .ok second) :
    first.sql = second.sql ∧ first.params.length = second.params.length := by
  have hRenderings : (renderSelect writer.dialect writer.textSearchConfig left).masked =
      (renderSelect writer.dialect writer.textSearchConfig right).masked := by
    rw [masked_renderSelect, hMasked, ← masked_renderSelect]
  rw [Writer.renderSelect] at hFirst hSecond
  cases hLeft : renderSelect writer.dialect writer.textSearchConfig left with
  | refused before error =>
      rw [hLeft] at hFirst
      cases hFirst
  | done template =>
      cases hRight : renderSelect writer.dialect writer.textSearchConfig right with
      | refused before error =>
          rw [hRight] at hSecond
          cases hSecond
      | done other =>
          rw [hLeft] at hFirst hRenderings
          rw [hRight] at hSecond hRenderings
          obtain rfl := Except.ok.inj hFirst
          obtain rfl := Except.ok.inj hSecond
          exact writer.render_eq_of_masked_eq (Rendering.done.inj hRenderings)

end Sql
end FieldSearch
