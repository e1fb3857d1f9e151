import FieldSearch.Proofs.Search.Predicate
import FieldSearch.Query.Select
import Mathlib

/-!
# Renderings that are done

A rendering that is done has done all its parts, and its template is put
together from theirs.  The lemmas here say so once for each function that
renders: what a proof about templates has to know of a condition, an order or a
selection is which templates its parts have.  `List.Forall₂` pairs the parts with
their templates.

## Main results

* `append_eq_done`, `joined_eq_done`: the parts of renderings behind each
  other and with separators between them.
* `renderPredicate_any_eq_done`, `renderSorting_eq_done`,
  `renderWhere_eq_done`, `renderSelect_eq_done`: the parts of a choice, an
  order, the filters and a whole selection.
* `Filter.forall_narrows_iff`, `Filter.flatMap_narrows`: the filters that leave
  a trace stand for all of them.
-/

namespace FieldSearch.Sql

namespace Rendering

theorem append_eq_done {left right : Rendering} {template : Template}
    (h : left ++ right = .done template) :
    ∃ first second, left = .done first ∧ right = .done second ∧ template = first ++ second := by
  cases left with
  | refused before error => cases h
  | done first =>
      cases right with
      | refused before error => cases h
      | done second =>
          rw [done_append_done] at h
          injection h with h
          exact ⟨first, second, rfl, rfl, h.symm⟩

theorem joined_cons_cons (separator : String) (first second : Rendering)
    (rest : List Rendering) :
    joined separator (first :: second :: rest) =
      first ++ fixed separator ++ joined separator (second :: rest) := rfl

theorem joined_eq_done {separator : String} {renderings : List Rendering} :
    ∀ {template : Template}, joined separator renderings = .done template →
      ∃ templates, renderings = templates.map .done ∧
        template = Template.joined separator templates := by
  induction renderings with
  | nil =>
      intro template h
      injection h with h
      exact ⟨[], rfl, h.symm⟩
  | cons first rest ih =>
      intro template h
      cases rest with
      | nil => exact ⟨[template], by simpa [joined] using h, rfl⟩
      | cons second others =>
          rw [joined_cons_cons] at h
          obtain ⟨front, back, hFront, hBack, rfl⟩ := append_eq_done h
          obtain ⟨head, middle, rfl, hMiddle, rfl⟩ := append_eq_done hFront
          obtain ⟨templates, hTemplates, rfl⟩ := ih hBack
          injection hMiddle with hMiddle
          subst hMiddle
          cases templates with
          | nil => simp at hTemplates
          | cons next tail =>
              refine ⟨head :: next :: tail, ?_, ?_⟩
              · rw [hTemplates]
                rfl
              · simp [Template.joined]

/-- The parts of what has been rendered item by item. -/
theorem joined_map_eq_done {β : Type} {separator : String} {render : β → Rendering}
    {items : List β} {template : Template}
    (h : joined separator (items.map render) = .done template) :
    ∃ templates, List.Forall₂ (fun item part => render item = .done part) items templates ∧
      template = Template.joined separator templates := by
  obtain ⟨templates, hTemplates, rfl⟩ := joined_eq_done h
  refine ⟨templates, ?_, rfl⟩
  rw [← List.forall₂_eq_eq_eq] at hTemplates
  exact List.forall₂_map_right_iff.mp (List.forall₂_map_left_iff.mp hTemplates)

end Rendering

/-! ## Conditions and orders -/

theorem requireFullText_eq_done {dialect : Dialect} {written template : Template}
    (h : requireFullText dialect (.done written) = .done template) :
    dialect = .postgres ∧ template = written := by
  cases dialect with
  | sqlite => cases h
  | postgres => exact ⟨rfl, (Rendering.done.inj h).symm⟩

theorem renderPredicate_any_eq_done {dialect : Dialect} {config : Option String}
    {alternatives : List Predicate} {template : Template}
    (h : renderPredicate dialect config (.any alternatives) = .done template) :
    ∃ templates,
      List.Forall₂ (fun alternative part => renderPredicate dialect config alternative =
        .done part) alternatives templates ∧
      template = [.fixed "("] ++ Template.joined " OR " templates ++ [.fixed ")"] := by
  rw [renderPredicate, renderAlternatives_eq_map] at h
  obtain ⟨front, closing, hFront, hClosing, rfl⟩ := Rendering.append_eq_done h
  obtain ⟨opening, body, hOpening, hBody, rfl⟩ := Rendering.append_eq_done hFront
  obtain ⟨templates, hEach, rfl⟩ := Rendering.joined_map_eq_done hBody
  obtain rfl := Rendering.done.inj hOpening
  obtain rfl := Rendering.done.inj hClosing
  exact ⟨templates, hEach, rfl⟩

/-- What stands behind the expression of a key. -/
def keyEnding (direction : Direction) (nullsLast : Bool) : String :=
  " " ++ direction.keyword ++ (if nullsLast then " NULLS LAST" else "")

theorem renderKey_eq_done {dialect : Dialect} {key : SortKey} {template : Template}
    (h : renderKey dialect key = .done template) :
    ∃ expr, renderExpr dialect key.expr = .done expr ∧
      template = expr ++ [.fixed (keyEnding key.direction key.nullsLast)] := by
  obtain ⟨expr, ending, hExpr, hEnding, rfl⟩ := Rendering.append_eq_done h
  obtain rfl := Rendering.done.inj hEnding
  exact ⟨expr, hExpr, rfl⟩

theorem renderSorting_eq_done {dialect : Dialect} {sorting : Sorting} {template : Template}
    (h : renderSorting dialect sorting = .done template) :
    ∃ templates,
      List.Forall₂ (fun key part => renderKey dialect key = .done part) sorting.keys templates ∧
      template = Template.joined ", " templates :=
  Rendering.joined_map_eq_done h

end FieldSearch.Sql

namespace FieldSearch

/-- Whether a filter leaves a trace in the statement. -/
def Filter.narrows : Filter → Bool
  | .search .always => false
  | _ => true

namespace Filter

/-- Only the search that narrows nothing leaves no trace. -/
theorem eq_of_not_narrows {filter : Filter} (h : filter.narrows = false) :
    filter = .search .always := by
  unfold narrows at h
  split at h
  · rfl
  · cases h

/-- What the search that narrows nothing has, all filters have if those do that leave a trace. -/
theorem forall_narrows_iff {motive : Filter → Prop} (hAlways : motive (.search .always))
    {filters : List Filter} :
    (∀ filter ∈ filters.filter narrows, motive filter) ↔ ∀ filter ∈ filters, motive filter := by
  refine ⟨fun h filter hMem => ?_, fun h filter hMem => h filter (List.mem_filter.mp hMem).1⟩
  cases hNarrows : filter.narrows with
  | true => exact h filter (List.mem_filter.mpr ⟨hMem, hNarrows⟩)
  | false =>
      rw [eq_of_not_narrows hNarrows]
      exact hAlways

/-- What is collected from filters is collected from those that leave a trace, if the search that
narrows nothing gives nothing. -/
theorem flatMap_narrows {β : Type} (collect : Filter → List β)
    (hAlways : collect (.search .always) = []) (filters : List Filter) :
    (filters.filter narrows).flatMap collect = filters.flatMap collect := by
  induction filters with
  | nil => rfl
  | cons filter rest ih =>
      cases hNarrows : filter.narrows with
      | true => simp [hNarrows, ih]
      | false =>
          obtain rfl := eq_of_not_narrows hNarrows
          simp [hNarrows, ih, hAlways]

end Filter

namespace Sql

/-! ## Filters -/

/-- What stands in a statement for a filter that leaves a trace. -/
def filterRendering (dialect : Dialect) (config : Option String) : Filter → Rendering
  | .idIn _ [] => .fixed "1 = 0"
  | .idIn column ids =>
      .done ([.name column, .fixed " IN ("] ++
        Template.joined ", " (ids.map fun id => [.value id]) ++ [.fixed ")"])
  | .search predicate => renderPredicate dialect config predicate
  | .columnEquals column .null => .done [.name column, .fixed " IS NULL"]
  | .columnEquals column value => .done [.name column, .fixed " = ", .value value]

theorem renderFilter_eq (dialect : Dialect) (config : Option String) (filter : Filter) :
    renderFilter dialect config filter =
      if filter.narrows then some (filterRendering dialect config filter) else none := by
  cases filter with
  | idIn column ids => cases ids <;> rfl
  | search predicate => cases predicate <;> rfl
  | columnEquals column value => cases value <;> rfl

theorem filterMap_renderFilter (dialect : Dialect) (config : Option String)
    (filters : List Filter) :
    filters.filterMap (renderFilter dialect config) =
      (filters.filter Filter.narrows).map (filterRendering dialect config) := by
  induction filters with
  | nil => rfl
  | cons filter rest ih =>
      rw [List.filterMap_cons, renderFilter_eq, ih, List.filter_cons]
      cases hNarrows : filter.narrows <;> rfl

/-- The conditions of a selection, from those of its filters. -/
def whereTemplate : List Template → Template
  | [] => []
  | templates => [.fixed " WHERE "] ++ Template.joined " AND " templates

theorem renderWhere_eq_done {dialect : Dialect} {config : Option String} {filters : List Filter}
    {template : Template} (h : renderWhere dialect config filters = .done template) :
    ∃ templates,
      List.Forall₂ (fun filter part => filterRendering dialect config filter = .done part)
        (filters.filter Filter.narrows) templates ∧
      template = whereTemplate templates := by
  rw [renderWhere, filterMap_renderFilter] at h
  cases hKept : filters.filter Filter.narrows with
  | nil =>
      rw [hKept] at h
      exact ⟨[], .nil, (Rendering.done.inj h).symm⟩
  | cons first rest =>
      rw [hKept] at h
      obtain ⟨keyword, conditions, hKeyword, hConditions, rfl⟩ := Rendering.append_eq_done h
      obtain ⟨templates, hEach, rfl⟩ := Rendering.joined_map_eq_done hConditions
      obtain rfl := Rendering.done.inj hKeyword
      cases hEach with
      | cons hFirst hRest => exact ⟨_, .cons hFirst hRest, rfl⟩

/-! ## Selections -/

/-- The order of a selection, from its keys. -/
def orderTemplate : List Template → Template
  | [] => []
  | templates => [.fixed " ORDER BY "] ++ Template.joined ", " templates

theorem renderOrderBy_eq_done {dialect : Dialect} {sorting : Sorting} {template : Template}
    (h : renderOrderBy dialect sorting = .done template) :
    ∃ templates,
      List.Forall₂ (fun key part => renderKey dialect key = .done part) sorting.keys templates ∧
      template = orderTemplate templates := by
  obtain ⟨keys⟩ := sorting
  cases keys with
  | nil => exact ⟨[], .nil, (Rendering.done.inj h).symm⟩
  | cons first rest =>
      obtain ⟨keyword, body, hKeyword, hBody, rfl⟩ := Rendering.append_eq_done h
      obtain ⟨templates, hEach, rfl⟩ := renderSorting_eq_done hBody
      obtain rfl := Rendering.done.inj hKeyword
      cases hEach with
      | cons hFirst hRest => exact ⟨_, .cons hFirst hRest, rfl⟩

/-- The limit of a selection. -/
def limitTemplate : Option Int → Template
  | some limit => [.fixed s!" LIMIT {limit}"]
  | none => []

/-- The offset of a selection. -/
def offsetTemplate (offset : Int) : Template :=
  if 0 < offset then [.fixed s!" OFFSET {offset}"] else []

theorem renderPage_eq (limit : Option Int) (offset : Int) :
    renderPage limit offset = .done (limitTemplate limit ++ offsetTemplate offset) := by
  unfold renderPage limitTemplate offsetTemplate
  by_cases hOffset : 0 < offset
  · rw [if_pos hOffset, if_pos hOffset]
    cases limit <;> rfl
  · rw [if_neg hOffset, if_neg hOffset]
    cases limit <;> rfl

/-- **The parts of a selection.** -/
theorem renderSelect_eq_done {dialect : Dialect} {config : Option String} {select : Select}
    {template : Template} (h : renderSelect dialect config select = .done template) :
    ∃ conditions keys,
      List.Forall₂ (fun filter part => filterRendering dialect config filter = .done part)
        (select.filters.filter Filter.narrows) conditions ∧
      List.Forall₂ (fun key part => renderKey dialect key = .done part)
        select.sorting.keys keys ∧
      template = selectHead select ++ (whereTemplate conditions ++ (orderTemplate keys ++
        (limitTemplate select.limit ++ offsetTemplate select.offset))) := by
  rw [renderSelect, renderPage_eq] at h
  obtain ⟨front, page, hFront, hPage, rfl⟩ := Rendering.append_eq_done h
  obtain ⟨body, order, hBody, hOrder, rfl⟩ := Rendering.append_eq_done hFront
  obtain ⟨head, condition, hHead, hCondition, rfl⟩ := Rendering.append_eq_done hBody
  obtain rfl := Rendering.done.inj hHead
  obtain rfl := Rendering.done.inj hPage
  obtain ⟨conditions, hConditions, rfl⟩ := renderWhere_eq_done hCondition
  obtain ⟨keys, hKeys, rfl⟩ := renderOrderBy_eq_done hOrder
  refine ⟨conditions, keys, hConditions, hKeys, ?_⟩
  simp only [List.append_assoc]

/-- A selection that was rendered is a template that was rendered. -/
theorem Writer.renderSelect_eq_ok {writer : Writer} {select : Select} {fragment : Fragment}
    (h : writer.renderSelect select = .ok fragment) :
    ∃ template, Sql.renderSelect writer.dialect writer.textSearchConfig select = .done template ∧
      fragment = writer.render template := by
  rw [Writer.renderSelect] at h
  cases hRendering : Sql.renderSelect writer.dialect writer.textSearchConfig select with
  | refused before error =>
      rw [hRendering] at h
      cases h
  | done template =>
      rw [hRendering] at h
      exact ⟨template, rfl, (Except.ok.inj h).symm⟩

end Sql
end FieldSearch
