import FieldSearch.Proofs.Sql.Rendering
import Mathlib

/-!
# What a dialect can express

A rendering is refused for one reason only: a clause on words or a rank stands in
it and the dialect has no full text search.  `Expressible` says of a condition, an
order or a selection that it has neither, or that the dialect can do both.  What is
expressible is rendered, and what is not is refused.

The values that are bound, the page and the names do not come into it.

## Main results

* `isDone_append_iff`, `isDone_joined_iff`: a rendering is done if all its parts
  are.
* `isDone_renderPredicate_iff`, `isDone_renderSorting_iff`,
  `exists_renderSelect_iff`: conditions, orders and selections are rendered exactly
  if the dialect can express them.
-/

namespace FieldSearch

open Sql (Dialect Rendering Template Writer Fragment)

/-! ## Expressible conditions and orders -/

/-- The dialect can express the clause. -/
def Clause.Expressible (dialect : Dialect) : Clause → Prop
  | .contains _ _ => True
  | .beginsWords _ _ => dialect.supportsFullText = true

/-- The dialect can express every clause of the condition. -/
def Predicate.Expressible (dialect : Dialect) (predicate : Predicate) : Prop :=
  ∀ clause ∈ predicate.clauses, clause.Expressible dialect

/-- The dialect can express what is compared. -/
def RankExpr.Expressible (dialect : Dialect) : RankExpr → Prop
  | .column _ => True
  | .exactPrefix _ => dialect.supportsFullText = true
  | .matchPosition _ => dialect.supportsFullText = true

/-- The dialect can express every key of the order. -/
def Sorting.Expressible (dialect : Dialect) (sorting : Sorting) : Prop :=
  ∀ key ∈ sorting.keys, key.expr.Expressible dialect

/-- The dialect can express the filter. -/
def Filter.Expressible (dialect : Dialect) : Filter → Prop
  | .search predicate => predicate.Expressible dialect
  | _ => True

/-- The dialect can express every filter and the order of the selection. -/
structure Select.Expressible (dialect : Dialect) (select : Select) : Prop where
  filters : ∀ filter ∈ select.filters, filter.Expressible dialect
  sorting : select.sorting.Expressible dialect

theorem Predicate.expressible_any {dialect : Dialect} {alternatives : List Predicate} :
    (Predicate.any alternatives).Expressible dialect ↔
      ∀ alternative ∈ alternatives, alternative.Expressible dialect := by
  unfold Expressible
  rw [clauses_any]
  constructor
  · intro h alternative hMem clause hClause
    exact h clause (List.mem_flatMap.mpr ⟨alternative, hMem, hClause⟩)
  · intro h clause hClause
    obtain ⟨alternative, hMem, hOf⟩ := List.mem_flatMap.mp hClause
    exact h alternative hMem clause hOf

/-- Whether a selection is expressible does not depend on its page. -/
theorem Select.Expressible.page {dialect : Dialect} {select : Select}
    (h : select.Expressible dialect) (limit offset : Int) :
    (select.page limit offset).Expressible dialect :=
  ⟨h.filters, h.sorting⟩

namespace Sql

/-! ## Renderings without a refusal -/

namespace Rendering

/-- The rendering was not refused. -/
def IsDone (rendering : Rendering) : Prop := ∃ template, rendering = .done template

theorem isDone_done (template : Template) : (Rendering.done template).IsDone := ⟨template, rfl⟩

theorem isDone_fixed (text : String) : (fixed text).IsDone := isDone_done _

theorem isDone_append_iff {left right : Rendering} :
    (left ++ right).IsDone ↔ left.IsDone ∧ right.IsDone := by
  constructor
  · rintro ⟨template, h⟩
    obtain ⟨first, second, hLeft, hRight, -⟩ := append_eq_done h
    exact ⟨⟨first, hLeft⟩, ⟨second, hRight⟩⟩
  · rintro ⟨⟨first, rfl⟩, ⟨second, rfl⟩⟩
    exact isDone_done _

theorem isDone_joined_iff {separator : String} {renderings : List Rendering} :
    (joined separator renderings).IsDone ↔ ∀ rendering ∈ renderings, rendering.IsDone := by
  induction renderings with
  | nil => exact iff_of_true (isDone_done []) (by simp)
  | cons first rest ih =>
      cases rest with
      | nil => exact List.forall_mem_singleton.symm
      | cons second others =>
          rw [joined_cons_cons, isDone_append_iff, isDone_append_iff,
            and_iff_left (isDone_fixed separator), ih]
          exact List.forall_mem_cons.symm

theorem exists_render_iff {writer : Writer} {rendering : Rendering} :
    (∃ fragment, rendering.render writer = .ok fragment) ↔ rendering.IsDone := by
  constructor
  · rintro ⟨fragment, h⟩
    cases rendering with
    | done template => exact isDone_done template
    | refused before error => cases h
  · rintro ⟨template, rfl⟩
    exact ⟨_, rfl⟩

end Rendering

open Rendering

variable {dialect : Dialect} {config : Option String}

theorem isDone_requireFullText_iff {template : Template} :
    (requireFullText dialect (.done template)).IsDone ↔ dialect.supportsFullText = true := by
  constructor
  · rintro ⟨_, h⟩
    rw [(requireFullText_eq_done h).1]
    rfl
  · intro h
    rw [requireFullText, if_pos h]
    exact isDone_done template

/-! ## Conditions -/

theorem isDone_renderClause_iff {clause : Clause} :
    (renderClause dialect config clause).IsDone ↔ clause.Expressible dialect := by
  cases clause with
  | contains field term => exact iff_of_true (isDone_done _) trivial
  | beginsWords field words => exact isDone_requireFullText_iff

/-- **A condition is rendered exactly if the dialect can express all its clauses.** -/
theorem isDone_renderPredicate_iff (predicate : Predicate) :
    (renderPredicate dialect config predicate).IsDone ↔ predicate.Expressible dialect := by
  have hNone : ∀ clause ∈ ([] : List Clause), clause.Expressible dialect := by simp
  induction predicate using Predicate.induct with
  | always => exact iff_of_true (isDone_fixed _) hNone
  | never => exact iff_of_true (isDone_fixed _) hNone
  | single clause => exact isDone_renderClause_iff.trans List.forall_mem_singleton.symm
  | any alternatives ih =>
      rw [renderPredicate, renderAlternatives_eq_map, isDone_append_iff, isDone_append_iff,
        and_iff_left (isDone_fixed ")"), and_iff_right (isDone_fixed "("), isDone_joined_iff,
        List.forall_mem_map, Predicate.expressible_any]
      exact forall₂_congr ih

theorem isDone_filterRendering_iff {filter : Filter} :
    (filterRendering dialect config filter).IsDone ↔ filter.Expressible dialect := by
  cases filter with
  | idIn column ids => cases ids <;> exact iff_of_true (isDone_done _) trivial
  | search predicate => exact isDone_renderPredicate_iff predicate
  | columnEquals column value => cases value <;> exact iff_of_true (isDone_done _) trivial

/-- Filters are rendered exactly if the dialect can express them, whether or not they leave a
trace. -/
theorem isDone_renderWhere_iff {filters : List Filter} :
    (renderWhere dialect config filters).IsDone ↔
      ∀ filter ∈ filters, filter.Expressible dialect := by
  have hConditions : (renderWhere dialect config filters).IsDone ↔
      ∀ filter ∈ filters.filter Filter.narrows, filter.Expressible dialect := by
    rw [renderWhere, filterMap_renderFilter]
    cases hKept : filters.filter Filter.narrows with
    | nil => exact iff_of_true (isDone_done []) (by simp)
    | cons first rest =>
        rw [List.map_cons, isDone_append_iff, and_iff_right (isDone_fixed _), ← List.map_cons,
          isDone_joined_iff, List.forall_mem_map]
        exact forall₂_congr fun filter _ => isDone_filterRendering_iff
  rw [hConditions]
  exact Filter.forall_narrows_iff fun clause hMem => absurd hMem List.not_mem_nil

/-! ## Orders and selections -/

theorem isDone_renderExpr_iff {expr : RankExpr} :
    (renderExpr dialect expr).IsDone ↔ expr.Expressible dialect := by
  cases expr with
  | column name => exact iff_of_true (isDone_done _) trivial
  | exactPrefix pairs => exact isDone_requireFullText_iff
  | matchPosition pairs => exact isDone_requireFullText_iff

/-- **An order is rendered exactly if the dialect can express all its keys.** -/
theorem isDone_renderSorting_iff {sorting : Sorting} :
    (renderSorting dialect sorting).IsDone ↔ sorting.Expressible dialect := by
  rw [renderSorting, isDone_joined_iff, List.forall_mem_map]
  refine forall₂_congr fun key _ => ?_
  rw [renderKey, isDone_append_iff, and_iff_left (isDone_fixed _)]
  exact isDone_renderExpr_iff

theorem isDone_renderOrderBy_iff {sorting : Sorting} :
    (renderOrderBy dialect sorting).IsDone ↔ sorting.Expressible dialect := by
  obtain ⟨keys⟩ := sorting
  cases keys with
  | nil => exact iff_of_true (isDone_done []) fun key hMem => absurd hMem List.not_mem_nil
  | cons first rest =>
      exact isDone_append_iff.trans ((and_iff_right (isDone_fixed _)).trans
        isDone_renderSorting_iff)

/-- **A selection is rendered exactly if the dialect can express it.** -/
theorem exists_renderSelect_iff {writer : Writer} {select : Select} :
    (∃ fragment, writer.renderSelect select = .ok fragment) ↔
      select.Expressible writer.dialect := by
  have hHead : (Rendering.done (selectHead select)).IsDone := isDone_done _
  have hPage : (renderPage select.limit select.offset).IsDone := ⟨_, renderPage_eq _ _⟩
  refine exists_render_iff.trans ?_
  rw [Sql.renderSelect, isDone_append_iff, isDone_append_iff, isDone_append_iff,
    and_iff_left hPage, and_iff_right hHead, isDone_renderWhere_iff, isDone_renderOrderBy_iff]
  exact ⟨fun h => ⟨h.1, h.2⟩, fun h => ⟨h.filters, h.sorting⟩⟩

end Sql
end FieldSearch
