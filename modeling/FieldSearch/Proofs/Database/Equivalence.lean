import FieldSearch.Database.Selection
import Mathlib

/-!
# Filters that cannot be told apart

What a selection gives depends on its filters in three ways: on their truth for each row,
on when they are looked at, and on the columns that they mention, since these decide
whether the keys alone are read.  Filters that agree in all of it can be put in each
other's place, and what is selected stays the same to the last fault.

## Main results

* `alike_search`: conditions on the same fields that are true alike.
* `select_congr`: selections whose filters cannot be told apart give the same rows.
-/

namespace FieldSearch.Database

/-- Two filters that no table tells apart. -/
structure Alike (left right : Filter) : Prop where
  truth : ∀ values equals, evalFilter values equals left = evalFilter values equals right
  rank : ∀ table : Table, table.filterRank left = table.filterRank right
  names : Table.filterNames left = Table.filterNames right

theorem Alike.refl (filter : Filter) : Alike filter filter :=
  ⟨fun _ _ => rfl, fun _ => rfl, rfl⟩

/-- Two conditions are alike that are true alike and have the same fields in their clauses. -/
theorem alike_search {left right : Predicate}
    (hTruth : ∀ values, evalPredicate values left = evalPredicate values right)
    (hFields : left.clauses.map Clause.field = right.clauses.map Clause.field) :
    Alike (.search left) (.search right) := by
  refine ⟨fun values equals => hTruth values, fun table => ?_, hFields⟩
  have hAll : ∀ predicate : Predicate,
      (predicate.clauses.all fun clause => table.isLiteral clause.field) =
        (predicate.clauses.map Clause.field).all table.isLiteral := by
    intro predicate
    rw [List.all_map]
    rfl
  rw [Table.filterRank, Table.filterRank, hAll, hAll, hFields]

namespace Table

variable {table : Table} {lefts rights : List Filter}

theorem accepts_congr (h : List.Forall₂ Alike lefts rights) (row : Row) :
    table.accepts row lefts = table.accepts row rights := by
  induction h with
  | nil => rfl
  | cons hFirst _ ih =>
      rw [accepts, accepts, evalFilter, evalFilter, hFirst.truth, ih]

/-- Filters that cannot be told apart are looked at at the same time. -/
theorem ofRank_congr (h : List.Forall₂ Alike lefts rights) (rank : Nat) :
    List.Forall₂ Alike (table.ofRank rank lefts) (table.ofRank rank rights) := by
  induction h with
  | nil => exact .nil
  | cons hFirst hRest ih =>
      rw [ofRank, ofRank, List.filter_cons, List.filter_cons, hFirst.rank]
      split
      · exact .cons hFirst ih
      · exact ih

theorem filterNames_congr (h : List.Forall₂ Alike lefts rights) :
    lefts.flatMap filterNames = rights.flatMap filterNames := by
  induction h with
  | nil => rfl
  | cons hFirst _ ih => rw [List.flatMap_cons, List.flatMap_cons, hFirst.names, ih]

/-- The rows are come upon in the same order. -/
theorem sorted_congr (h : List.Forall₂ Alike lefts rights) (select : Select) :
    table.sorted { select with filters := lefts } =
      table.sorted { select with filters := rights } := by
  have hNames : selectNames { select with filters := lefts } =
      selectNames { select with filters := rights } := by
    rw [selectNames, selectNames, filterNames_congr h]
  have hKeys : table.needsOnlyKeys { select with filters := lefts } =
      table.needsOnlyKeys { select with filters := rights } := by
    rw [needsOnlyKeys, needsOnlyKeys, hNames]
  rw [sorted, sorted, scanned, scanned, hKeys]

/-- **Selections whose filters cannot be told apart give the same rows**, or the same fault. -/
theorem select_congr (h : List.Forall₂ Alike lefts rights) (select : Select) :
    table.select { select with filters := lefts } =
      table.select { select with filters := rights } := by
  have hFirst : table.accepts ⟨0, []⟩ (table.ofRank 0 lefts) =
      table.accepts ⟨0, []⟩ (table.ofRank 0 rights) :=
    accepts_congr (ofRank_congr h 0) ⟨0, []⟩
  have hEach : (fun row => table.accepts row (table.ofRank 1 lefts ++ table.ofRank 2 lefts)) =
      fun row => table.accepts row (table.ofRank 1 rights ++ table.ofRank 2 rights) :=
    funext (accepts_congr (List.rel_append (ofRank_congr h 1) (ofRank_congr h 2)))
  rw [Table.select, Table.select]
  simp only [pageOf, hFirst, hEach, sorted_congr h select]

end Table
end FieldSearch.Database
