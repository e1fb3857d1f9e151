import FieldSearch.Proofs.Database.Selection
import Mathlib

/-!
# What selected rows have passed

A row that is selected from a table has passed every filter on a column, whatever
the other filters are, in whatever order they are looked at, and whatever the rows
of the table are.  A filter that is looked at before any row is one on a name that
stands for no column; what it is for one row it is for all.

Nothing is assumed here of patterns or of the other filters: if one of them is a
fault, no row is selected.

## Main results

* `mem_takePage`: a page has rows that were accepted.
* `accepts_of_mem_select`: a selected row has passed every filter on a column.
-/

namespace FieldSearch

/-- The filter is on a column, and not a search. -/
def Filter.OnColumn : Filter → Prop
  | .search _ => False
  | _ => True

theorem Filter.OnColumn.short {filter : Filter} (h : filter.OnColumn) : filter.Short := by
  cases filter with
  | search predicate => exact h.elim
  | idIn column ids => trivial
  | columnEquals column value => trivial

namespace Database

namespace Table

variable {table : Table}

/-- What becomes of the first row of a page: nothing is taken any more, or the row is passed over,
or it is accepted and taken. -/
theorem takePage_cons_eq_ok {accept : Row → Except Fault Bool} {offset : Nat} {limit : Option Nat}
    {first : Row} {rest taken : List Row}
    (h : takePage accept offset limit (first :: rest) = .ok taken) :
    taken = [] ∨
      (∃ offset limit, takePage accept offset limit rest = .ok taken) ∨
      accept first = .ok true ∧ ∃ limit others, takePage accept 0 limit rest = .ok others ∧
        taken = first :: others := by
  by_cases hLimit : limit = some 0
  · subst hLimit
    exact .inl (Except.ok.inj h).symm
  obtain ⟨accepted, hAccept⟩ := exists_accept_of_takePage hLimit h
  cases accepted with
  | false =>
      rw [takePage_of_rejected hLimit hAccept] at h
      exact .inr (.inl ⟨offset, limit, h⟩)
  | true =>
      cases offset with
      | succ offset =>
          rw [takePage_of_skipped hLimit hAccept] at h
          exact .inr (.inl ⟨offset, limit, h⟩)
      | zero =>
          rw [takePage_of_taken hLimit hAccept] at h
          obtain ⟨others, hOthers, h⟩ := bind_eq_ok.mp h
          exact .inr (.inr ⟨hAccept, _, others, hOthers, (Except.ok.inj h).symm⟩)

/-- **A page has rows that were accepted.** -/
theorem mem_takePage {accept : Row → Except Fault Bool} {rows : List Row} :
    ∀ {offset : Nat} {limit : Option Nat} {taken : List Row},
      takePage accept offset limit rows = .ok taken →
        ∀ row ∈ taken, row ∈ rows ∧ accept row = .ok true := by
  induction rows with
  | nil =>
      intro offset limit taken h row hMem
      rw [takePage] at h
      obtain rfl := Except.ok.inj h
      cases hMem
  | cons first rest ih =>
      intro offset limit taken h row hMem
      rcases takePage_cons_eq_ok h with rfl | ⟨offset, limit, hLater⟩ |
        ⟨hAccept, limit, others, hOthers, rfl⟩
      · cases hMem
      · obtain ⟨hRow, hAccepted⟩ := ih hLater row hMem
        exact ⟨List.mem_cons_of_mem _ hRow, hAccepted⟩
      · rcases List.mem_cons.mp hMem with rfl | hRest
        · exact ⟨List.mem_cons_self, hAccept⟩
        · obtain ⟨hRow, hAccepted⟩ := ih hOthers row hRest
          exact ⟨List.mem_cons_of_mem _ hRow, hAccepted⟩

/-- A row that is accepted makes every filter true. -/
theorem evalFilter_of_accepts {row : Row} {filters : List Filter}
    (h : table.accepts row filters = .ok true) :
    ∀ filter ∈ filters, table.evalFilter row filter = .ok (some true) := by
  induction filters with
  | nil => simp
  | cons first rest ih =>
      rw [accepts] at h
      obtain ⟨truth, hTruth, h⟩ := bind_eq_ok.mp h
      by_cases hTrue : truth = some true
      · rw [if_pos hTrue] at h
        exact List.forall_mem_cons.mpr ⟨hTrue ▸ hTruth, ih h⟩
      · rw [if_neg hTrue] at h
        cases h

/-! ## Filters on a name that stands for no column -/

/-- What stands for no column is the same in every row. -/
theorem evalFilter_of_literal {column text : String}
    (hLiteral : table.resolve column = .literal text) (row other : Row) :
    (∀ ids, table.evalFilter row (.idIn column ids) = table.evalFilter other (.idIn column ids)) ∧
      ∀ value, table.evalFilter row (.columnEquals column value) =
        table.evalFilter other (.columnEquals column value) := by
  have hNumber : table.isNumberTarget (.literal text) = false := by simp [isNumberTarget]
  have hEquals : table.equalsParameter row column = table.equalsParameter other column := by
    funext parameter
    simp only [equalsParameter, hLiteral, hNumber, Bool.false_eq_true, if_false, Reference.value]
  have hValue : table.values row column = table.values other column := by
    rw [values, values, hLiteral]
    rfl
  constructor
  · intro ids
    simp only [evalFilter, Database.evalFilter, hEquals]
  · intro value
    cases value with
    | null => simp only [evalFilter, Database.evalFilter, hValue]
    | _ => simp only [evalFilter, Database.evalFilter, hEquals]

theorem exists_literal_of_columnRank {column : String} (h : table.columnRank column = 0) :
    ∃ text, table.resolve column = .literal text := by
  unfold columnRank at h
  split at h
  · next text hLiteral => exact ⟨text, hLiteral⟩
  · split at h <;> cases h

/-- **A filter on a column that is looked at before any row is the same for every row.** -/
theorem evalFilter_of_rank_zero {filter : Filter} (hOn : filter.OnColumn)
    (hRank : table.filterRank filter = 0) (row other : Row) :
    table.evalFilter row filter = table.evalFilter other filter := by
  cases filter with
  | search predicate => exact hOn.elim
  | idIn column ids =>
      cases ids with
      | nil => rfl
      | cons first rest =>
          obtain ⟨text, hLiteral⟩ := exists_literal_of_columnRank hRank
          exact (evalFilter_of_literal hLiteral row other).1 _
  | columnEquals column value =>
      obtain ⟨text, hLiteral⟩ := exists_literal_of_columnRank hRank
      exact (evalFilter_of_literal hLiteral row other).2 _

/-! ## Selections -/

/-- **A selected row is in the table and has passed every filter on a column.** -/
theorem accepts_of_mem_select {select : Select} {rows : List Row}
    (h : table.select select = .ok rows) {row : Row} (hRow : row ∈ rows) :
    row ∈ table.rows ∧ ∀ filter ∈ select.filters, filter.OnColumn →
      ∀ config, filter.Accepts .sqlite config (table.judgement row) := by
  unfold Table.select at h
  split at h
  · obtain rfl := Except.ok.inj h
    cases hRow
  obtain ⟨constant, hConstant, h⟩ := bind_eq_ok.mp h
  cases constant with
  | false =>
      obtain rfl := Except.ok.inj h
      cases hRow
  | true =>
      obtain ⟨hMem, hAccepted⟩ := mem_takePage h row hRow
      refine ⟨(table.sorted_perm select).mem_iff.mp hMem, fun filter hFilter hOn config => ?_⟩
      have hTrue : table.evalFilter row filter = .ok (some true) := by
        by_cases hRank : table.filterRank filter = 0
        · rw [evalFilter_of_rank_zero hOn hRank row ⟨0, []⟩]
          exact evalFilter_of_accepts hConstant filter (mem_ofRank.mpr ⟨hFilter, hRank⟩)
        · exact evalFilter_of_accepts hAccepted filter (mem_ofRank_append.mpr ⟨hFilter, hRank⟩)
      obtain ⟨truth, hEval, hMeaning⟩ := @exists_evalFilter table row config filter hOn.short
      rw [hTrue] at hEval
      exact hMeaning.mp (Except.ok.inj hEval).symm

end Table
end Database
end FieldSearch
