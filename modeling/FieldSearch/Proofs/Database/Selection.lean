import FieldSearch.Proofs.Database.Table
import FieldSearch.Proofs.Search.Predicate
import FieldSearch.Proofs.Sql.Conditions
import Mathlib

/-!
# What a selection gives

A row of a table judges comparisons, and by that every condition accepts some
rows and not others.  Filters are evaluated in another way: in the order of their
ranks, from left to right, until one is not true, and a pattern that is too long
is a fault.  If no pattern is, the two agree: the rows that pass are those that
every filter accepts.

The rows that pass are cut to a page in the order of the sort keys.  With the
primary key alone for a sort key that order is strict, since no two rows have the
same key.

## Main results

* `exists_evalPredicate`, `exists_evalFilter`: conditions are true for the rows
  that they accept.
* `takePage_eq_ok`: a page is cut out of the accepted rows.
* `select_eq_ok`: the rows of a selection.
* `select_pages`: pages of a selection, one after another, are one page.
* `pairwise_sorted`: rows are selected in strictly rising order of their keys.
-/

namespace FieldSearch

open Database (Cell Fault Row Table)

/-! ## Judgements of rows -/

/-- How a row of a table judges comparisons; conditions on words are not expressed. -/
def Database.Table.judgement (table : Table) (row : Row) : Sql.Judgement where
  like _ column pattern :=
    match pattern with
    | .text pattern => ((table.values row column).matchesPattern? pattern).getD none
    | _ => none
  words _ _ _ _ := none
  equals column value := table.equalsParameter row column (Cell.ofValue value)
  isNull column := table.values row column == .null

/-- The pattern of the clause, if it has one, is not too long. -/
def Clause.Short : Clause → Prop
  | .contains _ term =>
      (Text.lowercase (Text.Like.containing term)).utf8ByteSize ≤ Cell.maxPatternBytes
  | .beginsWords _ _ => True

/-- No pattern of the filter is too long. -/
def Filter.Short : Filter → Prop
  | .search predicate => ∀ clause ∈ predicate.clauses, clause.Short
  | _ => True

namespace Database

section

variable {table : Table} {row : Row} {config : Option String}

/-- A row judges a clause by matching the cell of its field. -/
theorem truth_contains (table : Table) (row : Row) (config : Option String)
    (field term : String) :
    ((Clause.contains field term).comparison .sqlite config).truth (table.judgement row) =
      ((table.values row field).matchesPattern? (Text.Like.containing term)).getD none := by
  rw [Clause.comparison, Sql.Comparison.truth, Table.judgement]

theorem exists_evalClause {clause : Clause} (hShort : clause.Short) :
    ∃ truth, evalClause (table.values row) clause = .ok truth ∧
      (truth = some true ↔
        (clause.comparison .sqlite config).truth (table.judgement row) = some true) := by
  cases clause with
  | contains field term =>
      obtain ⟨truth, hMatch⟩ : ∃ truth, (table.values row field).matchesPattern?
          (Text.Like.containing term) = some truth := ⟨_, Cell.matchesPattern?_of_short _ hShort⟩
      refine ⟨truth, by rw [evalClause, hMatch]; rfl, ?_⟩
      rw [truth_contains, hMatch, Option.getD_some]
  | beginsWords field words => exact ⟨none, rfl, Iff.rfl⟩

/-- A choice is true if one of its alternatives is. -/
theorem exists_evalAlternatives {alternatives : List Predicate}
    (hEach : ∀ alternative ∈ alternatives, ∃ truth,
      evalPredicate (table.values row) alternative = .ok truth ∧
        (truth = some true ↔ alternative.Accepts .sqlite config (table.judgement row))) :
    ∃ truth, evalAlternatives (table.values row) alternatives = .ok truth ∧
      (truth = some true ↔
        ∃ alternative ∈ alternatives,
          alternative.Accepts .sqlite config (table.judgement row)) := by
  induction alternatives with
  | nil => exact ⟨some false, rfl, by simp⟩
  | cons first rest ih =>
      obtain ⟨hFirst, hRest⟩ := List.forall_mem_cons.mp hEach
      obtain ⟨head, hHead, hHeadTruth⟩ := hFirst
      obtain ⟨others, hOthers, hOthersTruth⟩ := ih hRest
      simp only [evalAlternatives, hHead, hOthers, List.exists_mem_cons_iff, ← hHeadTruth,
        ← hOthersTruth]
      by_cases hTrue : head = some true
      · exact ⟨some true, by simp [hTrue, bind, Except.bind, pure, Except.pure], by simp [hTrue]⟩
      · exact ⟨either head others, by simp [hTrue, bind, Except.bind, pure, Except.pure],
          Sql.either_eq_true⟩

/-- **A condition is true for the rows that it accepts**, if none of its patterns is too long. -/
theorem exists_evalPredicate (predicate : Predicate)
    (hShort : ∀ clause ∈ predicate.clauses, clause.Short) :
    ∃ truth, evalPredicate (table.values row) predicate = .ok truth ∧
      (truth = some true ↔ predicate.Accepts .sqlite config (table.judgement row)) := by
  induction predicate using Predicate.induct with
  | always => exact ⟨some true, rfl, iff_of_true rfl .always⟩
  | never => exact ⟨some false, rfl, iff_of_false nofun Sql.not_accepts_never⟩
  | single clause =>
      rw [Sql.accepts_single, evalPredicate]
      exact exists_evalClause (hShort clause (by simp [Predicate.clauses]))
  | any alternatives ih =>
      rw [Sql.accepts_any, evalPredicate]
      refine exists_evalAlternatives fun alternative hMem =>
        ih alternative hMem fun clause hClause => ?_
      refine hShort clause ?_
      rw [Predicate.clauses_any]
      exact List.mem_flatMap.mpr ⟨alternative, hMem, hClause⟩

/-- **A filter is true for the rows that it accepts.** -/
theorem exists_evalFilter {filter : Filter} (hShort : filter.Short) :
    ∃ truth, table.evalFilter row filter = .ok truth ∧
      (truth = some true ↔ filter.Accepts .sqlite config (table.judgement row)) := by
  cases filter with
  | search predicate => exact exists_evalPredicate predicate hShort
  | idIn column ids => exact ⟨_, rfl, @Sql.truth_isIn (table.judgement row) column ids⟩
  | columnEquals column value =>
      cases value with
      | null => exact ⟨_, rfl, by simp [Filter.Accepts, Table.judgement]⟩
      | _ => exact ⟨_, rfl, Iff.rfl⟩

theorem exists_accepts {filters : List Filter} (hShort : ∀ filter ∈ filters, filter.Short) :
    ∃ answer, table.accepts row filters = .ok answer ∧
      (answer = true ↔
        ∀ filter ∈ filters, filter.Accepts .sqlite config (table.judgement row)) := by
  induction filters with
  | nil => exact ⟨true, rfl, by simp⟩
  | cons first rest ih =>
      obtain ⟨hFirst, hRest⟩ := List.forall_mem_cons.mp hShort
      obtain ⟨truth, hTruth, hMeaning⟩ := @exists_evalFilter table row config _ hFirst
      obtain ⟨answer, hAnswer, hOthers⟩ := ih hRest
      rw [List.forall_mem_cons, ← hMeaning, ← hOthers]
      by_cases hTrue : truth = some true
      · refine ⟨answer, ?_, by simp [hTrue]⟩
        rw [Table.accepts, hTruth, ← hAnswer, hTrue]
        rfl
      · refine ⟨false, ?_, by simp [hTrue]⟩
        rw [Table.accepts, hTruth]
        simp [hTrue, bind, Except.bind, pure, Except.pure]

end

namespace Table

/-! ## Pages -/

section

variable {accept : Row → Except Fault Bool} {first : Row} {rest : List Row} {limit : Option Nat}

/-- If any row is asked for, it is known whether the first one is accepted. -/
theorem exists_accept_of_takePage {offset : Nat} {taken : List Row} (hLimit : limit ≠ some 0)
    (h : takePage accept offset limit (first :: rest) = .ok taken) :
    ∃ accepted, accept first = .ok accepted := by
  cases offset with
  | zero =>
      rw [takePage.eq_4 _ _ _ _ hLimit] at h
      obtain ⟨accepted, hAccept, -⟩ := bind_eq_ok.mp h
      exact ⟨accepted, hAccept⟩
  | succ offset =>
      rw [takePage.eq_3 _ _ _ _ _ hLimit] at h
      obtain ⟨accepted, hAccept, -⟩ := bind_eq_ok.mp h
      exact ⟨accepted, hAccept⟩

theorem takePage_of_rejected (hLimit : limit ≠ some 0) (hAccept : accept first = .ok false)
    (offset : Nat) :
    takePage accept offset limit (first :: rest) = takePage accept offset limit rest := by
  cases offset with
  | zero =>
      rw [takePage.eq_4 _ _ _ _ hLimit, hAccept]
      rfl
  | succ offset =>
      rw [takePage.eq_3 _ _ _ _ _ hLimit, hAccept]
      rfl

theorem takePage_of_skipped (hLimit : limit ≠ some 0) (hAccept : accept first = .ok true)
    (offset : Nat) :
    takePage accept (offset + 1) limit (first :: rest) = takePage accept offset limit rest := by
  rw [takePage.eq_3 _ _ _ _ _ hLimit, hAccept]
  rfl

theorem takePage_of_taken (hLimit : limit ≠ some 0) (hAccept : accept first = .ok true) :
    takePage accept 0 limit (first :: rest) =
      takePage accept 0 (limit.map (· - 1)) rest >>= fun others => pure (first :: others) := by
  rw [takePage.eq_4 _ _ _ _ hLimit, hAccept]
  rfl

end

/-- **A page is cut out of the accepted rows**, if no row is a fault. -/
theorem takePage_eq_ok {accept : Row → Except Fault Bool} {passes : Row → Bool} {rows : List Row}
    (hAccept : ∀ row ∈ rows, accept row = .ok (passes row)) :
    ∀ offset limit, takePage accept offset (some limit) rows =
      .ok (((rows.filter passes).drop offset).take limit) := by
  induction rows with
  | nil =>
      intro offset limit
      cases limit <;> simp [takePage, pure, Except.pure]
  | cons row rest ih =>
      obtain ⟨hRow, hRest⟩ := List.forall_mem_cons.mp hAccept
      intro offset limit
      cases limit with
      | zero => simp [takePage, pure, Except.pure]
      | succ limit =>
          have hLimit : some (limit + 1) ≠ some 0 := by simp
          cases hPasses : passes row with
          | false =>
              rw [hPasses] at hRow
              rw [List.filter_cons_of_neg (by simp [hPasses]), takePage_of_rejected hLimit hRow]
              exact ih hRest offset (limit + 1)
          | true =>
              rw [hPasses] at hRow
              rw [List.filter_cons_of_pos hPasses]
              cases offset with
              | zero =>
                  rw [takePage_of_taken hLimit hRow]
                  exact bind_eq_ok.mpr ⟨_, ih hRest 0 limit, rfl⟩
              | succ offset =>
                  rw [takePage_of_skipped hLimit hRow]
                  exact ih hRest offset (limit + 1)

/-- **Two pages, one after the other, are one page**, whether or not a row behind them is a
fault. -/
theorem takePage_add {accept : Row → Except Fault Bool} {rows : List Row} :
    ∀ {offset size next : Nat} {left right : List Row},
      takePage accept offset (some size) rows = .ok left →
        takePage accept (offset + size) (some next) rows = .ok right →
          takePage accept offset (some (size + next)) rows = .ok (left ++ right) := by
  induction rows with
  | nil =>
      intro offset size next left right hLeft hRight
      rw [takePage] at hLeft hRight ⊢
      obtain rfl := Except.ok.inj hLeft
      obtain rfl := Except.ok.inj hRight
      rfl
  | cons row rest ih =>
      intro offset size next left right hLeft hRight
      cases size with
      | zero =>
          obtain rfl := Except.ok.inj hLeft
          rw [Nat.zero_add]
          exact hRight
      | succ size =>
          cases next with
          | zero =>
              obtain rfl := Except.ok.inj hRight
              rw [List.append_nil]
              exact hLeft
          | succ next =>
              -- All three pages have room for the row, so each of them looks at it.
              have hSize : some (size + 1) ≠ some 0 := by simp
              have hNext : some (next + 1) ≠ some 0 := by simp
              have hBoth : some (size + 1 + (next + 1)) ≠ some 0 := by simp
              obtain ⟨accepted, hAccept⟩ := exists_accept_of_takePage hSize hLeft
              cases accepted with
              | false =>
                  rw [takePage_of_rejected hSize hAccept] at hLeft
                  rw [takePage_of_rejected hNext hAccept] at hRight
                  rw [takePage_of_rejected hBoth hAccept]
                  exact ih hLeft hRight
              | true =>
                  cases offset with
                  | succ offset =>
                      rw [takePage_of_skipped hSize hAccept] at hLeft
                      rw [Nat.add_right_comm, takePage_of_skipped hNext hAccept] at hRight
                      rw [takePage_of_skipped hBoth hAccept]
                      exact ih hLeft hRight
                  | zero =>
                      -- The second page skips the row that the first one takes.
                      rw [takePage_of_taken hSize hAccept] at hLeft
                      obtain ⟨others, hOthers, hLeft⟩ := bind_eq_ok.mp hLeft
                      obtain rfl := Except.ok.inj hLeft
                      rw [Nat.zero_add, takePage_of_skipped hNext hAccept,
                        ← Nat.zero_add size] at hRight
                      have hAll := ih hOthers hRight
                      rw [takePage_of_taken hBoth hAccept, Option.map_some, Nat.add_right_comm,
                        Nat.add_sub_cancel]
                      exact bind_eq_ok.mpr ⟨_, hAll, rfl⟩

/-! ## Filters by rank -/

theorem filterRank_le (table : Table) (filter : Filter) : table.filterRank filter ≤ 2 := by
  have hColumn : ∀ column, table.columnRank column ≤ 2 := by
    intro column
    unfold columnRank
    split
    · omega
    · split <;> omega
  unfold filterRank
  split
  · omega
  · exact hColumn _
  · exact hColumn _
  · split <;> omega

theorem mem_ofRank {table : Table} {rank : Nat} {filters : List Filter} {filter : Filter} :
    filter ∈ table.ofRank rank filters ↔ filter ∈ filters ∧ table.filterRank filter = rank := by
  rw [ofRank, List.mem_filter, beq_iff_eq]

/-- Filters of all ranks but the first are looked at row by row. -/
theorem mem_ofRank_append {table : Table} {filters : List Filter} {filter : Filter} :
    filter ∈ table.ofRank 1 filters ++ table.ofRank 2 filters ↔
      filter ∈ filters ∧ table.filterRank filter ≠ 0 := by
  have hLe := filterRank_le table filter
  rw [List.mem_append, mem_ofRank, mem_ofRank, ← and_or_left]
  refine and_congr_right fun _ => ?_
  omega

/-- Filters of the first rank hold of no row. -/
def Settled (table : Table) (filters : List Filter) : Prop :=
  ∀ filter ∈ filters, table.filterRank filter = 0 → ∃ column, filter = .idIn column []

/-- What holds of no row is looked at before any row: either it ends the selection, and then no row
is accepted, or no filter is of the first rank. -/
theorem Settled.exists_accepts {table : Table} {config : Option String} {filters : List Filter}
    (hSettled : table.Settled filters) (hShort : ∀ filter ∈ filters, filter.Short) :
    ∃ answer, table.accepts ⟨0, []⟩ (table.ofRank 0 filters) = .ok answer ∧
      (answer = true → ∀ filter ∈ filters, table.filterRank filter ≠ 0) ∧
      (answer = false → ∀ row, ¬ ∀ filter ∈ filters,
        filter.Accepts .sqlite config (table.judgement row)) := by
  obtain ⟨answer, hAnswer, hConstant⟩ := @Database.exists_accepts table ⟨0, []⟩ config
    (table.ofRank 0 filters) fun filter hMem => hShort filter (mem_ofRank.mp hMem).1
  refine ⟨answer, hAnswer, ?_, ?_⟩
  · rintro rfl filter hMem hRank
    obtain ⟨column, rfl⟩ := hSettled filter hMem hRank
    obtain ⟨id, hId, -⟩ := hConstant.mp rfl _ (mem_ofRank.mpr ⟨hMem, hRank⟩)
    cases hId
  · rintro rfl row hAll
    refine Bool.false_ne_true (hConstant.mpr fun filter hMem => ?_)
    obtain ⟨hFilter, hRank⟩ := mem_ofRank.mp hMem
    obtain ⟨column, rfl⟩ := hSettled filter hFilter hRank
    obtain ⟨id, hId, -⟩ := hAll _ hFilter
    cases hId

/-! ## Selections -/

theorem pageLimit_natCast (limit : Nat) : pageLimit (some (limit : Int)) = some limit := by
  rw [pageLimit, if_neg (by omega), Int.toNat_natCast]

/-- **The rows of a selection**: of the rows in order, those that all filters accept, cut to the
page. -/
theorem select_eq_ok {table : Table} {select : Select} {config : Option String} {limit : Nat}
    {passes : Row → Bool} (hShort : ∀ filter ∈ select.filters, filter.Short)
    (hSettled : table.Settled select.filters) (hLimit : select.limit = some (limit : Int))
    (hPasses : ∀ row, passes row = true ↔
      ∀ filter ∈ select.filters, filter.Accepts .sqlite config (table.judgement row)) :
    table.select select =
      .ok ((((table.sorted select).filter passes).drop select.offset.toNat).take limit) := by
  rw [Table.select, hLimit, pageLimit_natCast]
  by_cases hZero : limit = 0
  · rw [if_pos (congrArg some hZero), hZero, List.take_zero]
    rfl
  rw [if_neg (fun h => hZero (Option.some.inj h))]
  obtain ⟨answer, hAnswer, hRanks, hNone⟩ := @hSettled.exists_accepts _ config _ hShort
  rw [hAnswer]
  cases answer with
  | false =>
      have hEmpty : (table.sorted select).filter passes = [] := by
        rw [List.filter_eq_nil_iff]
        exact fun row _ hRow => hNone rfl row ((hPasses row).mp hRow)
      rw [hEmpty, List.drop_nil, List.take_nil]
      rfl
  | true =>
      have hAccept : ∀ row ∈ table.sorted select,
          table.accepts row (table.ofRank 1 select.filters ++ table.ofRank 2 select.filters) =
            .ok (passes row) := by
        intro row _
        obtain ⟨accepted, hAccepted, hAll⟩ := @Database.exists_accepts table row config
          (table.ofRank 1 select.filters ++ table.ofRank 2 select.filters)
          fun filter hMem => hShort filter (mem_ofRank_append.mp hMem).1
        rw [hAccepted, Except.ok.injEq, Bool.eq_iff_iff, hAll, hPasses]
        constructor
        · intro h filter hMem
          exact h filter (mem_ofRank_append.mpr ⟨hMem, hRanks rfl filter hMem⟩)
        · intro h filter hMem
          exact h filter (mem_ofRank_append.mp hMem).1
      have hPage := takePage_eq_ok hAccept select.offset.toNat limit
      show table.pageOf _ select = _
      rw [pageOf, hLimit, pageLimit_natCast, hPage]

/-- A page of a selection: what mentions no column is looked at first, and the rows that pass are
taken from the same order for every page. -/
theorem select_page (table : Table) (select : Select) (limit offset : Nat) :
    table.select (select.page limit offset) =
      if limit = 0 then pure []
      else table.accepts ⟨0, []⟩ (table.ofRank 0 select.filters) >>= fun passes =>
        if passes then
          takePage (fun row => table.accepts row
            (table.ofRank 1 select.filters ++ table.ofRank 2 select.filters))
            offset (some limit) (table.sorted select)
        else pure [] := by
  have hLimit : pageLimit (select.page limit offset).limit = some limit :=
    pageLimit_natCast limit
  unfold Table.select pageOf
  rw [hLimit]
  by_cases hZero : limit = 0
  · rw [if_pos hZero, if_pos (congrArg some hZero)]
  · rw [if_neg hZero, if_neg fun h => hZero (Option.some.inj h)]
    rfl

/-- Two pages of a selection, one after the other, are one page. -/
theorem select_page_add {table : Table} {select : Select} {size next offset : Nat}
    {left right : List Row} (hLeft : table.select (select.page size offset) = .ok left)
    (hRight : table.select (select.page next (offset + size : Nat)) = .ok right) :
    table.select (select.page (size + next : Nat) offset) = .ok (left ++ right) := by
  rw [select_page] at hLeft hRight ⊢
  by_cases hSize : size = 0
  · subst hSize
    obtain rfl := Except.ok.inj hLeft
    rw [Nat.zero_add]
    exact hRight
  by_cases hNext : next = 0
  · subst hNext
    obtain rfl := Except.ok.inj hRight
    rw [List.append_nil]
    exact hLeft
  rw [if_neg hSize] at hLeft
  rw [if_neg hNext] at hRight
  rw [if_neg (by omega)]
  obtain ⟨constant, hConstant, hLeft⟩ := bind_eq_ok.mp hLeft
  obtain ⟨also, hAlso, hRight⟩ := bind_eq_ok.mp hRight
  obtain rfl := Except.ok.inj (hConstant.symm.trans hAlso)
  refine bind_eq_ok.mpr ⟨constant, hConstant, ?_⟩
  cases constant with
  | false =>
      rw [if_neg Bool.false_ne_true] at hLeft hRight
      obtain rfl := Except.ok.inj hLeft
      obtain rfl := Except.ok.inj hRight
      rfl
  | true => exact takePage_add hLeft hRight

/-- **Pages of a selection, one after another, are one page**, for every table. -/
theorem select_pages {table : Table} {select : Select} {size : Nat} {pages : Nat → List Row} :
    ∀ {count : Nat}, (∀ index < count,
        table.select (select.page size (index * size : Nat)) = .ok (pages index)) →
      table.select (select.page (count * size : Nat) (0 : Nat)) =
        .ok ((List.range count).flatMap pages) := by
  intro count
  induction count with
  | zero =>
      intro _
      rw [Nat.zero_mul, select_page, if_pos rfl]
      rfl
  | succ count ih =>
      intro hPages
      have hBefore := ih fun index hIndex => hPages index (by omega)
      have hLast := hPages count (by omega)
      rw [← Nat.zero_add (count * size)] at hLast
      rw [List.range_succ, List.flatMap_append, List.flatMap_singleton, Nat.succ_mul]
      exact select_page_add hBefore hLast

/-! ## The order of rows -/

theorem sorted_perm (table : Table) (select : Select) : (table.sorted select).Perm table.rows := by
  refine (List.mergeSort_perm _ _).trans ?_
  unfold scanned
  split
  · exact List.mergeSort_perm _ _
  · exact .refl _

/-- Sorting needs an order of the items that are sorted, not of all. -/
theorem pairwise_mergeSort_of_forall {β : Type} {p : β → Prop} {le : β → β → Bool}
    (hTrans : ∀ a b c, p a → p b → p c → le a b = true → le b c = true → le a c = true)
    (hTotal : ∀ a b, p a → p b → (le a b || le b a) = true) {items : List β}
    (hItems : ∀ item ∈ items, p item) :
    (items.mergeSort le).Pairwise fun a b => le a b = true := by
  let within : { item // p item } → { item // p item } → Bool := fun a b => le a.1 b.1
  have hMap : ((items.attachWith p hItems).mergeSort within).map Subtype.val =
      items.mergeSort le := by
    rw [List.map_mergeSort (s := le) fun _ _ _ _ => rfl, List.attachWith_map_subtype_val]
  rw [← hMap, List.pairwise_map]
  exact List.pairwise_mergeSort (fun a b c => hTrans a.1 b.1 c.1 a.2 b.2 c.2)
    (fun a b => hTotal a.1 b.1 a.2 b.2) _

end Table

end Database

namespace Schema

variable {schema : Schema} {table : Table}

theorem HasTable.cmpRows_byColumn (hValid : schema.Valid) (hTable : schema.HasTable table)
    (left right : Row) :
    table.cmpRows (.byColumn schema.primaryKey) left right =
      (schema.keyCell left).cmp (schema.keyCell right) := by
  have hKey : table.cmpRows (.byColumn schema.primaryKey) left right =
      (table.values left schema.primaryKey).cmp (table.values right schema.primaryKey) :=
    Ordering.then_eq
  rw [hKey, primaryKey, hTable.value_column hValid.key_mem, hTable.value_column hValid.key_mem]
  rfl

/-- **Rows are selected in strictly rising order of their keys.** -/
theorem HasRows.pairwise_sorted (hValid : schema.Valid) (hTable : schema.HasTable table)
    (hRows : schema.HasRows table) {select : Select}
    (hSorting : select.sorting = .byColumn schema.primaryKey) :
    (table.sorted select).Pairwise fun left right =>
      (schema.keyCell left).cmp (schema.keyCell right) = .lt := by
  have hFits : ∀ row ∈ table.sorted select, schema.key.type.Fits (schema.keyCell row) :=
    fun row hRow => hRows.typed.fits_cell hValid ((table.sorted_perm select).mem_iff.mp hRow)
      hValid.key_mem
  have hOrder : ∀ left right, (table.cmpRows select.sorting left right != .gt) =
      ((schema.keyCell left).cmp (schema.keyCell right)).isLE := by
    intro left right
    rw [hSorting, hTable.cmpRows_byColumn hValid, Bool.eq_iff_iff, bne_iff_ne,
      Ordering.isLE_iff_ne_gt]
  have hRising : (table.sorted select).Pairwise fun left right =>
      ((schema.keyCell left).cmp (schema.keyCell right)).isLE = true := by
    have hSorted : (table.sorted select).Pairwise fun left right =>
        (table.cmpRows select.sorting left right != .gt) = true := by
      refine Table.pairwise_mergeSort_of_forall (p := fun row =>
        schema.key.type.Fits (schema.keyCell row)) (fun a b c ha hb hc => ?_)
        (fun a b ha hb => ?_) fun row hRow => ?_
      · rw [hOrder, hOrder, hOrder]
        exact Cell.isLE_cmp_trans ha hb hc
      · rw [hOrder, hOrder, Cell.cmp_eq_swap ha hb]
        cases (schema.keyCell b).cmp (schema.keyCell a) <;> rfl
      · exact hFits row (List.mem_mergeSort.mpr hRow)
    simpa only [hOrder] using hSorted
  -- That two keys differ can be said of them in either order only because they fit one type.
  have hDistinct : (table.sorted select).Pairwise fun left right =>
      schema.key.type.Fits (schema.keyCell left) → schema.key.type.Fits (schema.keyCell right) →
        (schema.keyCell left).cmp (schema.keyCell right) ≠ .eq := by
    refine ((table.sorted_perm select).pairwise_iff fun {left right} hNe hRight hLeft => ?_).mpr
      (hRows.distinct.imp fun hNe _ _ => hNe)
    rw [Cell.cmp_eq_swap hRight hLeft, Ne, Ordering.swap_eq_eq]
    exact hNe hLeft hRight
  refine (hRising.and hDistinct).imp_of_mem fun {left right} hLeft hRight hBoth => ?_
  have hNe := hBoth.2 (hFits left hLeft) (hFits right hRight)
  cases hCompare : (schema.keyCell left).cmp (schema.keyCell right) with
  | lt => rfl
  | eq => exact absurd hCompare hNe
  | gt => simp [hCompare] at hBoth

end Schema
end FieldSearch
