import FieldSearch.Proofs.Database.Storing
import Mathlib

/-!
# Inserting rows

The rows of a table stand in rising order of their numbers, and no two of them have
the same key.  Inserting a record keeps it so: the next number is one that no row
has, even where there is none behind the last, and a row whose key is taken is
refused.  Nothing else is refused, and the rows that are there stay as they are.

Two rows without a key do not have the same one.

## Main results

* `nextNumber_unused`: the next number is one that no row has.
* `insert_cases`: a record is inserted unless a row has its key.
* `Stored.place`: a table into which a record was inserted is as it was before.
-/

namespace FieldSearch

open Database (Cell Row Table affinityOf)

namespace Database.Table

/-! ## Places -/

theorem place_perm (row : Row) (rows : List Row) : (place row rows).Perm (row :: rows) := by
  induction rows with
  | nil => exact .refl _
  | cons other rest ih =>
      rw [place]
      split
      · exact .refl _
      · exact (ih.cons other).trans (.swap row other rest)

/-- A row with a number of its own keeps the rows in rising order. -/
theorem rising_place {row : Row} {rows : List Row}
    (hRising : rows.Pairwise fun left right => left.number < right.number)
    (hFresh : ∀ other ∈ rows, other.number ≠ row.number) :
    (place row rows).Pairwise fun left right => left.number < right.number := by
  induction rows with
  | nil => exact List.pairwise_singleton _ _
  | cons other rest ih =>
      obtain ⟨hOther, hRest⟩ := List.pairwise_cons.mp hRising
      obtain ⟨hNe, hFreshRest⟩ := List.forall_mem_cons.mp hFresh
      rw [place]
      split
      next hLess =>
        refine List.pairwise_cons.mpr ⟨List.forall_mem_cons.mpr ⟨hLess, ?_⟩, hRising⟩
        exact fun last hLast => Int.lt_trans hLess (hOther last hLast)
      next hNotLess =>
        refine List.pairwise_cons.mpr ⟨fun last hLast => ?_, ih hRest hFreshRest⟩
        rcases mem_place.mp hLast with rfl | hLast
        · omega
        · exact hOther last hLast

/-! ## Numbers -/

/-- Looking for a number that is not in use ends where one is found, or after as many steps as were
allowed. -/
theorem exists_unusedNumber_eq (table : Table) : ∀ (fuel : Nat) (start : Int),
    ∃ skipped : Nat, table.unusedNumber fuel start = start - skipped ∧
      (∀ step < skipped, ∃ row ∈ table.rows, row.number = start - (step : Nat)) ∧
      (skipped = fuel ∨ ∀ row ∈ table.rows, row.number ≠ start - skipped) := by
  intro fuel
  induction fuel with
  | zero =>
      intro start
      exact ⟨0, by simp [unusedNumber], nofun, .inl rfl⟩
  | succ fuel ih =>
      intro start
      rw [unusedNumber]
      by_cases hUsed : (table.rows.any fun row => row.number == start) = true
      · obtain ⟨skipped, hEq, hSkipped, hEnd⟩ := ih (start - 1)
        have hShift : start - 1 - (skipped : Int) = start - (skipped + 1 : Nat) := by omega
        rw [if_pos hUsed]
        refine ⟨skipped + 1, hEq.trans hShift, fun step hStep => ?_, ?_⟩
        · cases step with
          | zero => simpa using hUsed
          | succ step =>
              obtain ⟨row, hRow, hNumber⟩ := hSkipped step (by omega)
              exact ⟨row, hRow, by omega⟩
        · rw [← hShift]
          exact hEnd.imp (congrArg (· + 1)) id
      · rw [if_neg hUsed]
        exact ⟨0, by simp, nofun, .inr (by simpa using hUsed)⟩

/-- **Among as many numbers as there are rows, and one more, one is not in use.** -/
theorem unusedNumber_unused (table : Table) (start : Int) :
    ∀ row ∈ table.rows, row.number ≠ table.unusedNumber table.rows.length start := by
  obtain ⟨skipped, hEq, hSkipped, hEnd⟩ :=
    table.exists_unusedNumber_eq table.rows.length start
  rw [hEq]
  rcases hEnd with rfl | hUnused
  · intro row hRow hNumber
    -- Then all of the numbers that were tried are in use, and they are more than the rows.
    let tried : List Int :=
      (List.range (table.rows.length + 1)).map fun step : Nat => start - (step : Int)
    have hNodup : tried.Nodup :=
      (List.nodup_map_iff fun _ _ h => by simpa using h).mpr List.nodup_range
    have hUsed : tried ⊆ table.rows.map Row.number := by
      intro number hTried
      obtain ⟨step, hStep, rfl⟩ := List.mem_map.mp hTried
      rcases Nat.lt_succ_iff_lt_or_eq.mp (List.mem_range.mp hStep) with hLess | rfl
      · obtain ⟨other, hOther, hSame⟩ := hSkipped step hLess
        exact List.mem_map.mpr ⟨other, hOther, hSame⟩
      · exact List.mem_map.mpr ⟨row, hRow, hNumber⟩
    have hLength := (List.subperm_of_subset hNodup hUsed).length_le
    simp [tried] at hLength
  · exact hUnused

/-- **The next number is one that no row has.** -/
theorem nextNumber_unused {table : Table}
    (hRising : table.rows.Pairwise fun left right => left.number < right.number) :
    ∀ row ∈ table.rows, row.number ≠ table.nextNumber := by
  unfold nextNumber
  split
  next hNone =>
    rw [List.getLast?_eq_none_iff.mp hNone]
    exact nofun
  next last hLast =>
    split
    · intro row hRow
      have hLe : row.number ≤ last.number := by
        obtain ⟨before, hRows⟩ := List.getLast?_eq_some_iff.mp hLast
        rw [hRows] at hRow hRising
        rcases List.mem_append.mp hRow with hBefore | hSame
        · have hBoth := (List.pairwise_append.mp hRising).2.2 row hBefore last
          exact Int.le_of_lt (hBoth (List.mem_singleton_self last))
        · rw [List.mem_singleton.mp hSame]
      omega
    · exact table.unusedNumber_unused _

end Database.Table

namespace Schema

variable {schema : Schema} {table : Table} {record : Record} {statement : Insert}

/-! ## Rows with keys -/

/-- Two rows have the same key; rows without one do not. -/
def SameKey (schema : Schema) (left right : Row) : Prop :=
  schema.keyCell left ≠ .null ∧ (schema.keyCell left).cmp (schema.keyCell right) = .eq

/-- The rows of the table are records of the type, in rising order of their numbers, and no two of
them have the same key. -/
structure Stored (schema : Schema) (table : Table) : Prop extends schema.Typed table where
  rising : table.rows.Pairwise fun left right => left.number < right.number
  distinct : table.rows.Pairwise fun left right => ¬ schema.SameKey left right

theorem stored_of_rows_eq_nil (hRows : table.rows = []) : schema.Stored table := by
  have hNone : ∀ row, row ∉ table.rows := by
    rw [hRows]
    exact fun row => List.not_mem_nil
  refine ⟨⟨fun row hRow => absurd hRow (hNone row), fun _ row hRow => absurd hRow (hNone row)⟩,
    ?_, ?_⟩
  · rw [hRows]
    exact .nil
  · rw [hRows]
    exact .nil

theorem sameKey_comm {left right : Row} (hLeft : schema.key.type.Fits (schema.keyCell left))
    (hRight : schema.key.type.Fits (schema.keyCell right)) :
    schema.SameKey left right ↔ schema.SameKey right left := by
  have hSwap : (schema.keyCell left).cmp (schema.keyCell right) = .eq ↔
      (schema.keyCell right).cmp (schema.keyCell left) = .eq := by
    rw [Cell.cmp_eq_swap hLeft hRight, Ordering.swap_eq_eq]
  have hNull : (schema.keyCell left).cmp (schema.keyCell right) = .eq →
      (schema.keyCell left = .null ↔ schema.keyCell right = .null) := by
    intro hEq
    constructor
    · intro hNull
      rw [hSwap, hNull] at hEq
      exact Cell.cmp_null_eq_eq.mp hEq
    · intro hNull
      rw [hNull] at hEq
      exact Cell.cmp_null_eq_eq.mp hEq
  constructor
  · intro h
    exact ⟨mt (hNull h.2).mpr h.1, hSwap.mp h.2⟩
  · intro h
    exact ⟨mt (hNull (hSwap.mpr h.2)).mp h.1, hSwap.mpr h.2⟩

/-- That no two rows have the same key can be said of them in any order. -/
theorem pairwise_sameKey_of_perm {rows others : List Row} (hPerm : rows.Perm others)
    (hFits : ∀ row ∈ rows, schema.key.type.Fits (schema.keyCell row))
    (hRows : rows.Pairwise fun left right => ¬ schema.SameKey left right) :
    others.Pairwise fun left right => ¬ schema.SameKey left right := by
  have hFitting : rows.Pairwise fun left right => schema.key.type.Fits (schema.keyCell left) →
      schema.key.type.Fits (schema.keyCell right) → ¬ schema.SameKey left right :=
    hRows.imp fun hNot _ _ => hNot
  have hOthers := (hPerm.pairwise_iff fun {left right} hNot hRight hLeft => by
    rw [sameKey_comm hRight hLeft]
    exact hNot hLeft hRight).mp hFitting
  refine hOthers.imp_of_mem fun {left right} hLeft hRight hNot => ?_
  exact hNot (hFits left (hPerm.mem_iff.mpr hLeft)) (hFits right (hPerm.mem_iff.mpr hRight))

/-- A row is determined by its key, if it has one. -/
theorem Stored.row_ext (hValid : schema.Valid) (hStored : schema.Stored table) {left right : Row}
    (hLeft : left ∈ table.rows) (hRight : right ∈ table.rows)
    (hNull : schema.keyCell left ≠ .null) (hSame : schema.keyCell left = schema.keyCell right) :
    left = right := by
  let differ : Row → Row → Prop := fun left right =>
    schema.keyCell left = schema.keyCell right → schema.keyCell left = .null
  have hSymm : Std.Symm differ := ⟨fun _ _ hDiffer hSame => hSame.trans (hDiffer hSame.symm)⟩
  have hDiffer : table.rows.Pairwise differ := by
    refine hStored.distinct.imp_of_mem fun {first second} hFirst _ hNot hEq => ?_
    by_contra hSome
    refine hNot ⟨hSome, ?_⟩
    rw [← hEq]
    exact Cell.cmp_self (hStored.fits_keyCell hValid hFirst)
  by_contra hNe
  exact hNull (hDiffer.forall hLeft hRight hNe hSame)

/-! ## The row of a record -/

/-- A column stands in its place among the cells. -/
theorem cell_of_cells (hValid : schema.Valid) {row : Row} {cells : Column → Cell}
    (hCells : row.cells = schema.columns.map cells) {column : Column}
    (hMem : column ∈ schema.columns) : schema.cell row column.name = cells column := by
  rw [cell, hCells, List.getD_eq_getElem?_getD, List.getElem?_map, hValid.getElem?_idxOf hMem]
  rfl

theorem keyCell_rowOf (hValid : schema.Valid) (record : Record) (number : Int) :
    schema.keyCell (schema.rowOf record number) =
      if schema.keyIsNumber then .integer number
      else schema.key.type.stored (record.given schema.key) := by
  rw [keyCell, primaryKey, cell_of_cells hValid rfl hValid.key_mem, beq_self_eq_true,
    Bool.and_true]

/-- **Every cell of the row fits its column.** -/
theorem fits_rowOf (record : Record) (number : Int) :
    List.Forall₂ (fun column cell => column.type.Fits cell) schema.columns
      (schema.rowOf record number).cells := by
  rw [rowOf, List.forall₂_map_right_iff, List.forall₂_same]
  intro column hMem
  split
  next hKey =>
    obtain ⟨hNumber, hEq⟩ := Bool.and_eq_true_iff.mp hKey
    obtain rfl := beq_iff_eq.mp hEq
    exact fits_integer (beq_iff_eq.mp hNumber) number
  · exact column.type.fits_stored _

/-- A key that is given and is the number of the row is the number under which it is stored. -/
theorem integer_numberFor (hNumber : schema.keyIsNumber = true)
    (hKey : schema.key.type.stored (record.given schema.key) ≠ .null) :
    Cell.integer (schema.numberFor table record) =
      schema.key.type.stored (record.given schema.key) := by
  obtain ⟨number, hStored, -⟩ := convert_integer_of_fits (beq_iff_eq.mp hNumber)
    (schema.key.type.fits_stored (record.given schema.key)) hKey
  rw [numberFor, hNumber, hStored]

/-- If the key is given, every column keeps what it was given. -/
theorem cells_nextRow (hKey : schema.key.type.stored (record.given schema.key) ≠ .null) :
    (schema.nextRow table record).cells =
      schema.columns.map fun column => column.type.stored (record.given column) := by
  rw [nextRow, rowOf]
  refine List.map_congr_left fun column _ => ?_
  split
  next hBoth =>
    obtain ⟨hNumber, hEq⟩ := Bool.and_eq_true_iff.mp hBoth
    obtain rfl := beq_iff_eq.mp hEq
    exact integer_numberFor hNumber hKey
  · rfl

/-! ## Inserting a record -/

theorem HasTable.isTaken_iff (hTable : schema.HasTable table) (row : Row) :
    table.isTaken (schema.keyCell row) = true ↔ ∃ other ∈ table.rows, schema.SameKey other row := by
  rw [Table.isTaken, List.any_eq_true]
  refine exists_congr fun other => and_congr_right fun _ => ?_
  rw [beq_iff_eq, hTable.keyOf_eq, Cell.equals_none_eq_true, SameKey]

/-- If keys are numbers, rows with one key are rows with one number. -/
theorem Stored.sameKey_iff (hValid : schema.Valid) (hTable : schema.HasTable table)
    (hStored : schema.Stored table) (hNumber : schema.keyIsNumber = true) {other : Row}
    (hOther : other ∈ table.rows) :
    schema.SameKey other (schema.nextRow table record) ↔
      other.number = (schema.nextRow table record).number := by
  have hKey : schema.keyCell (schema.nextRow table record) =
      .integer (schema.nextRow table record).number := by
    rw [nextRow, keyCell_rowOf hValid, if_pos hNumber]
    rfl
  have hOtherKey := hStored.numbered ((hTable.keyIsNumber_eq hValid).trans hNumber) other hOther
  rw [SameKey, hOtherKey, hKey, Cell.cmp, compare_eq_iff_eq]
  exact and_iff_right (by simp)

/-- **A record is inserted unless a row has its key.** -/
theorem Stored.insert_cases (hValid : schema.Valid) (hTable : schema.HasTable table)
    (hStored : schema.Stored table) (h : schema.insertion record = .ok statement) :
    let row := schema.nextRow table record
    ((∀ other ∈ table.rows, other.number ≠ row.number ∧ ¬ schema.SameKey other row) ∧
        table.insert statement =
          .ok (row.number, { table with rows := Table.place row table.rows })) ∨
      ((∃ other ∈ table.rows, schema.SameKey other row) ∧
        table.insert statement = .error (.keyExists table.name table.keyName)) := by
  intro row
  rw [hTable.insert_eq hValid h]
  cases hNumber : schema.keyIsNumber with
  | true =>
      -- The key is the number of its row, so one is in use just if the other is.
      have hSame (other : Row) (hOther : other ∈ table.rows) :
          schema.SameKey other row ↔ other.number = row.number :=
        hStored.sameKey_iff hValid hTable hNumber hOther
      by_cases hUsed : (table.rows.any fun other => other.number == row.number) = true
      · rw [if_pos hUsed]
        obtain ⟨other, hOther, hEq⟩ := List.any_eq_true.mp hUsed
        exact .inr ⟨⟨other, hOther, (hSame other hOther).mpr (beq_iff_eq.mp hEq)⟩, rfl⟩
      · rw [if_neg hUsed]
        refine .inl ⟨fun other hOther => ?_, rfl⟩
        have hNe : other.number ≠ row.number := fun hEq =>
          hUsed (List.any_eq_true.mpr ⟨other, hOther, beq_iff_eq.mpr hEq⟩)
        exact ⟨hNe, mt (hSame other hOther).mp hNe⟩
  | false =>
      -- The key stands beside the number, which is new whatever the key is.
      have hNext : row.number = table.nextNumber := by
        show schema.numberFor table record = _
        rw [numberFor, hNumber]
      have hUnused : ∀ other ∈ table.rows, other.number ≠ row.number := by
        rw [hNext]
        exact Table.nextNumber_unused hStored.rising
      have hFresh : ¬ (table.rows.any fun other => other.number == row.number) = true := by
        simpa using hUnused
      rw [if_neg hFresh]
      by_cases hTaken : table.isTaken (schema.keyCell row) = true
      · rw [if_pos (by rw [hTaken]; rfl)]
        exact .inr ⟨(hTable.isTaken_iff row).mp hTaken, rfl⟩
      · rw [if_neg (by simpa using hTaken)]
        refine .inl ⟨fun other hOther => ⟨hUnused other hOther, fun hSame => ?_⟩, rfl⟩
        exact hTaken ((hTable.isTaken_iff row).mpr ⟨other, hOther, hSame⟩)

theorem Typed.place (hValid : schema.Valid) (hTable : schema.HasTable table)
    (hTyped : schema.Typed table) (record : Record) (number : Int) :
    schema.Typed { table with rows := Table.place (schema.rowOf record number) table.rows } where
  fits row hRow := by
    rcases Table.mem_place.mp hRow with rfl | hRow
    · exact fits_rowOf record number
    · exact hTyped.fits row hRow
  numbered hNumber row hRow := by
    rcases Table.mem_place.mp hRow with rfl | hRow
    · have hKeyIsNumber : schema.keyIsNumber = true :=
        (hTable.keyIsNumber_eq hValid).symm.trans hNumber
      rw [keyCell_rowOf hValid, hKeyIsNumber, if_pos rfl]
      rfl
    · exact hTyped.numbered hNumber row hRow

/-- **A table into which a record was inserted is as it was before.** -/
theorem Stored.place (hValid : schema.Valid) (hTable : schema.HasTable table)
    (hStored : schema.Stored table) {number : Int}
    (hFresh : ∀ other ∈ table.rows, other.number ≠ number ∧
      ¬ schema.SameKey other (schema.rowOf record number)) :
    schema.Stored { table with rows := Table.place (schema.rowOf record number) table.rows } := by
  have hTyped := hStored.toTyped.place hValid hTable record number
  have hPerm := Table.place_perm (schema.rowOf record number) table.rows
  have hFits : ∀ row ∈ schema.rowOf record number :: table.rows,
      schema.key.type.Fits (schema.keyCell row) :=
    fun row hRow => hTyped.fits_keyCell hValid (hPerm.mem_iff.mpr hRow)
  obtain ⟨hNew, hOld⟩ := List.forall_mem_cons.mp hFits
  refine ⟨hTyped, Table.rising_place hStored.rising fun other hOther => (hFresh other hOther).1,
    pairwise_sameKey_of_perm hPerm.symm hFits (List.pairwise_cons.mpr ⟨?_, hStored.distinct⟩)⟩
  intro other hOther
  rw [sameKey_comm hNew (hOld other hOther)]
  exact (hFresh other hOther).2

end Schema
end FieldSearch
