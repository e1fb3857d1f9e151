import FieldSearch.Proofs.Text.Matching
import FieldSearch.RecordId
import FieldSearch.Store.Basic
import Mathlib

/-!
# Cells of a type

A cell fits a type if it is null or of the kind in which values of the type are
stored.  Cells that fit the same type are ordered linearly, null first, which
cells of any kind need not be: an integer and a real number are compared by
another rule than two real numbers.

Nothing is converted when a cell of a column is compared with a value of the
type of the column, so the two are equal if the order says so.

## Main results

* `isLE_cmp_trans`, `cmp_eq_swap`: the order of cells that fit one type.
* `equals_eq_true`: equality with a value of the type of the column.
* `read?_of_fits`: a cell that fits can be read.
-/

namespace FieldSearch

open Database (Cell affinityOf)

/-- The cells that a column of a type can hold. -/
inductive ColumnType.Fits : ColumnType → Cell → Prop where
  | null (type : ColumnType) : Fits type .null
  | text (value : String) : Fits .text (.text value)
  | integer (value : Int) : Fits .integer (.integer value)
  | float (value : Number.Binary64) : Fits .float (.real value)
  | boolean (value : Int) : Fits .boolean (.integer value)

namespace Database.Cell

/-! ## The order -/

/-- The text of a cell, if it is one. -/
def text? : Cell → Option String
  | .text value => some value
  | _ => none

/-- An integer by which numbers of one kind are ordered, if the cell is a number. -/
def amount? : Cell → Option Int
  | .integer value => some value
  | .real value => some value.orderKey
  | _ => none

variable {type : ColumnType} {a b c : Cell}

theorem cmp_of_fits_text (ha : ColumnType.text.Fits a) (hb : ColumnType.text.Fits b) :
    a.cmp b = compare a.text? b.text? := by
  cases ha <;> cases hb <;> rfl

theorem cmp_of_fits_number (hType : type ≠ .text) (ha : type.Fits a) (hb : type.Fits b) :
    a.cmp b = compare a.amount? b.amount? := by
  cases ha with
  | text => exact absurd rfl hType
  | null =>
      cases hb with
      | text => exact absurd rfl hType
      | _ => rfl
  | _ => cases hb <;> rfl

theorem cmp_eq_swap (ha : type.Fits a) (hb : type.Fits b) : a.cmp b = (b.cmp a).swap := by
  by_cases hType : type = .text
  · subst hType
    rw [cmp_of_fits_text ha hb, cmp_of_fits_text hb ha]
    exact Std.OrientedCmp.eq_swap
  · rw [cmp_of_fits_number hType ha hb, cmp_of_fits_number hType hb ha]
    exact Std.OrientedCmp.eq_swap

theorem cmp_self (ha : type.Fits a) : a.cmp a = .eq := by
  have hSwap := cmp_eq_swap ha ha
  cases hCmp : a.cmp a with
  | eq => rfl
  | _ =>
      rw [hCmp] at hSwap
      cases hSwap

theorem isLE_cmp_trans (ha : type.Fits a) (hb : type.Fits b) (hc : type.Fits c)
    (hab : (a.cmp b).isLE = true) (hbc : (b.cmp c).isLE = true) : (a.cmp c).isLE = true := by
  by_cases hType : type = .text
  · subst hType
    rw [cmp_of_fits_text ha hb] at hab
    rw [cmp_of_fits_text hb hc] at hbc
    rw [cmp_of_fits_text ha hc]
    exact Std.TransCmp.isLE_trans hab hbc
  · rw [cmp_of_fits_number hType ha hb] at hab
    rw [cmp_of_fits_number hType hb hc] at hbc
    rw [cmp_of_fits_number hType ha hc]
    exact Std.TransCmp.isLE_trans hab hbc

/-! ## Equality -/

/-- A value that was converted for a column of a type is stored as it is. -/
theorem fits_ofValue {json : Json} {value : Sql.Value} (h : type.toValue? json = some value) :
    type.Fits (ofValue value) := by
  unfold ColumnType.toValue? at h
  split at h
  · obtain rfl := Option.some.inj h
    exact .null _
  · obtain rfl := Option.some.inj h
    exact .text _
  · split at h
    · obtain rfl := Option.some.inj h
      exact .integer _
    · cases h
  · obtain rfl := Option.some.inj h
    exact .float _
  · obtain rfl := Option.some.inj h
    exact .float _
  · obtain rfl := Option.some.inj h
    exact .boolean _
  · cases h

/-- An id that was converted for a key is a value of the type of the key, and not null. -/
theorem fits_ofValue_id {id : RecordId} {value : Sql.Value} (h : id.toValue? type = some value) :
    type.Fits (ofValue value) ∧ value ≠ .null := by
  unfold RecordId.toValue? at h
  split at h
  · obtain rfl := Option.some.inj h
    exact ⟨.integer _, nofun⟩
  · obtain rfl := Option.some.inj h
    exact ⟨.text _, nofun⟩
  · obtain rfl := Option.some.inj h
    exact ⟨.text _, nofun⟩
  · obtain ⟨n, -, rfl⟩ := Option.map_eq_some_iff.mp h
    exact ⟨.integer _, nofun⟩
  · cases h

theorem ofValue_eq_null {value : Sql.Value} : ofValue value = .null ↔ value = .null := by
  cases value <;> simp [ofValue]

/-- Nothing is converted for a comparison in a column of its own type. -/
theorem comparable_of_fits (ha : type.Fits a) : a.comparable (some (affinityOf type)) = a := by
  cases ha with
  | null => exact comparable_null _
  | _ => rfl

/-- **A cell equals a value of the type of its column if the order says so.** -/
theorem equals_eq_true (ha : type.Fits a) (hb : type.Fits b) (hNull : b ≠ .null) :
    a.equals (some (affinityOf type)) b = some true ↔ a.cmp b = .eq := by
  unfold equals
  rw [comparable_of_fits ha, comparable_of_fits hb]
  cases hb with
  | null => exact absurd rfl hNull
  | _ => cases ha <;> simp [cmp]

/-- Cells that are no floats are equal in the order only if they are the same. -/
theorem cmp_eq_eq_iff (hType : type ≠ .float) (ha : type.Fits a) (hb : type.Fits b) :
    a.cmp b = .eq ↔ a = b := by
  cases ha with
  | float => exact absurd rfl hType
  | null => cases hb <;> simp [cmp]
  | _ => cases hb <;> simp [cmp]

/-- Values are equal if they are in the order, but nothing is equal to null. -/
theorem equals_none_eq_true : a.equals none b = some true ↔ a ≠ .null ∧ a.cmp b = .eq := by
  cases a <;> cases b <;> simp [equals, comparable, cmp]

/-- No cell but null is compared as equal to null. -/
theorem cmp_null_eq_eq : a.cmp .null = .eq ↔ a = .null := by
  cases a <;> simp [cmp]

end Database.Cell

/-! ## Reading -/

/-- A cell of a column as records show it. -/
def ColumnType.show : ColumnType → Cell → Json
  | .text, .text value => .text value
  | .integer, .integer value => .integer value
  | .float, .real value => if value.isFinite then .real value else .null
  | .boolean, .integer value => .bool (value != 0)
  | _, _ => .null

theorem ColumnType.read?_of_fits {type : ColumnType} {cell : Cell} (h : type.Fits cell) :
    type.read? cell = some (type.show cell) := by
  cases h with
  | null => cases type <;> rfl
  | _ => rfl

end FieldSearch
