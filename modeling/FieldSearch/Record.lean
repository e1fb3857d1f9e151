import FieldSearch.Json.Decoder

/-!
# Records

A record gives values to columns, in rising order of the column names. It may give values to columns
that its type does not have; whether it fits a type is decided where it is stored.

## Main results

* `get?_set_self`, `get?_set_of_ne`: a column has the value last written to it.
-/

namespace FieldSearch

/-- Values by column. -/
structure Record where
  values : KeyMap Json

namespace Record

/-- The record without values. -/
def empty : Record := ⟨KeyMap.empty⟩

instance : Inhabited Record := ⟨empty⟩

/-- The record with one value written. -/
def set (record : Record) (column : String) (value : Json) : Record :=
  ⟨record.values.insert column value⟩

/-- The value of a column. -/
def get? (record : Record) (column : String) : Option Json := record.values.get? column

/-- The text of a column, if its value is one. -/
def getText? (record : Record) (column : String) : Option String :=
  (record.get? column).bind Json.asText?

@[simp]
theorem get?_set_self (record : Record) (column : String) (value : Json) :
    (record.set column value).get? column = some value :=
  KeyMap.get?_insert_self record.values column value

theorem get?_set_of_ne (record : Record) {column other : String} (value : Json)
    (hNe : other ≠ column) : (record.set column value).get? other = record.get? other :=
  KeyMap.get?_insert_of_ne record.values value hNe

/-- Reads a record from an object. -/
def decoder : Json.Decoder Record := (Json.Decoder.keyMap Json.Decoder.value).map Record.mk

/-- The record as an object. -/
def toJson (record : Record) : Json := .ofMap record.values

end Record
end FieldSearch
