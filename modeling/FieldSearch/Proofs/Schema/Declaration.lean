import FieldSearch.Proofs.Search.FieldSet
import FieldSearch.Schema.Basic
import FieldSearch.Schema.Statements
import Mathlib

/-!
# Accepted declarations

A declaration that was accepted has passed every check.  `Schema.Valid` lists
what the checks have found: names that are plain identifiers, columns that
differ from each other, a primary key among them, and searchable fields that are
text columns.  Whatever is proved about the record types that can be declared
rests on these facts and not on the order of the checks.

## Main results

* `valid_of_ofDeclaration`: the schema of an accepted declaration is valid.
* `ofDeclaration_eq_ok`: what is kept of an accepted declaration.
-/

namespace FieldSearch

namespace Schema

/-- What is known of a record type whose declaration was accepted. -/
structure Valid (schema : Schema) : Prop where
  name : Text.isIdentifier schema.name = true
  table : Text.isIdentifier schema.table = true
  columns_ne_nil : schema.columns ≠ []
  columnNames : ∀ column ∈ schema.columns, Text.isIdentifier column.name = true
  nodup : schema.columnNames.Nodup
  key_mem : schema.key ∈ schema.columns
  searchable : ∀ field ∈ schema.searchable.fields,
    ∃ column ∈ schema.columns, column.name = field ∧ column.type = .text
  listed : schema.searchable.fields ≠ [] → schema.allowsUnfilteredFetch = true

/-- The columns are checked by the walk over their names. -/
theorem checkColumns_eq_checkNames (record : String) (columns : List Column) :
    ∀ seen, checkColumns record seen columns =
      checkNames (.duplicateColumn record) seen (columns.map Column.name) := by
  induction columns with
  | nil => exact fun _ => rfl
  | cons column rest ih =>
      intro seen
      rw [List.map_cons, checkColumns, checkNames, ih]

theorem checkColumns_eq_ok {record : String} {columns : List Column} {result : Unit}
    (h : checkColumns record [] columns = .ok result) :
    (∀ column ∈ columns, Text.isIdentifier column.name = true) ∧
      (columns.map Column.name).Nodup := by
  rw [checkColumns_eq_checkNames] at h
  obtain ⟨hNames, hNodup, -⟩ := checkNames_eq_ok h
  exact ⟨List.forall_mem_map.mp hNames, hNodup⟩

theorem checkSearchable_eq_ok {record field : String} {columns : List Column} {result : Unit}
    (h : checkSearchable record columns field = .ok result) :
    ∃ column ∈ columns, column.name = field ∧ column.type = .text := by
  unfold checkSearchable at h
  cases hFound : columns.find? fun column => column.name == field with
  | none =>
      rw [hFound] at h
      cases h
  | some column =>
      rw [hFound] at h
      have hName := List.find?_some hFound
      refine ⟨column, List.mem_of_find?_eq_some hFound, by simpa using hName, ?_⟩
      obtain ⟨_, type⟩ := column
      cases type with
      | text => rfl
      | _ => cases h

theorem forM_eq_ok {ε β : Type} {check : β → Except ε Unit} {items : List β} {result : Unit}
    (h : items.forM check = .ok result) : ∀ item ∈ items, check item = .ok () := by
  induction items with
  | nil => intro item hItem; cases hItem
  | cons first rest ih =>
      have hSteps : (check first >>= fun _ => rest.forM check) = .ok result := h
      obtain ⟨_, hFirst, hRest⟩ := bind_eq_ok.mp hSteps
      exact List.forall_mem_cons.mpr ⟨hFirst, ih hRest⟩

/-- The steps in which a declaration was accepted, the last of which keeps everything as it was
declared. -/
theorem steps_of_ofDeclaration {declaration : Declaration} {schema : Schema}
    (h : ofDeclaration declaration = .ok schema) :
    checkIdentifier declaration.name = .ok () ∧
      checkIdentifier (tableName declaration) = .ok () ∧
      declaration.columns ≠ [] ∧
      checkColumns declaration.name [] declaration.columns = .ok () ∧
      declaration.search.searchableFields.Nodup ∧
      (∀ field ∈ declaration.search.searchableFields,
        checkSearchable declaration.name declaration.columns field = .ok ()) ∧
      (declaration.search.searchableFields ≠ [] →
        declaration.search.allowUnfilteredFetch = true) ∧
      ∃ key, (declaration.columns.find? fun column => column.name == declaration.primaryKey) =
          some key ∧
        schema = ⟨declaration.name, tableName declaration, declaration.columns, key,
          declaration.search, ⟨declaration.name, declaration.search.searchableFields⟩⟩ := by
  rw [ofDeclaration] at h
  obtain ⟨_, hName, h⟩ := bind_eq_ok.mp h
  obtain ⟨_, hTable, h⟩ := bind_eq_ok.mp h
  obtain ⟨hColumns, h⟩ := ite_throw_eq_ok.mp h
  obtain ⟨_, hEach, h⟩ := bind_eq_ok.mp h
  cases hKey : declaration.columns.find? fun column => column.name == declaration.primaryKey with
  | none =>
      rw [hKey] at h
      cases h
  | some key =>
      rw [hKey] at h
      obtain ⟨searchable, hSearchable, h⟩ := bind_eq_ok.mp h
      obtain ⟨_, hText, h⟩ := bind_eq_ok.mp h
      obtain ⟨hListed, h⟩ := ite_throw_eq_ok.mp h
      obtain ⟨rfl, hDiffer⟩ := FieldSet.declare_eq_ok hSearchable
      refine ⟨hName, hTable, by simpa using hColumns, hEach, hDiffer, forM_eq_ok hText,
        fun hNonempty => ?_, key, rfl, (Except.ok.inj h).symm⟩
      simpa [FieldSet.isEmpty, hNonempty] using hListed

/-- **An accepted declaration has passed every check.** -/
theorem valid_of_ofDeclaration {declaration : Declaration} {schema : Schema}
    (h : ofDeclaration declaration = .ok schema) : schema.Valid := by
  obtain ⟨hName, hTable, hColumns, hEach, -, hText, hListed, key, hKey, rfl⟩ :=
    steps_of_ofDeclaration h
  obtain ⟨hNames, hNodup⟩ := checkColumns_eq_ok hEach
  exact {
    name := checkIdentifier_eq_ok.mp hName
    table := checkIdentifier_eq_ok.mp hTable
    columns_ne_nil := hColumns
    columnNames := hNames
    nodup := hNodup
    key_mem := List.mem_of_find?_eq_some hKey
    searchable := fun field hField => checkSearchable_eq_ok (hText field hField)
    listed := hListed }

/-- What an accepted declaration has become: nothing of it was changed, and the key is the first
column of its name. -/
theorem ofDeclaration_eq_ok {declaration : Declaration} {schema : Schema}
    (h : ofDeclaration declaration = .ok schema) :
    declaration.search.searchableFields.Nodup ∧
      ∃ key, (declaration.columns.find? fun column => column.name == declaration.primaryKey) =
          some key ∧
        schema = ⟨declaration.name, tableName declaration, declaration.columns, key,
          declaration.search, ⟨declaration.name, declaration.search.searchableFields⟩⟩ := by
  obtain ⟨-, -, -, -, hDiffer, -, -, hKept⟩ := steps_of_ofDeclaration h
  exact ⟨hDiffer, hKept⟩

/-- The searchable fields are those of the record type itself. -/
theorem searchable_record_of_ofDeclaration {declaration : Declaration} {schema : Schema}
    (h : ofDeclaration declaration = .ok schema) : schema.searchable.record = schema.name := by
  obtain ⟨-, _, -, rfl⟩ := ofDeclaration_eq_ok h
  rfl

/-! ## Columns by their names -/

/-- Columns with the same name are the same. -/
theorem Valid.column_ext {schema : Schema} (hValid : schema.Valid) {left right : Column}
    (hLeft : left ∈ schema.columns) (hRight : right ∈ schema.columns)
    (hName : left.name = right.name) : left = right :=
  List.inj_on_of_nodup_map hValid.nodup hLeft hRight hName

theorem column?_eq_none_iff {schema : Schema} {name : String} :
    schema.column? name = none ↔ ∀ column ∈ schema.columns, column.name ≠ name := by
  simp [column?]

theorem Valid.column?_eq_some_iff {schema : Schema} (hValid : schema.Valid) {name : String}
    {column : Column} :
    schema.column? name = some column ↔ column ∈ schema.columns ∧ column.name = name := by
  constructor
  · intro hFound
    exact ⟨List.mem_of_find?_eq_some hFound, by simpa using List.find?_some hFound⟩
  · rintro ⟨hMem, rfl⟩
    cases hFound : schema.column? column.name with
    | none => exact absurd rfl (column?_eq_none_iff.mp hFound column hMem)
    | some found =>
        have hName : found.name = column.name := by simpa using List.find?_some hFound
        rw [hValid.column_ext (List.mem_of_find?_eq_some hFound) hMem hName]

/-! ## Values for columns -/

/-- A value that is to be passed is passed if it is there. -/
theorem valueOrThrow_eq_ok {value? : Option Sql.Value} {blame : QueryError} {value : Sql.Value} :
    (match value? with
      | some value => pure value
      | none => throw blame : Except QueryError Sql.Value) = .ok value ↔ value? = some value := by
  cases value? with
  | none => exact iff_of_false nofun nofun
  | some other =>
      constructor
      · exact fun h => congrArg some (Except.ok.inj h)
      · exact fun h => congrArg Except.ok (Option.some.inj h)

/-- If it is not there, just the fault that was chosen for that is thrown. -/
theorem valueOrThrow_eq_error {value? : Option Sql.Value} {blame fault : QueryError} :
    (match value? with
      | some value => pure value
      | none => throw blame : Except QueryError Sql.Value) = .error fault ↔
        value? = none ∧ fault = blame := by
  cases value? with
  | none =>
      constructor
      · exact fun h => ⟨rfl, (Except.error.inj h).symm⟩
      · exact fun h => congrArg Except.error h.2.symm
  | some other => exact iff_of_false nofun fun h => nomatch h.1

theorem columnValue_eq_ok_iff {schema : Schema} {name : String} {column : Column}
    (hColumn : schema.column? name = some column) {json : Json} {value : Sql.Value} :
    schema.columnValue name json = .ok value ↔ column.type.toValue? json = some value := by
  rw [columnValue, hColumn]
  exact valueOrThrow_eq_ok

theorem columnValue_eq_error {schema : Schema} {name : String} {column : Column}
    (hColumn : schema.column? name = some column) {json : Json} {fault : QueryError} :
    schema.columnValue name json = .error fault ↔
      column.type.toValue? json = none ∧ fault = schema.mismatch column := by
  rw [columnValue, hColumn]
  exact valueOrThrow_eq_error

/-! ## Two record types -/

/-- Heroes, who are searched by name and alias and belong to teams. -/
def heroes : Schema where
  name := "Hero"
  table := "heroes"
  columns := [⟨"id", .integer⟩, ⟨"name", .text⟩, ⟨"alias", .text⟩, ⟨"team", .text⟩]
  key := ⟨"id", .integer⟩
  options := { searchableFields := ["name", "alias"], allowUnfilteredFetch := true }
  searchable := ⟨"Hero", ["name", "alias"]⟩

theorem ofDeclaration_heroes : ofDeclaration heroes.toDeclaration = .ok heroes := by rfl

/-- Vaults, which are listed by their ids only. -/
def vaults : Schema where
  name := "Vault"
  table := "vaults"
  columns := [⟨"id", .integer⟩]
  key := ⟨"id", .integer⟩
  options := {}
  searchable := .empty "Vault"

theorem ofDeclaration_vaults : ofDeclaration vaults.toDeclaration = .ok vaults := by rfl

end Schema
end FieldSearch
