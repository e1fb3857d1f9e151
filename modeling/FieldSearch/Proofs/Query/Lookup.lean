import FieldSearch.Proofs.Database.Insertion
import FieldSearch.Proofs.Query.Listing
import Mathlib

/-!
# Looking a record up

An id of the type of the key stands for one value, and no two rows have the same
key.  So a lookup has one answer at most: the record of the row with that key if
there is one, and else that nothing was found.  It asks for nothing that a database
could refuse, so that it has this answer whatever is in the table.

Looking up and listing leave the store as it is.

## Main results

* `lookup_eq`: what a lookup comes to.
* `list_store`, `lookup_store`: requests leave the store as it is.
-/

namespace FieldSearch

open Database (Cell Row Table)

theorem RecordId.ne_float_of_toValue? {id : RecordId} {type : ColumnType} {value : Sql.Value}
    (h : id.toValue? type = some value) : type ≠ .float := by
  rintro rfl
  cases id <;> cases h

/-! ## Requests and the store -/

theorem Select.Within.modify {schema : Schema} {select next : Select} {modifier : Modifier}
    (hWithin : select.Within schema) (h : modifier.modify schema select = .ok next) :
    next.Within schema := by
  rcases Modifier.modify_eq_ok h with rfl | ⟨column, value, rfl⟩ | ⟨predicate, -, rfl⟩
  · exact hWithin
  · exact hWithin.filter _
  · exact hWithin.filter _

namespace Resolver

section

variable {resolver : Resolver} {files : FileStore} {schema : Schema} {table : Table}

theorem within_of_prepareList {request : ListRequest} {prepared : Prepared}
    (h : (resolver.prepareList schema request).outcome = .ok prepared) :
    prepared.select.Within schema := by
  obtain ⟨-, page, base, searched, -, hBase, hSearched, hFinish⟩ := prepareList_eq_ok h
  have hAll : (Select.ofSchema schema).Within schema := Select.Reachable.all.within
  have hBaseWithin : base.Within schema := by
    rcases withIds_eq_ok hBase with ⟨-, rfl⟩ | ⟨given, values, -, -, rfl⟩
    · exact hAll
    · exact hAll.filter _
  have hSearchedWithin : searched.Within schema := by
    rcases withTerms_eq_ok hSearched with ⟨-, rfl⟩ | ⟨given, compiled, -, -, rfl⟩
    · exact hBaseWithin
    · obtain ⟨filtered, hFiltered, hOrder⟩ := exists_withSearch_eq base compiled
      have hFilteredWithin : filtered.Within schema := by
        rcases hFiltered with rfl | rfl
        · exact hBaseWithin
        · exact hBaseWithin.filter _
      rcases hOrder with ⟨-, hSearch⟩ | ⟨sorting, -, hSearch⟩
      · rw [hSearch]
        exact hFilteredWithin
      · rw [hSearch]
        exact ⟨hFilteredWithin.table, hFilteredWithin.columns, hFilteredWithin.limited⟩
  have hPage : (searched.page page.limit page.offset).Within schema :=
    ⟨hSearchedWithin.table, hSearchedWithin.columns, fun _ => rfl⟩
  exact hPage.modify (finish_eq_ok hFinish).1

theorem within_of_prepareId {id : RecordId} {prepared : Prepared}
    (h : resolver.prepareId schema id = .ok prepared) : prepared.select.Within schema := by
  obtain ⟨value, -, hFinish⟩ := prepareId_eq_ok h
  exact Select.Within.modify ⟨rfl, rfl, fun _ => rfl⟩ (finish_eq_ok hFinish).1

/-- Fetching from a table of the record type leaves the store as it is. -/
theorem fetch_store {prepared : Logged StorageError Prepared}
    (hFound : files.database.table? schema.table = some table)
    (hWithin : ∀ statement, prepared.outcome = .ok statement → statement.select.Within schema) :
    (fetch (.file files) schema prepared).2 = .file files := by
  rw [fetch]
  cases hOutcome : prepared.outcome with
  | error error => rfl
  | ok statement =>
      have hTable : files.database.table? statement.select.table = some table :=
        (hWithin statement hOutcome).table ▸ hFound
      exact congrArg Store.file (FileStore.afterFetch_of_table? hTable)

/-- **Listing leaves the store as it is**, whatever comes of it. -/
theorem list_store (hFound : files.database.table? schema.table = some table)
    (request : ListRequest) :
    (resolver.list (.file files) schema request).2 = .file files :=
  fetch_store hFound fun _ hPrepared => within_of_prepareList hPrepared

/-- **Looking up leaves the store as it is**, whatever comes of it. -/
theorem lookup_store (hFound : files.database.table? schema.table = some table)
    (id : RecordId) : (resolver.lookup (.file files) schema id).2 = .file files :=
  fetch_store hFound fun _ hPrepared =>
    within_of_prepareId ((outcome_prepareLookup resolver schema id).symm.trans hPrepared)

/-! ## The record of an id -/

theorem outcome_lookup_file {id : RecordId} {prepared : Prepared} {records : List Record}
    (h : resolver.prepareId schema id = .ok prepared)
    (hRecords : files.fetchRecords schema prepared = .ok records) :
    (resolver.lookup (.file files) schema id).1.outcome =
      match records with
      | record :: _ => .ok record
      | [] => .error (.query (.notFound schema.name id.display)) := by
  have hFetch : (fetch (.file files) schema (resolver.prepareLookup schema id)).1.outcome =
      .ok records := by
    rw [fetch, outcome_prepareLookup, h]
    show (files.fetch schema prepared).outcome = _
    rw [FileStore.fetch, Logged.outcome_bind, Logged.outcome_of, hRecords]
    rfl
  rw [lookup, Logged.outcome_bind, hFetch]
  cases records <;> rfl

/-- The selection of a lookup for a value. -/
def selectOf (schema : Schema) (value : Sql.Value) : Select :=
  ((Select.ofSchema schema).filter (.idIn schema.key.name [value])).page 1 0

/-- The statement of a lookup, which has the id as its only parameter. -/
theorem exists_prepareId_eq_ok (config : SearchConfig) {id : RecordId} {value : Sql.Value}
    (hValue : id.toValue? schema.key.type = some value) :
    ∃ fragment,
      (forFile config none).prepareId schema id = .ok ⟨selectOf schema value, fragment⟩ ∧
      Sql.Writer.renderSelect ⟨.sqlite, config.textSearchConfig, []⟩ (selectOf schema value) =
        .ok fragment ∧
      fragment.params.length = 1 := by
  obtain ⟨fragment, hRendered⟩ : ∃ fragment, Sql.Writer.renderSelect
      ⟨.sqlite, config.textSearchConfig, []⟩ (selectOf schema value) = .ok fragment := ⟨_, rfl⟩
  have hSelect : lookupSelect schema id = .ok (selectOf schema value) :=
    bind_eq_ok.mpr ⟨_, idFilter_eq_ok.mpr ⟨[value], .cons hValue .nil, rfl⟩, rfl⟩
  have hFinish : (forFile config none).finish schema (selectOf schema value) =
      .ok ⟨selectOf schema value, fragment⟩ :=
    bind_eq_ok.mpr ⟨_, rfl, bind_eq_ok.mpr ⟨_, mapError_eq_ok.mpr hRendered, rfl⟩⟩
  exact ⟨fragment, bind_eq_ok.mpr ⟨_, mapError_eq_ok.mpr hSelect, hFinish⟩, hRendered,
    Sql.Writer.length_params hRendered⟩

/-- The rows that a lookup selects: one of those with the key, if there is any. -/
theorem exists_select_eq_ok (config : SearchConfig) (hValid : schema.Valid)
    (hTable : schema.HasTable table) (hTyped : schema.Typed table) {id : RecordId}
    {value : Sql.Value} (hValue : id.toValue? schema.key.type = some value) :
    ∃ rows, table.select (selectOf schema value) = .ok rows ∧
      (∀ row ∈ rows, row ∈ table.rows ∧ schema.keyCell row = Cell.ofValue value) ∧
      (rows = [] → ∀ row ∈ table.rows, schema.keyCell row ≠ Cell.ofValue value) := by
  classical
  have hExpresses : table.Expresses config.textSearchConfig 0 [.idIn schema.key.name [value]]
      (schema.HasId [id]) :=
    Schema.expresses_idIn config.textSearchConfig (by decide) hValid hTable hTyped
      (.cons hValue .nil)
  have hSame : ∀ row ∈ table.rows,
      schema.HasId [id] row ↔ schema.keyCell row = Cell.ofValue value := by
    intro row hRow
    rw [← Cell.cmp_eq_eq_iff (RecordId.ne_float_of_toValue? hValue)
      (hTyped.fits_keyCell hValid hRow) (Cell.fits_ofValue_id hValue).1]
    constructor
    · rintro ⟨other, hOther, found, hFound, hEq⟩
      rw [List.mem_singleton.mp hOther, hValue] at hFound
      exact Option.some.inj hFound ▸ hEq
    · exact fun hEq => ⟨id, List.mem_singleton_self id, value, hValue, hEq⟩
  let passes : Row → Bool := fun row => decide (∀ filter ∈ [Filter.idIn schema.key.name [value]],
    filter.Accepts .sqlite config.textSearchConfig (table.judgement row))
  have hMem : ∀ row, row ∈ (table.sorted (selectOf schema value)).filter passes ↔
      row ∈ table.rows ∧ schema.keyCell row = Cell.ofValue value := by
    intro row
    rw [List.mem_filter, (table.sorted_perm _).mem_iff]
    refine and_congr_right fun hRow => ?_
    rw [decide_eq_true_iff, hExpresses.accepts row hRow, hSame row hRow]
  have hSelect : table.select (selectOf schema value) =
      .ok ((((table.sorted (selectOf schema value)).filter passes).drop 0).take 1) :=
    Table.select_eq_ok hExpresses.short hExpresses.settled rfl fun row => decide_eq_true_iff
  refine ⟨_, hSelect, fun row hRow => ?_, fun hNone row hRow hKey => ?_⟩
  · exact (hMem row).mp (List.mem_of_mem_drop (List.mem_of_mem_take hRow))
  · have hFound := (hMem row).mpr ⟨hRow, hKey⟩
    rw [List.drop_zero, List.take_eq_nil_iff] at hNone
    simp [hNone.resolve_left Nat.one_ne_zero] at hFound

/-- **A lookup gives the record of the row with the key**, whatever else is in the table, and if
there is no such row it says that nothing was found. -/
theorem lookup_eq (hValid : schema.Valid) (hTable : schema.HasTable table)
    (hStored : schema.Stored table) (hReachable : files.isReachable = true)
    (hFound : files.database.table? schema.table = some table) {config : SearchConfig}
    (hMade : (create (.file files) config).outcome = .ok resolver) {id : RecordId}
    {value : Sql.Value} (hValue : id.toValue? schema.key.type = some value) :
    (∀ row ∈ table.rows, schema.keyCell row = Cell.ofValue value →
      (resolver.lookup (.file files) schema id).1.outcome = .ok (schema.recordOf row)) ∧
    ((∀ row ∈ table.rows, schema.keyCell row ≠ Cell.ofValue value) →
      (resolver.lookup (.file files) schema id).1.outcome =
        .error (.query (.notFound schema.name id.display))) := by
  obtain rfl : resolver = forFile config none := create_file_eq_ok hMade
  obtain ⟨fragment, hPrepared, hRendered, hParams⟩ := exists_prepareId_eq_ok config hValue
  obtain ⟨rows, hSelect, hRows, hNone⟩ :=
    exists_select_eq_ok config hValid hTable hStored.toTyped hValue
  have hTaken : Prepared.fault? ⟨selectOf schema value, fragment⟩ = none := by
    refine @Prepared.fault?_eq_none _ 0 _ hValid.table (fun column hColumn => ?_)
      (List.forall_mem_singleton.mpr (Filter.readable_idIn (by decide)
        (hValid.columnNames _ hValid.key_mem) [value])) (Nat.le_refl 1) hRendered ?_
    · obtain ⟨found, hMem, rfl⟩ := List.mem_map.mp hColumn
      exact hValid.columnNames found hMem
    · rw [hParams]
      decide
  have hRecords := FileStore.fetchRecords_eq_ok hValid hTable hStored.toTyped hReachable hTaken
    hFound rfl hSelect fun row hRow => (hRows row hRow).1
  rw [outcome_lookup_file hPrepared hRecords]
  have hNull : Cell.ofValue value ≠ .null :=
    mt Cell.ofValue_eq_null.mp (Cell.fits_ofValue_id hValue).2
  cases rows with
  | nil => exact ⟨fun row hRow hKey => absurd hKey (hNone rfl row hRow), fun _ => rfl⟩
  | cons first rest =>
      obtain ⟨hFirst, hFirstKey⟩ := hRows first List.mem_cons_self
      constructor
      · intro row hRow hKey
        obtain rfl : first = row := hStored.row_ext hValid hFirst hRow
          (by rw [hFirstKey]; exact hNull) (hFirstKey.trans hKey.symm)
        rfl
      · exact fun hAbsent => absurd hFirstKey (hAbsent first hFirst)

end

end Resolver
end FieldSearch
