import FieldSearch.Proofs.Database.Passing
import FieldSearch.Proofs.Query.Draft
import FieldSearch.Proofs.Query.Narrowing
import Mathlib

/-!
# Requests within their limits

A resolver may be confined to a scope, and a record type may be closed to requests
without ids.  Neither can be got around: the filter that stands for the limit is one
of the filters of the prepared selection, all of them are required, and no other one
reaches outside of its place in the statement.

That is said three times of a prepared statement.  Whoever reads its text and answers
it, answers with rows of which the limit holds; so does a selection from a table,
whatever the rows of the table are; and where they are rows of the record type, the
cells of the selected rows are within the limit.

## Main results

* `confined_of_limits`: a filter that stands for a limit confines what has it.
* `confined_to_limits`: no request escapes its limits.
-/

namespace FieldSearch

open Database (Row Table)
open Sql (Dialect Judgement View)

/-! ## Filters that confine -/

/-- Whatever the prepared statement gives is within a limit: whoever reads its text answers with
rows of which something holds, a selection from a table gives such rows, and if the table has rows
of the record type, their cells meet a condition. -/
structure Prepared.Confined (dialect : Dialect) (schema : Schema) (holds : Judgement → Prop)
    (meets : Row → Prop) (prepared : Prepared) : Prop where
  text : ∀ statement, prepared.fragment.read? dialect = some statement →
    ∀ {R : Type} (view : View R) rows answer, statement.Answers dialect view rows answer →
      ∀ row ∈ answer, row ∈ rows ∧ holds (view.judgement row)
  table : ∀ (table : Table) rows, table.select prepared.select = .ok rows →
    ∀ row ∈ rows, row ∈ table.rows ∧ holds (table.judgement row)
  cells : ∀ (table : Table) rows, schema.HasTable table → schema.HasRows table →
    table.select prepared.select = .ok rows → ∀ row ∈ rows, meets row

/-- A filter on a column stands for a limit: what it accepts is within the limit, as rows judge it
and as their cells have it. -/
structure Filter.Limits (schema : Schema) (holds : Judgement → Prop) (meets : Row → Prop)
    (filter : Filter) : Prop where
  onColumn : filter.OnColumn
  holds : ∀ {dialect config judgement}, filter.Accepts dialect config judgement → holds judgement
  meets : ∀ {table : Table} {row : Row}, schema.HasTable table → schema.HasRows table →
    row ∈ table.rows → filter.Accepts .sqlite none (table.judgement row) → meets row

/-- **A filter that stands for a limit confines what has it**, whatever else was asked for. -/
theorem Resolver.confined_of_limits {declaration : Declaration} {schema : Schema}
    (hSchema : Schema.ofDeclaration declaration = .ok schema) {resolver : Resolver}
    {prepared : Prepared} {select : Select} (hDrafted : select.Drafted schema)
    (hFinish : resolver.finish schema select = .ok prepared) {filter : Filter}
    (hMem : filter ∈ prepared.select.filters) {holds : Judgement → Prop} {meets : Row → Prop}
    (hLimits : filter.Limits schema holds meets) :
    prepared.Confined resolver.compiler.dialect schema holds meets := by
  obtain ⟨hModified, hRendered⟩ := finish_eq_ok hFinish
  have hExtends := Select.extends_of_modify hModified
  constructor
  · intro statement hRead R view rows answer hAnswers row hRow
    obtain ⟨hRows, hAdmits⟩ := hAnswers.mem hRow
    obtain ⟨-, hTruth, -⟩ := hDrafted.asks hSchema hExtends hRendered hRead
    exact ⟨hRows, hLimits.holds ((hTruth (view.judgement row)).mp hAdmits filter hMem)⟩
  · intro table rows hSelect row hRow
    obtain ⟨hRows, hAccepts⟩ := Table.accepts_of_mem_select hSelect hRow
    exact ⟨hRows, hLimits.holds (hAccepts filter hMem hLimits.onColumn none)⟩
  · intro table rows hTable hTyped hSelect row hRow
    obtain ⟨hRows, hAccepts⟩ := Table.accepts_of_mem_select hSelect hRow
    exact hLimits.meets hTable hTyped hRows (hAccepts filter hMem hLimits.onColumn none)

/-! ## Scopes and ids -/

/-- The row has the value of the scope in its column, as the column takes it; if that is null, it
has none. -/
structure Scope.Holds (scope : Scope) (column : Column) (judgement : Judgement) : Prop where
  null : scope.value = .null → judgement.isNull scope.column = true
  equal : scope.value ≠ .null → ∃ value, column.type.toValue? scope.value = some value ∧
    judgement.equals scope.column value = some true

/-- One of the ids, as the primary key takes them, is the primary key of the row. -/
def Schema.KeyAmong (schema : Schema) (ids : List RecordId) (judgement : Judgement) : Prop :=
  ∃ id ∈ ids, ∃ value, id.toValue? schema.key.type = some value ∧
    judgement.equals schema.primaryKey value = some true

/-- The height that a single comparison has is far below what a database takes. -/
theorem matchHeight_le : Reading.matchHeight + 0 ≤ Reading.maxHeight := by decide

/-- **The filter of a scope stands for the scope.** -/
theorem Scope.limits_columnEquals {schema : Schema} (hValid : schema.Valid) {scope : Scope}
    {column : Column} {value : Sql.Value} (hColumn : schema.column? scope.column = some column)
    (hValue : column.type.toValue? scope.value = some value) :
    (Filter.columnEquals scope.column value).Limits schema (scope.Holds column)
      (schema.InScope scope) where
  onColumn := trivial
  holds {dialect config judgement} h := by
    have hNull := ColumnType.toValue?_eq_null hValue
    constructor
    · intro hScope
      obtain rfl := hNull.mpr hScope
      exact h
    · intro hScope
      refine ⟨value, hValue, ?_⟩
      cases value with
      | null => exact absurd (hNull.mp rfl) hScope
      | _ => exact h
  meets {table row} hTable hRows hRow h := by
    intro found hFound
    obtain rfl := Option.some.inj (hColumn.symm.trans hFound)
    have hMem : column ∈ schema.columns := List.mem_of_find?_eq_some hColumn
    have hName : column.name = scope.column := by simpa using List.find?_some hColumn
    have hExpresses :=
      Schema.expresses_columnEquals none matchHeight_le hValid hTable hRows.typed hMem hValue
    rw [hName] at hExpresses ⊢
    exact ⟨value, hValue, (hExpresses.accepts row hRow).mp (List.forall_mem_singleton.mpr h)⟩

/-- **The filter of ids stands for them.** -/
theorem Schema.limits_idIn {schema : Schema} (hValid : schema.Valid) {ids : List RecordId}
    {values : List Sql.Value}
    (hValues : List.Forall₂ (fun id value => id.toValue? schema.key.type = some value) ids
      values) :
    (Filter.idIn schema.key.name values).Limits schema (schema.KeyAmong ids)
      (schema.HasId ids) where
  onColumn := trivial
  holds {dialect config judgement} h := by
    obtain ⟨value, hMem, hEquals⟩ := h
    obtain ⟨id, hId, hValue⟩ := exists_of_mem_right hValues hMem
    exact ⟨id, hId, value, hValue, hEquals⟩
  meets {table row} hTable hRows hRow h := by
    have hExpresses := Schema.expresses_idIn none matchHeight_le hValid hTable hRows.typed hValues
    exact (hExpresses.accepts row hRow).mp (List.forall_mem_singleton.mpr h)

namespace Resolver

/-- The statement was prepared for a list request or for a lookup. -/
inductive Prepares (resolver : Resolver) (schema : Schema) (prepared : Prepared) : Prop where
  | list (request : ListRequest)
      (made : (resolver.prepareList schema request).outcome = .ok prepared)
  | lookup (id : RecordId) (made : (resolver.prepareLookup schema id).outcome = .ok prepared)

variable {resolver : Resolver} {schema : Schema} {prepared : Prepared}

theorem Prepares.exists_drafted (h : resolver.Prepares schema prepared) :
    ∃ select, select.Drafted schema ∧ resolver.finish schema select = .ok prepared := by
  cases h with
  | list request made =>
      obtain ⟨select, hDrafted, hFinish, -⟩ := exists_drafted_of_prepareList made
      exact ⟨select, hDrafted, hFinish⟩
  | lookup id made =>
      rw [outcome_prepareLookup] at made
      exact exists_drafted_of_prepareId made

/-- **Nothing is prepared in a strict scope on a column that the record type does not have.** -/
theorem not_prepares_of_strict {scope : Scope} (hModifier : resolver.modifier = .scope scope)
    (hColumn : schema.column? scope.column = none) (hStrict : scope.lenient = false)
    (prepared : Prepared) : ¬ resolver.Prepares schema prepared := by
  intro h
  obtain ⟨select, -, hFinish⟩ := h.exists_drafted
  obtain ⟨hModified, -⟩ := finish_eq_ok hFinish
  rw [hModifier] at hModified
  have hRefused : scope.apply schema select =
      .error (.rejected schema.name ("not scoped by '" ++ scope.column ++ "'")) := by
    rw [Scope.apply_of_none hColumn, hStrict]
    rfl
  cases hRefused.symm.trans hModified

/-- **What is prepared in a scope is confined to it, and can be read.** -/
theorem Prepares.confined_scope {declaration : Declaration}
    (hSchema : Schema.ofDeclaration declaration = .ok schema) {scope : Scope} {column : Column}
    (hModifier : resolver.modifier = .scope scope)
    (hColumn : schema.column? scope.column = some column)
    (h : resolver.Prepares schema prepared) :
    prepared.Confined resolver.compiler.dialect schema (scope.Holds column)
        (schema.InScope scope) ∧
      ∃ statement, prepared.fragment.read? resolver.compiler.dialect = some statement := by
  obtain ⟨select, hDrafted, hFinish⟩ := h.exists_drafted
  obtain ⟨hModified, hRendered⟩ := finish_eq_ok hFinish
  rw [hModifier] at hModified
  have hExtends := Select.extends_of_modify hModified
  rcases Scope.apply_eq_ok hModified with ⟨hNone, -⟩ | ⟨found, value, hFound, hValue, hSelect⟩
  · rw [hColumn] at hNone
    cases hNone
  obtain rfl := Option.some.inj (hColumn.symm.trans hFound)
  have hMem : .columnEquals scope.column value ∈ prepared.select.filters := by
    rw [hSelect]
    exact List.mem_append_right _ (List.mem_singleton_self _)
  have hWritable : ∀ filter ∈ prepared.select.filters, filter.Writable := by
    refine (hDrafted.modify (fun predicate hNarrow => ?_) hModified).filters
    cases hNarrow
  have hLimits :=
    Scope.limits_columnEquals (Schema.valid_of_ofDeclaration hSchema) hColumn hValue
  exact ⟨confined_of_limits hSchema hDrafted hFinish hMem hLimits,
    hDrafted.exists_read? hSchema hExtends hWritable hRendered⟩

/-- **What is prepared for a list request with ids is confined to them.** -/
theorem confined_of_ids {declaration : Declaration}
    (hSchema : Schema.ofDeclaration declaration = .ok schema) {request : ListRequest}
    (h : (resolver.prepareList schema request).outcome = .ok prepared) {ids : List RecordId}
    (hIds : request.ids = some ids) :
    prepared.Confined resolver.compiler.dialect schema (schema.KeyAmong ids)
      (schema.HasId ids) := by
  obtain ⟨select, hDrafted, hFinish, hFilter⟩ := exists_drafted_of_prepareList h
  obtain ⟨values, hValues, hMem⟩ := hFilter ids hIds
  obtain ⟨hModified, -⟩ := finish_eq_ok hFinish
  exact confined_of_limits hSchema hDrafted hFinish
    ((Select.extends_of_modify hModified).filters _ hMem)
    (Schema.limits_idIn (Schema.valid_of_ofDeclaration hSchema) hValues)

/-- **No request escapes its limits.**  In a scope, nothing is prepared for a record type without
the column unless the scope is lenient, and what is prepared for one with it selects rows in the
scope only; a scope that refuses a selection leaves it as it was.  For a record type that is closed
to requests without ids, a list request that is prepared has ids and selects only rows that have one
of them, so none at all if no id is given. -/
theorem confined_to_limits {declaration : Declaration} {schema : Schema}
    (hSchema : Schema.ofDeclaration declaration = .ok schema) (resolver : Resolver) :
    (∀ scope, resolver.modifier = .scope scope →
      (schema.column? scope.column = none → scope.lenient = false →
        ∀ prepared, ¬ resolver.Prepares schema prepared) ∧
      (∀ column, schema.column? scope.column = some column →
        ∀ prepared, resolver.Prepares schema prepared →
          prepared.Confined resolver.compiler.dialect schema (scope.Holds column)
            (schema.InScope scope) ∧
          ∃ statement, prepared.fragment.read? resolver.compiler.dialect = some statement) ∧
      ∀ select, (scope.revise schema).run.run select =
          ((scope.apply schema select).map fun _ => (),
            (scope.apply schema select).toOption.getD select) ∧
        ∀ fault, ((scope.revise schema).run.run select).1 = .error fault →
          ((scope.revise schema).run.run select).2 = select) ∧
    (schema.allowsUnfilteredFetch = false →
      ∀ request prepared, (resolver.prepareList schema request).outcome = .ok prepared →
        ∃ ids, request.ids = some ids ∧
          prepared.Confined resolver.compiler.dialect schema (schema.KeyAmong ids)
            (schema.HasId ids)) := by
  refine ⟨fun scope hModifier => ⟨fun hColumn hStrict => ?_, fun column hColumn prepared h => ?_,
    fun select => ⟨scope.run_revise schema select, fun fault hFault => ?_⟩⟩,
    fun hClosed request prepared h => ?_⟩
  · exact not_prepares_of_strict hModifier hColumn hStrict
  · exact h.confined_scope hSchema hModifier hColumn
  · rw [Scope.run_revise] at hFault ⊢
    cases hApply : scope.apply schema select with
    | ok next =>
        rw [hApply] at hFault
        cases hFault
    | error cause => rfl
  · cases hIds : request.ids with
    | none =>
        obtain ⟨hAllowed, -⟩ := prepareList_eq_ok h
        rw [hAllowed hIds] at hClosed
        cases hClosed
    | some ids => exact ⟨ids, rfl, confined_of_ids hSchema h hIds⟩

/-- A search of heroes in one team whose terms would like to escape it, and vaults that are listed
by their ids only. -/
theorem confined_to_limits_of_blue_team :
    let scope : Scope := ⟨"team", .text "blue", false⟩
    let resolver : Resolver := ⟨{}, ⟨.fullTextPrefix, .postgres, none⟩, .scope scope⟩
    let request : ListRequest := { terms := some (.ofList [("name", some "bat' OR 1 = 1 --")]) }
    let plain : Resolver := ⟨{}, ⟨.generic, .sqlite, none⟩, .keep⟩
    (∃ prepared, (resolver.prepareList .heroes request).outcome = .ok prepared ∧
      prepared.Confined .postgres .heroes (scope.Holds ⟨"team", .text⟩)
        (Schema.heroes.InScope scope) ∧
      ∃ statement, prepared.fragment.read? .postgres = some statement) ∧
    ∃ prepared, (plain.prepareList .vaults { ids := some [.integer 7] }).outcome = .ok prepared ∧
      ∃ ids, some [.integer 7] = some ids ∧
        prepared.Confined .sqlite .vaults (Schema.vaults.KeyAmong ids)
          (Schema.vaults.HasId ids) := by
  intro scope resolver request plain
  constructor
  · obtain ⟨prepared, hPrepared⟩ : ∃ prepared,
        (resolver.prepareList .heroes request).outcome = .ok prepared := ⟨_, rfl⟩
    obtain ⟨hScope, -⟩ := confined_to_limits Schema.ofDeclaration_heroes resolver
    obtain ⟨-, hConfined, -⟩ := hScope scope rfl
    exact ⟨prepared, hPrepared, hConfined _ rfl prepared (.list request hPrepared)⟩
  · obtain ⟨prepared, hPrepared⟩ : ∃ prepared,
        (plain.prepareList .vaults { ids := some [.integer 7] }).outcome = .ok prepared := ⟨_, rfl⟩
    obtain ⟨-, hClosed⟩ := confined_to_limits Schema.ofDeclaration_vaults plain
    exact ⟨prepared, hPrepared, hClosed rfl _ prepared hPrepared⟩

end Resolver
end FieldSearch
