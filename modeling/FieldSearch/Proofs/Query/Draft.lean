import FieldSearch.Proofs.Schema.Declaration
import FieldSearch.Proofs.Search.Compilation
import FieldSearch.Proofs.Sql.Answer
import FieldSearch.Proofs.Sql.EmptyChoice
import Mathlib

/-!
# Selections as they are drawn up

A request is drawn up as a selection before the modifier sees it.  Whatever is asked
for, the selection has the columns of its type, no empty choice, and an order that
ends with the primary key: the primary key alone, or a ranking of some fields before
it.  A modifier can add a filter and nothing else, so the columns, the filters and
the order that were drawn up are still there in what is prepared.

## Main results

* `exists_drafted_of_prepareList`, `exists_drafted_of_prepareId`: what was drawn up
  for a prepared request.
* `Drafted.asks`: what the statement of a drafted and modified selection says.
-/

namespace FieldSearch

open Sql (Writer Fragment Statement)

/-- A selection as it is drawn up for a request. -/
structure Select.Drafted (schema : Schema) (select : Select) : Prop where
  columns : select.columns = schema.columnNames
  filters : ∀ filter ∈ select.filters, filter.Writable
  sorting : select.sorting = .byColumn schema.primaryKey ∨
    ∃ pairs, pairs ≠ [] ∧ select.sorting = .ranking pairs schema.primaryKey

namespace Select

variable {schema : Schema} {select next : Select}

theorem drafted_ofSchema (schema : Schema) : (Select.ofSchema schema).Drafted schema :=
  ⟨rfl, fun _ hMem => absurd hMem List.not_mem_nil, .inl rfl⟩

theorem Drafted.filter (h : select.Drafted schema) {filter : Filter} (hFilter : filter.Writable) :
    (select.filter filter).Drafted schema := by
  refine ⟨h.columns, ?_, h.sorting⟩
  exact List.forall_mem_append.mpr ⟨h.filters, List.forall_mem_singleton.mpr hFilter⟩

theorem Drafted.page (h : select.Drafted schema) (limit offset : Int) :
    (select.page limit offset).Drafted schema :=
  ⟨h.columns, h.filters, h.sorting⟩

/-- There is something to compare in every key. -/
theorem Drafted.keys_writable (h : select.Drafted schema) :
    ∀ key ∈ select.sorting.keys, key.expr.Writable := by
  rcases h.sorting with hSorting | ⟨pairs, hPairs, hSorting⟩
  · rw [hSorting]
    exact List.forall_mem_singleton.mpr trivial
  · rw [hSorting]
    exact List.forall_mem_cons.mpr ⟨hPairs, List.forall_mem_cons.mpr ⟨hPairs,
      List.forall_mem_singleton.mpr trivial⟩⟩

/-- The selection has the columns, the filters and the order of the other one. -/
structure Extends (select next : Select) : Prop where
  columns : next.columns = select.columns
  sorting : next.sorting = select.sorting
  filters : ∀ filter ∈ select.filters, filter ∈ next.filters
  limit : next.limit = select.limit
  offset : next.offset = select.offset

theorem extends_filter (select : Select) (filter : Filter) :
    select.Extends (select.filter filter) :=
  ⟨rfl, rfl, fun _ hMem => List.mem_append_left _ hMem, rfl, rfl⟩

/-- **A modifier leaves what was drawn up in place.** -/
theorem extends_of_modify {modifier : Modifier}
    (h : modifier.modify schema select = .ok next) : select.Extends next := by
  rcases Modifier.modify_eq_ok h with rfl | ⟨column, value, rfl⟩ | ⟨predicate, -, rfl⟩
  · exact ⟨rfl, rfl, fun _ hMem => hMem, rfl, rfl⟩
  · exact extends_filter select _
  · exact extends_filter select _

/-- What was drawn up and modified is as it would be drawn up, unless an empty choice was added. -/
theorem Drafted.modify (h : select.Drafted schema) {modifier : Modifier}
    (hModifier : ∀ predicate, modifier = .narrow predicate → predicate.Writable)
    (hNext : modifier.modify schema select = .ok next) : next.Drafted schema := by
  rcases Modifier.modify_eq_ok hNext with rfl | ⟨column, value, rfl⟩ | ⟨predicate, hNarrow, rfl⟩
  · exact h
  · exact h.filter trivial
  · exact h.filter (hModifier predicate hNarrow)

theorem Drafted.columns_ne_nil {declaration : Declaration}
    (hSchema : Schema.ofDeclaration declaration = .ok schema) (hDrafted : select.Drafted schema)
    (hExtends : select.Extends next) : next.columns ≠ [] := by
  rw [hExtends.columns, hDrafted.columns, Schema.columnNames, Ne, List.map_eq_nil_iff]
  exact (Schema.valid_of_ofDeclaration hSchema).columns_ne_nil

/-- **What the statement of a modified draft says**, if it can be read. -/
theorem Drafted.asks {declaration : Declaration} {writer : Writer} {fragment : Fragment}
    {statement : Statement} (hSchema : Schema.ofDeclaration declaration = .ok schema)
    (hDrafted : select.Drafted schema) (hExtends : select.Extends next)
    (hRendered : writer.renderSelect next = .ok fragment)
    (hRead : fragment.read? writer.dialect = some statement) :
    (∀ filter ∈ next.filters, filter.Writable) ∧
    (∀ judgement, statement.Admits judgement ↔
      ∀ filter ∈ next.filters,
        filter.Accepts writer.dialect writer.textSearchConfig judgement) ∧
    statement.keys = select.sorting.keys.map (SortKey.toKey writer.dialect) ∧
    statement.limit = next.limit ∧ statement.offset = next.shownOffset := by
  have hColumns := hDrafted.columns_ne_nil hSchema hExtends
  have hKeys := hDrafted.keys_writable
  rw [← hExtends.sorting] at hKeys ⊢
  obtain ⟨condition, rfl, hTruth⟩ := Sql.asks_of_read? hColumns hKeys hRendered hRead
  exact ⟨Sql.filters_writable_of_read? hColumns hRendered hRead, hTruth, rfl, rfl, rfl⟩

/-- A modified draft without an empty choice can be read. -/
theorem Drafted.exists_read? {declaration : Declaration} {writer : Writer} {fragment : Fragment}
    (hSchema : Schema.ofDeclaration declaration = .ok schema) (hDrafted : select.Drafted schema)
    (hExtends : select.Extends next) (hWritable : ∀ filter ∈ next.filters, filter.Writable)
    (hRendered : writer.renderSelect next = .ok fragment) :
    ∃ statement, fragment.read? writer.dialect = some statement := by
  have hColumns := hDrafted.columns_ne_nil hSchema hExtends
  have hKeys := hDrafted.keys_writable
  rw [← hExtends.sorting] at hKeys
  obtain ⟨condition, hRead, -⟩ := Sql.read?_of_renderSelect hColumns ⟨hWritable, hKeys⟩ hRendered
  exact ⟨_, hRead⟩

end Select

/-! ## Requests -/

namespace Resolver

variable {resolver : Resolver} {schema : Schema}

theorem drafted_withIds {select base : Select} {ids : Option (List RecordId)}
    (hDrafted : select.Drafted schema) (h : withIds schema select ids = .ok base) :
    base.Drafted schema := by
  rcases withIds_eq_ok h with ⟨-, rfl⟩ | ⟨given, values, -, -, rfl⟩
  · exact hDrafted
  · exact hDrafted.filter trivial

theorem drafted_withSearch {select : Select} {terms : TermSet} {compiled : CompiledSearch}
    (hDrafted : select.Drafted schema)
    (hCompiled : resolver.compiler.Compiled schema terms compiled) :
    (withSearch select compiled).Drafted schema := by
  obtain ⟨filtered, hCases, hOrder⟩ := exists_withSearch_eq select compiled
  have hFiltered : filtered.Drafted schema := by
    rcases hCases with rfl | rfl
    · exact hDrafted
    · exact hDrafted.filter hCompiled.writable
  rcases hOrder with ⟨-, hSearch⟩ | ⟨sorting, hSorting, hSearch⟩
  · rw [hSearch]
    exact hFiltered
  · rw [hSearch]
    obtain ⟨-, hRanking⟩ := hCompiled.exists_ranking hSorting
    exact ⟨hFiltered.columns, hFiltered.filters, .inr hRanking⟩

theorem drafted_withTerms {select searched : Select} {terms : Option TermSet}
    (hDrafted : select.Drafted schema)
    (h : (resolver.withTerms schema select terms).outcome = .ok searched) :
    searched.Drafted schema := by
  rcases withTerms_eq_ok h with ⟨-, rfl⟩ | ⟨given, compiled, -, hCompiled, rfl⟩
  · exact hDrafted
  · exact drafted_withSearch hDrafted hCompiled

/-- Filters are kept where terms are added. -/
theorem mem_filters_withTerms {select searched : Select} {terms : Option TermSet}
    (h : (resolver.withTerms schema select terms).outcome = .ok searched) :
    ∀ filter ∈ select.filters, filter ∈ searched.filters := by
  rcases withTerms_eq_ok h with ⟨-, rfl⟩ | ⟨given, compiled, -, -, rfl⟩
  · exact fun _ hMem => hMem
  · obtain ⟨filtered, hCases, hOrder⟩ := exists_withSearch_eq select compiled
    have hFiltered : ∀ filter ∈ select.filters, filter ∈ filtered.filters := by
      rcases hCases with rfl | rfl
      · exact fun _ hMem => hMem
      · exact fun _ hMem => List.mem_append_left _ hMem
    rcases hOrder with ⟨-, hSearch⟩ | ⟨sorting, -, hSearch⟩
    · rw [hSearch]
      exact hFiltered
    · rw [hSearch]
      exact hFiltered

/-- **What was drawn up for a list request that was prepared.**  If ids were given, there is the
filter of them. -/
theorem exists_drafted_of_prepareList {request : ListRequest} {prepared : Prepared}
    (h : (resolver.prepareList schema request).outcome = .ok prepared) :
    ∃ select, select.Drafted schema ∧ resolver.finish schema select = .ok prepared ∧
      ∀ ids, request.ids = some ids → ∃ values,
        List.Forall₂ (fun id value => id.toValue? schema.key.type = some value) ids values ∧
        .idIn schema.key.name values ∈ select.filters := by
  obtain ⟨-, page, base, searched, -, hBase, hSearched, hFinish⟩ := prepareList_eq_ok h
  have hDrafted := drafted_withTerms (drafted_withIds (Select.drafted_ofSchema schema) hBase)
    hSearched
  refine ⟨_, hDrafted.page page.limit page.offset, hFinish, fun ids hIds => ?_⟩
  rcases withIds_eq_ok hBase with ⟨hNone, -⟩ | ⟨given, values, hGiven, hValues, rfl⟩
  · rw [hNone] at hIds
    cases hIds
  · obtain rfl := Option.some.inj (hGiven.symm.trans hIds)
    refine ⟨values, hValues, mem_filters_withTerms hSearched _ ?_⟩
    exact List.mem_append_right _ (List.mem_singleton_self _)

/-- What was drawn up for a lookup that was prepared. -/
theorem exists_drafted_of_prepareId {id : RecordId} {prepared : Prepared}
    (h : resolver.prepareId schema id = .ok prepared) :
    ∃ select, select.Drafted schema ∧ resolver.finish schema select = .ok prepared := by
  obtain ⟨value, -, hFinish⟩ := prepareId_eq_ok h
  have hDrafted : ((Select.ofSchema schema).filter (.idIn schema.key.name [value])).Drafted
      schema := (Select.drafted_ofSchema schema).filter trivial
  exact ⟨_, hDrafted.page 1 0, hFinish⟩

end Resolver
end FieldSearch
