import FieldSearch.Proofs.Outcome
import FieldSearch.Proofs.Schema.Declaration
import FieldSearch.Query.Resolver
import Mathlib

/-!
# Requests that are prepared

A request that was prepared has passed every step: its page was settled, its
ids fit the primary key, its terms were compiled, the modifier let the selection
through, and the dialect could express it.  The lemmas here take a prepared
request apart into what came out of these steps.

## Main results

* `outcome_prepareList_eq_steps`: the steps of a list request.
* `prepareList_eq_ok`, `prepareId_eq_ok`: what was done for a prepared request.
* `modify_eq_ok`: what a modifier adds to a selection.
* `compileTerms_eq_ok`: the condition and the order of compiled terms.
-/

namespace FieldSearch

/-! ## Search conditions and orders -/

theorem Predicate.forTerms_eq_ok {fields : FieldSet} {terms : TermSet} {strategy : Strategy}
    {predicate : Predicate} (h : forTerms fields terms strategy = .ok predicate) :
    fields.check terms = .ok () ∧
      predicate = if terms.hasTerms then anyOf (searched fields terms strategy) else .always := by
  have hCheck : fields.check terms = .ok () := by
    obtain ⟨_, hCheck, _⟩ := bind_eq_ok.mp h
    exact hCheck
  rw [forTerms_of_check hCheck] at h
  exact ⟨hCheck, (Except.ok.inj h).symm⟩

/-- The order of a ranked search, if any pair takes part in it. -/
def Sorting.ofRanked (primaryKey : String) : List FieldTerm → Option Sorting
  | [] => none
  | pairs => some (ranking pairs primaryKey)

theorem Sorting.ofRanked_eq_some_iff {primaryKey : String} {pairs : List FieldTerm}
    {sorting : Sorting} :
    ofRanked primaryKey pairs = some sorting ↔
      pairs ≠ [] ∧ sorting = ranking pairs primaryKey := by
  cases pairs with
  | nil => simp [ofRanked]
  | cons first rest => simp [ofRanked, eq_comm]

theorem Sorting.forTerms_eq_ok {fields : FieldSet} {terms : TermSet} {primaryKey : String}
    {sorting : Option Sorting} (h : forTerms fields terms primaryKey = .ok sorting) :
    sorting = ofRanked primaryKey (ranked fields terms) := by
  obtain ⟨_, _, hSorting⟩ := bind_eq_ok.mp h
  cases hRanked : ranked fields terms with
  | nil =>
      rw [hRanked] at hSorting
      exact (Except.ok.inj hSorting).symm
  | cons first rest =>
      rw [hRanked] at hSorting
      exact (Except.ok.inj hSorting).symm

/-- What compiled terms are made of. -/
structure Compiler.Compiled (compiler : Compiler) (schema : Schema) (terms : TermSet)
    (compiled : CompiledSearch) : Prop where
  checked : schema.searchable.check terms = .ok ()
  predicate : compiled.predicate =
    if terms.hasTerms then
      .anyOf (Predicate.searched schema.searchable terms compiler.strategy) else .always
  sorting : compiled.sorting =
    if compiler.strategy.ranks then
      Sorting.ofRanked schema.primaryKey (Sorting.ranked schema.searchable terms) else none

theorem Compiler.compileTerms_eq_ok {compiler : Compiler} {schema : Schema} {terms : TermSet}
    {compiled : CompiledSearch} (h : compiler.compileTerms schema terms = .ok compiled) :
    compiler.Compiled schema terms compiled := by
  obtain ⟨predicate, hPredicate, h⟩ := bind_eq_ok.mp h
  obtain ⟨hCheck, hPredicate⟩ := Predicate.forTerms_eq_ok hPredicate
  dsimp only at h
  by_cases hRanks : compiler.strategy.ranks = true
  · rw [if_pos hRanks] at h
    obtain ⟨sorting, hSorting, h⟩ := bind_eq_ok.mp h
    obtain rfl := Except.ok.inj h
    refine ⟨hCheck, hPredicate, ?_⟩
    rw [if_pos hRanks]
    exact Sorting.forTerms_eq_ok hSorting
  · rw [if_neg hRanks] at h
    obtain rfl := Except.ok.inj h
    refine ⟨hCheck, hPredicate, ?_⟩
    rw [if_neg hRanks]

/-- A column takes null for null, and nothing else. -/
theorem ColumnType.toValue?_eq_null {type : ColumnType} {value : Json} {result : Sql.Value}
    (h : type.toValue? value = some result) : result = .null ↔ value = .null := by
  cases type <;> cases value <;> grind [ColumnType.toValue?]

/-- **A scope adds one filter**, with its value as its column takes it, or nothing where the column
is missing. -/
theorem Scope.apply_eq_ok {confinement : Scope} {schema : Schema} {select next : Select}
    (h : confinement.apply schema select = .ok next) :
    (schema.column? confinement.column = none ∧ next = select) ∨
      ∃ column value, schema.column? confinement.column = some column ∧
        column.type.toValue? confinement.value = some value ∧
        next = select.filter (.columnEquals confinement.column value) := by
  cases hColumn : schema.column? confinement.column with
  | none =>
      rw [apply_of_none hColumn] at h
      split at h
      · exact .inl ⟨rfl, (Except.ok.inj h).symm⟩
      · cases h
  | some column =>
      rw [apply_of_some hColumn] at h
      obtain ⟨value, hValue, h⟩ := bind_eq_ok.mp h
      exact .inr ⟨column, value, rfl, (Schema.columnValue_eq_ok_iff hColumn).mp hValue,
        (Except.ok.inj h).symm⟩

/-- **A modifier adds one filter at most**: that of a scope, or the condition that it was given. -/
theorem Modifier.modify_eq_ok {modifier : Modifier} {schema : Schema} {select next : Select}
    (h : modifier.modify schema select = .ok next) :
    next = select ∨ (∃ column value, next = select.filter (.columnEquals column value)) ∨
      ∃ predicate, modifier = .narrow predicate ∧ next = select.filter (.search predicate) := by
  cases modifier with
  | keep => exact .inl (Except.ok.inj h).symm
  | scope confinement =>
      rcases Scope.apply_eq_ok h with ⟨-, rfl⟩ | ⟨column, value, -, -, rfl⟩
      · exact .inl rfl
      · exact .inr (.inl ⟨_, value, rfl⟩)
  | refuse reason => cases h
  | narrow predicate => exact .inr (.inr ⟨predicate, rfl, (Except.ok.inj h).symm⟩)

/-- A modifier does to a page what it does to the selection. -/
theorem Modifier.modify_page {modifier : Modifier} {schema : Schema} {select next : Select}
    (h : modifier.modify schema select = .ok next) (limit offset : Int) :
    modifier.modify schema (select.page limit offset) = .ok (next.page limit offset) := by
  cases modifier with
  | keep =>
      obtain rfl := Except.ok.inj h
      rfl
  | scope confinement =>
      have hPage : confinement.apply schema (select.page limit offset) =
          (confinement.apply schema select).map (·.page limit offset) := by
        cases hColumn : schema.column? confinement.column with
        | none =>
            rw [Scope.apply_of_none hColumn, Scope.apply_of_none hColumn]
            cases confinement.lenient <;> rfl
        | some column =>
            rw [Scope.apply_of_some hColumn, Scope.apply_of_some hColumn]
            cases schema.columnValue confinement.column confinement.value <;> rfl
      have hApply : confinement.apply schema select = .ok next := h
      exact hPage.trans (by rw [hApply]; rfl)
  | refuse reason => cases h
  | narrow predicate =>
      obtain rfl := Except.ok.inj h
      rfl

namespace Resolver

/-! ## Ids -/

theorem idFilter_eq_ok {schema : Schema} {ids : List RecordId} {filter : Filter} :
    idFilter schema ids = .ok filter ↔
      ∃ values, List.Forall₂ (fun id value => id.toValue? schema.key.type = some value) ids values ∧
        filter = .idIn schema.key.name values := by
  constructor
  · intro h
    obtain ⟨values, hValues, h⟩ := bind_eq_ok.mp h
    obtain rfl := Except.ok.inj h
    exact ⟨values, (mapM_eq_ok.mp hValues).imp fun _ _ => Schema.valueOrThrow_eq_ok.mp, rfl⟩
  · rintro ⟨values, hValues, rfl⟩
    refine bind_eq_ok.mpr ⟨values, mapM_eq_ok.mpr (hValues.imp fun _ _ => ?_), rfl⟩
    exact Schema.valueOrThrow_eq_ok.mpr

theorem withIds_eq_ok {schema : Schema} {select base : Select} {ids : Option (List RecordId)}
    (h : withIds schema select ids = .ok base) :
    (ids = none ∧ base = select) ∨
      ∃ given values, ids = some given ∧
        List.Forall₂ (fun id value => id.toValue? schema.key.type = some value) given values ∧
        base = select.filter (.idIn schema.key.name values) := by
  cases ids with
  | none => exact .inl ⟨rfl, (Except.ok.inj h).symm⟩
  | some given =>
      obtain ⟨filter, hFilter, h⟩ := bind_eq_ok.mp h
      obtain rfl := Except.ok.inj h
      obtain ⟨values, hValues, rfl⟩ := idFilter_eq_ok.mp hFilter
      exact .inr ⟨given, values, rfl, hValues, rfl⟩

/-! ## Steps -/

/-- **A search adds one filter at most**, and then it puts the selection in its order, if it has
one. -/
theorem exists_withSearch_eq (select : Select) (compiled : CompiledSearch) :
    ∃ filtered, (filtered = select ∨ filtered = select.filter (.search compiled.predicate)) ∧
      ((compiled.sorting = none ∧ withSearch select compiled = filtered) ∨
        ∃ sorting, compiled.sorting = some sorting ∧
          withSearch select compiled = filtered.orderBy sorting) := by
  refine ⟨if compiled.predicate.isAlways then select
    else select.filter (.search compiled.predicate), ?_, ?_⟩
  · split
    · exact .inl rfl
    · exact .inr rfl
  · unfold withSearch
    dsimp only
    cases compiled.sorting with
    | none => exact .inl ⟨rfl, rfl⟩
    | some sorting => exact .inr ⟨sorting, rfl, rfl⟩

theorem withTerms_eq_ok {resolver : Resolver} {schema : Schema} {select searched : Select}
    {terms : Option TermSet}
    (h : (resolver.withTerms schema select terms).outcome = .ok searched) :
    (terms = none ∧ searched = select) ∨
      ∃ given compiled, terms = some given ∧
        resolver.compiler.Compiled schema given compiled ∧
        searched = withSearch select compiled := by
  cases terms with
  | none => exact .inl ⟨rfl, (Except.ok.inj h).symm⟩
  | some given =>
      obtain ⟨compiled, hCompiled, h⟩ := Logged.outcome_bind_eq_ok.mp h
      rw [Compiler.outcome_compile] at hCompiled
      obtain rfl := Except.ok.inj h
      exact .inr ⟨given, compiled, rfl, Compiler.compileTerms_eq_ok hCompiled, rfl⟩

theorem finish_eq_ok {resolver : Resolver} {schema : Schema} {select : Select}
    {prepared : Prepared} (h : resolver.finish schema select = .ok prepared) :
    resolver.modifier.modify schema select = .ok prepared.select ∧
      resolver.compiler.writer.renderSelect prepared.select = .ok prepared.fragment := by
  obtain ⟨modified, hModified, h⟩ := bind_eq_ok.mp h
  obtain ⟨fragment, hFragment, h⟩ := bind_eq_ok.mp h
  obtain rfl := Except.ok.inj h
  exact ⟨mapError_eq_ok.mp hModified, mapError_eq_ok.mp hFragment⟩

/-- Whether a request may be made without ids. -/
def listing (schema : Schema) (request : ListRequest) : Except StorageError Unit :=
  if request.ids.isNone && !schema.allowsUnfilteredFetch then
    throw (.query (.unfilteredFetchNotAllowed schema.name))
  else pure ()

theorem listing_eq_ok_iff {schema : Schema} {request : ListRequest} {result : Unit} :
    listing schema request = .ok result ↔
      (request.ids = none → schema.allowsUnfilteredFetch = true) := by
  rw [listing]
  cases request.ids with
  | some ids => exact iff_of_true rfl nofun
  | none =>
      cases schema.allowsUnfilteredFetch with
      | true => exact iff_of_true rfl fun _ => rfl
      | false => exact iff_of_false nofun fun h => nomatch h rfl

/-- **The steps of a list request**, events aside. -/
theorem outcome_prepareList_eq_steps (resolver : Resolver) (schema : Schema)
    (request : ListRequest) :
    (resolver.prepareList schema request).outcome = (do
      listing schema request
      let page ← (request.page resolver.config).outcome.mapError .query
      let base ← (withIds schema (.ofSchema schema) request.ids).mapError .query
      let searched ← (resolver.withTerms schema base request.terms).outcome.mapError .search
      resolver.finish schema (searched.page page.limit page.offset)) := by
  unfold prepareList listing
  dsimp only
  split
  · rfl
  · simp only [Logged.outcome_bind, Logged.outcome_mapError, Logged.outcome_of]
    refine bind_congr fun page => bind_congr fun base => bind_congr fun searched => ?_
    exact bind_pure (resolver.finish schema (searched.page page.limit page.offset))

/-- A list request that was prepared has gone through all of its steps. -/
theorem prepareList_eq_ok {resolver : Resolver} {schema : Schema} {request : ListRequest}
    {prepared : Prepared} (h : (resolver.prepareList schema request).outcome = .ok prepared) :
    (request.ids = none → schema.allowsUnfilteredFetch = true) ∧
      ∃ page base searched,
        (request.page resolver.config).outcome = .ok page ∧
        withIds schema (.ofSchema schema) request.ids = .ok base ∧
        (resolver.withTerms schema base request.terms).outcome = .ok searched ∧
        resolver.finish schema (searched.page page.limit page.offset) = .ok prepared := by
  rw [outcome_prepareList_eq_steps] at h
  obtain ⟨_, hListing, h⟩ := bind_eq_ok.mp h
  obtain ⟨page, hPage, h⟩ := bind_eq_ok.mp h
  obtain ⟨base, hBase, h⟩ := bind_eq_ok.mp h
  obtain ⟨searched, hSearched, hFinish⟩ := bind_eq_ok.mp h
  exact ⟨listing_eq_ok_iff.mp hListing, page, base, searched, mapError_eq_ok.mp hPage,
    mapError_eq_ok.mp hBase, mapError_eq_ok.mp hSearched, hFinish⟩

/-- A list request is prepared if each of the steps succeeds. -/
theorem prepareList_of_steps {resolver : Resolver} {schema : Schema} {request : ListRequest}
    {prepared : Prepared} {page : Page} {base searched : Select}
    (hAllowed : request.ids = none → schema.allowsUnfilteredFetch = true)
    (hPage : (request.page resolver.config).outcome = .ok page)
    (hBase : withIds schema (.ofSchema schema) request.ids = .ok base)
    (hSearched : (resolver.withTerms schema base request.terms).outcome = .ok searched)
    (hFinish : resolver.finish schema (searched.page page.limit page.offset) = .ok prepared) :
    (resolver.prepareList schema request).outcome = .ok prepared := by
  rw [outcome_prepareList_eq_steps]
  refine bind_eq_ok.mpr ⟨(), listing_eq_ok_iff.mpr hAllowed, ?_⟩
  refine bind_eq_ok.mpr ⟨page, mapError_eq_ok.mpr hPage, ?_⟩
  refine bind_eq_ok.mpr ⟨base, mapError_eq_ok.mpr hBase, ?_⟩
  exact bind_eq_ok.mpr ⟨searched, mapError_eq_ok.mpr hSearched, hFinish⟩

theorem prepareId_eq_ok {resolver : Resolver} {schema : Schema} {id : RecordId}
    {prepared : Prepared} (h : resolver.prepareId schema id = .ok prepared) :
    ∃ value, id.toValue? schema.key.type = some value ∧
      resolver.finish schema (((Select.ofSchema schema).filter
        (.idIn schema.key.name [value])).page 1 0) = .ok prepared := by
  obtain ⟨select, hSelect, h⟩ := bind_eq_ok.mp h
  rw [mapError_eq_ok] at hSelect
  obtain ⟨filter, hFilter, hSelect⟩ := bind_eq_ok.mp hSelect
  obtain rfl := Except.ok.inj hSelect
  obtain ⟨values, hValues, rfl⟩ := idFilter_eq_ok.mp hFilter
  cases hValues with
  | cons hValue hRest =>
      cases hRest
      exact ⟨_, hValue, h⟩

end Resolver
end FieldSearch
