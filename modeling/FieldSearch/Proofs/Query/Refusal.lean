import FieldSearch.Proofs.Schema.Declaration
import FieldSearch.Proofs.Search.Compilation
import Mathlib

/-!
# Why searches are refused

Once a compiler has been made, a search can be refused for one reason, that its
terms name a field which is not searchable.  A strategy that the dialect cannot
express was refused, or replaced, when the compiler was made, so no selection of
compiled conditions and orders is refused for it later, and no request is.

## Main results

* `expressible_of_makes`: a selection with compiled conditions and orders can be
  expressed.
* `exists_undeclared_of_prepareList`, `prepareId_ne_search`: what a request can be
  refused for in its search.
* `renders_what_it_compiles`: all of it for every compiler that is made.
-/

namespace FieldSearch

namespace Compiler

/-! ## Selections of compiled searches -/

/-- A filter that comes with a compiler: the condition of compiled terms, or one that is no
search. -/
inductive Makes (compiler : Compiler) : Filter → Prop where
  | search {schema : Schema} {terms : TermSet} {compiled : CompiledSearch}
      (made : (compiler.compile schema terms).outcome = .ok compiled) :
      Makes compiler (.search compiled.predicate)
  | idIn (column : String) (ids : List Sql.Value) : Makes compiler (.idIn column ids)
  | columnEquals (column : String) (value : Sql.Value) :
      Makes compiler (.columnEquals column value)

/-- An order that comes with a compiler: that of compiled terms, or one by a column. -/
inductive Orders (compiler : Compiler) : Sorting → Prop where
  | compiled {schema : Schema} {terms : TermSet} {compiled : CompiledSearch} {sorting : Sorting}
      (made : (compiler.compile schema terms).outcome = .ok compiled)
      (ranked : compiled.sorting = some sorting) : Orders compiler sorting
  | byColumn (name : String) : Orders compiler (.byColumn name)

variable {compiler : Compiler}

theorem Makes.expressible {filter : Filter} (h : compiler.Makes filter) (hSound : compiler.Sound) :
    filter.Expressible compiler.dialect := by
  cases h with
  | search made =>
      rw [outcome_compile] at made
      exact (compileTerms_eq_ok made).expressible hSound
  | idIn column ids => trivial
  | columnEquals column value => trivial

theorem Orders.expressible {sorting : Sorting} (h : compiler.Orders sorting)
    (hSound : compiler.Sound) : sorting.Expressible compiler.dialect := by
  cases h with
  | compiled made ranked =>
      rw [outcome_compile] at made
      exact (compileTerms_eq_ok made).expressible_sorting hSound ranked
  | byColumn name => exact List.forall_mem_singleton.mpr trivial

/-- **A selection can be expressed if its conditions and its order come with the compiler.** -/
theorem expressible_of_makes (hSound : compiler.Sound) {select : Select}
    (hFilters : ∀ filter ∈ select.filters, compiler.Makes filter)
    (hSorting : compiler.Orders select.sorting) : select.Expressible compiler.dialect :=
  ⟨fun filter hMem => (hFilters filter hMem).expressible hSound, hSorting.expressible hSound⟩

end Compiler

/-! ## Requests -/

/-- The modifier adds no condition, or one that the dialect can express. -/
def Modifier.Expressible (dialect : Sql.Dialect) : Modifier → Prop
  | .narrow predicate => predicate.Expressible dialect
  | _ => True

/-- A selection with one more filter can be expressed if the filter can. -/
theorem Select.Expressible.filter {dialect : Sql.Dialect} {select : Select}
    (h : select.Expressible dialect) {filter : Filter} (hFilter : filter.Expressible dialect) :
    (select.filter filter).Expressible dialect := by
  refine ⟨?_, h.sorting⟩
  exact List.forall_mem_append.mpr ⟨h.filters, List.forall_mem_singleton.mpr hFilter⟩

theorem Select.expressible_ofSchema (dialect : Sql.Dialect) (schema : Schema) :
    (Select.ofSchema schema).Expressible dialect :=
  ⟨fun _ hMem => absurd hMem List.not_mem_nil, List.forall_mem_singleton.mpr trivial⟩

theorem Modifier.expressible_of_modify {dialect : Sql.Dialect} {modifier : Modifier}
    {schema : Schema} {select next : Select} (hModifier : modifier.Expressible dialect)
    (hSelect : select.Expressible dialect) (h : modifier.modify schema select = .ok next) :
    next.Expressible dialect := by
  rcases modify_eq_ok h with rfl | ⟨column, value, rfl⟩ | ⟨predicate, rfl, rfl⟩
  · exact hSelect
  · exact hSelect.filter trivial
  · exact hSelect.filter hModifier

namespace Resolver

variable {resolver : Resolver} {schema : Schema} {dialect : Sql.Dialect}

theorem expressible_withIds {select base : Select} {ids : Option (List RecordId)}
    (hSelect : select.Expressible dialect) (h : withIds schema select ids = .ok base) :
    base.Expressible dialect := by
  rcases withIds_eq_ok h with ⟨-, rfl⟩ | ⟨given, values, -, -, rfl⟩
  · exact hSelect
  · exact hSelect.filter trivial

theorem expressible_withTerms (hSound : resolver.compiler.Sound) {select searched : Select}
    {terms : Option TermSet} (hSelect : select.Expressible resolver.compiler.dialect)
    (h : (resolver.withTerms schema select terms).outcome = .ok searched) :
    searched.Expressible resolver.compiler.dialect := by
  rcases withTerms_eq_ok h with ⟨-, rfl⟩ | ⟨given, compiled, -, hCompiled, rfl⟩
  · exact hSelect
  · obtain ⟨filtered, hCases, hOrder⟩ := exists_withSearch_eq select compiled
    have hFiltered : filtered.Expressible resolver.compiler.dialect := by
      rcases hCases with rfl | rfl
      · exact hSelect
      · exact hSelect.filter (hCompiled.expressible hSound)
    rcases hOrder with ⟨-, hSearch⟩ | ⟨sorting, hSorting, hSearch⟩
    · rw [hSearch]
      exact hFiltered
    · rw [hSearch]
      exact ⟨hFiltered.filters, hCompiled.expressible_sorting hSound hSorting⟩

/-- Adding a search is refused only for a field that is not searchable. -/
theorem exists_undeclared_of_withTerms {select : Select} {terms : Option TermSet}
    {fault : SearchError} (h : (resolver.withTerms schema select terms).outcome = .error fault) :
    ∃ given, terms = some given ∧ ∃ field ∈ given.fields,
      schema.searchable.contains field = false ∧
      fault = .invalidSearchField schema.searchable.record field := by
  cases terms with
  | none => cases h
  | some given =>
      rcases Logged.outcome_bind_eq_error.mp h with hRefused | ⟨compiled, -, h⟩
      · rw [Compiler.outcome_compile] at hRefused
        exact ⟨given, rfl, Compiler.exists_undeclared_of_compileTerms hRefused⟩
      · cases h

/-- A selection that can be expressed is refused by the modifier or not at all. -/
theorem exists_finish_of_modify {select next : Select}
    (hModified : resolver.modifier.modify schema select = .ok next)
    (hExpressible : next.Expressible resolver.compiler.dialect) :
    ∃ fragment, resolver.finish schema select = .ok ⟨next, fragment⟩ := by
  obtain ⟨fragment, hRendered⟩ :=
    (@Sql.exists_renderSelect_iff resolver.compiler.writer next).mpr hExpressible
  exact ⟨fragment, bind_eq_ok.mpr ⟨next, mapError_eq_ok.mpr hModified,
    bind_eq_ok.mpr ⟨fragment, mapError_eq_ok.mpr hRendered, rfl⟩⟩⟩

theorem finish_ne_search (hModifier : resolver.modifier.Expressible resolver.compiler.dialect)
    {select : Select} (hSelect : select.Expressible resolver.compiler.dialect)
    (fault : SearchError) : resolver.finish schema select ≠ .error (.search fault) := by
  intro h
  rcases bind_eq_error.mp h with hRefused | ⟨next, hModified, -⟩
  · obtain ⟨cause, -, hCause⟩ := mapError_eq_error.mp hRefused
    cases hCause
  · rw [mapError_eq_ok] at hModified
    obtain ⟨fragment, hFinished⟩ :=
      exists_finish_of_modify hModified (Modifier.expressible_of_modify hModifier hSelect hModified)
    rw [hFinished] at h
    cases h

theorem listing_ne_search {request : ListRequest} (fault : SearchError) :
    listing schema request ≠ .error (.search fault) := by
  rw [listing]
  intro h
  split at h <;> cases h

/-- **A list request is refused in its search only for a field that is not searchable.** -/
theorem exists_undeclared_of_prepareList (hSound : resolver.compiler.Sound)
    (hModifier : resolver.modifier.Expressible resolver.compiler.dialect) {request : ListRequest}
    {fault : SearchError}
    (h : (resolver.prepareList schema request).outcome = .error (.search fault)) :
    ∃ terms, request.terms = some terms ∧ ∃ field ∈ terms.fields,
      schema.searchable.contains field = false ∧
      fault = .invalidSearchField schema.searchable.record field := by
  rw [outcome_prepareList_eq_steps] at h
  -- The steps are gone through in order; those before the terms fail with faults of a query.
  rcases bind_eq_error.mp h with hListing | ⟨_, -, h⟩
  · exact absurd hListing (listing_ne_search fault)
  rcases bind_eq_error.mp h with hPage | ⟨page, -, h⟩
  · obtain ⟨cause, -, hCause⟩ := mapError_eq_error.mp hPage
    cases hCause
  rcases bind_eq_error.mp h with hIds | ⟨base, hBase, h⟩
  · obtain ⟨cause, -, hCause⟩ := mapError_eq_error.mp hIds
    cases hCause
  have hStart := expressible_withIds
    (Select.expressible_ofSchema resolver.compiler.dialect schema) (mapError_eq_ok.mp hBase)
  rcases bind_eq_error.mp h with hTerms | ⟨searched, hSearched, hFinish⟩
  · obtain ⟨cause, hRefused, hCause⟩ := mapError_eq_error.mp hTerms
    obtain rfl := StorageError.search.inj hCause
    exact exists_undeclared_of_withTerms hRefused
  have hSelect := (expressible_withTerms hSound hStart (mapError_eq_ok.mp hSearched)).page
    page.limit page.offset
  exact absurd hFinish (finish_ne_search hModifier hSelect fault)

/-- **A lookup is not refused in its search.** -/
theorem prepareId_ne_search
    (hModifier : resolver.modifier.Expressible resolver.compiler.dialect) (id : RecordId)
    (fault : SearchError) : resolver.prepareId schema id ≠ .error (.search fault) := by
  intro h
  rcases bind_eq_error.mp h with hIds | ⟨select, hSelect, h⟩
  · obtain ⟨cause, -, hCause⟩ := mapError_eq_error.mp hIds
    cases hCause
  · rw [mapError_eq_ok] at hSelect
    obtain ⟨filter, hFilter, hSelect⟩ := bind_eq_ok.mp hSelect
    obtain ⟨values, -, rfl⟩ := idFilter_eq_ok.mp hFilter
    obtain rfl := Except.ok.inj hSelect
    have hFilter : (Filter.idIn schema.key.name values).Expressible resolver.compiler.dialect :=
      trivial
    have hStart := (Select.expressible_ofSchema resolver.compiler.dialect schema).filter hFilter
    exact finish_ne_search hModifier (hStart.page 1 0) fault h

end Resolver

/-! ## Compilers -/

/-- **A compiler renders what it compiles.**  It refuses terms only for naming a field that is not
searchable.  What it compiles is rendered, by itself and within a selection that has other filters
beside it, and no request is refused in its search for anything else. -/
theorem renders_what_it_compiles {config : SearchConfig} {backend : Backend}
    {capabilities : SearchCapabilities} {compiler : Compiler}
    (hMade : (Compiler.create config backend capabilities).outcome = .ok compiler) :
    (∀ schema terms fault, (compiler.compile schema terms).outcome = .error fault →
      ∃ field ∈ terms.fields, schema.searchable.contains field = false ∧
        fault = .invalidSearchField schema.searchable.record field) ∧
    (∀ (schema : Schema) (terms : TermSet),
      (∀ field ∈ terms.fields, schema.searchable.contains field = true) →
      ∃ compiled, (compiler.compile schema terms).outcome = .ok compiled) ∧
    (∀ schema terms compiled, (compiler.compile schema terms).outcome = .ok compiled →
      ∃ fragment, compiler.renderTail compiled = .ok fragment) ∧
    (∀ select : Select, (∀ filter ∈ select.filters, compiler.Makes filter) →
      compiler.Orders select.sorting →
      ∃ fragment, compiler.writer.renderSelect select = .ok fragment) ∧
    (∀ resolver : Resolver, resolver.compiler = compiler →
      (∀ predicate, resolver.modifier = .narrow predicate → compiler.Makes (.search predicate)) →
      ∀ schema fault,
        (∀ request, (resolver.prepareList schema request).outcome = .error (.search fault) →
          ∃ terms, request.terms = some terms ∧ ∃ field ∈ terms.fields,
            schema.searchable.contains field = false ∧
            fault = .invalidSearchField schema.searchable.record field) ∧
        ∀ id, (resolver.prepareLookup schema id).outcome ≠ .error (.search fault)) := by
  have hSound := Compiler.sound_of_create hMade
  refine ⟨fun schema terms fault h => ?_, fun schema terms h => ?_,
    fun schema terms compiled h => ?_, fun select hFilters hSorting => ?_,
    fun resolver hCompiler hNarrow schema fault => ?_⟩
  · rw [Compiler.outcome_compile] at h
    exact Compiler.exists_undeclared_of_compileTerms h
  · rw [Compiler.outcome_compile]
    exact Compiler.exists_compileTerms (FieldSet.check_eq_ok_iff.mpr h)
  · rw [Compiler.outcome_compile] at h
    exact Compiler.exists_renderTail hSound (Compiler.compileTerms_eq_ok h)
  · exact Sql.exists_renderSelect_iff.mpr
      (Compiler.expressible_of_makes hSound hFilters hSorting)
  · subst hCompiler
    have hModifier : resolver.modifier.Expressible resolver.compiler.dialect := by
      cases hCase : resolver.modifier with
      | narrow predicate => exact (hNarrow predicate hCase).expressible hSound
      | keep => trivial
      | scope confinement => trivial
      | refuse reason => trivial
    refine ⟨fun request h => Resolver.exists_undeclared_of_prepareList hSound hModifier h,
      fun id => ?_⟩
    rw [Resolver.outcome_prepareLookup]
    exact Resolver.prepareId_ne_search hModifier id fault

/-- A compiler for a database whose capabilities were overstated searches for terms as they stand,
and a request with an apostrophe, wildcards and a backslash is rendered. -/
theorem renders_what_it_compiles_of_overstated :
    let terms : TermSet := .ofList [("name", some "O'Neil 100%_\\"), ("alias", some "")]
    ∃ compiler, (Compiler.create {} .sqlite .full).outcome = .ok compiler ∧
      compiler.strategy = .generic ∧
      (∃ compiled, (compiler.compile .heroes terms).outcome = .ok compiled ∧
        ∃ fragment, compiler.renderTail compiled = .ok fragment) ∧
      ∀ fault, (compiler.compile .heroes (.ofList [("team", none)])).outcome = .error fault →
        ∃ field ∈ (TermSet.ofList [("team", none)]).fields,
          Schema.heroes.searchable.contains field = false ∧
            fault = .invalidSearchField Schema.heroes.searchable.record field := by
  intro terms
  have hMade : (Compiler.create {} .sqlite .full).outcome = .ok ⟨.generic, .sqlite, none⟩ := rfl
  obtain ⟨hRefused, hAccepted, hRendered, -, -⟩ := renders_what_it_compiles hMade
  obtain ⟨compiled, hCompiled⟩ := hAccepted .heroes terms (by decide)
  exact ⟨_, hMade, rfl, ⟨compiled, hCompiled, hRendered _ _ _ hCompiled⟩, hRefused _ _⟩

end FieldSearch
