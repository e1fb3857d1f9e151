import FieldSearch.Proofs.Query.Preparation
import FieldSearch.Proofs.Search.FieldSet
import FieldSearch.Proofs.Sql.Expressible
import Mathlib

/-!
# What a compiler accepts

A compiler is made for a dialect, and the strategy that it settles on is one that
the dialect can express, even where the capabilities of the backend were overstated.
All that it compiles is therefore expressible: its conditions have clauses on words
only under a strategy that needs full text search, and its orders have ranks only
under that one.  What it compiles can be written as well, since no choice is left
empty and no rank without a field.

Terms are refused for the fields that they name, never for what is searched in
these fields.

## Main results

* `sound_of_create`: the dialect of a compiler can express its strategy.
* `Compiled.expressible`, `Compiled.writable`, `Compiled.exists_ranking`: what
  compiled conditions and orders are like.
* `exists_compileTerms`, `compileTerms_eq_error`: which terms are accepted and which
  are refused.
-/

namespace FieldSearch

open Sql (Dialect)

namespace Predicate

/-! ## The condition of a term -/

/-- The condition of a term is a single clause, or nothing meets it. -/
theorem forTerm_cases {strategy : Strategy} (field term : String) :
    forTerm strategy field term = .never ∨
      ∃ clause, forTerm strategy field term = .single clause ∧
        ∀ dialect : Dialect, (strategy = .fullTextPrefix → dialect.supportsFullText = true) →
          clause.Expressible dialect := by
  cases strategy with
  | generic => exact .inr ⟨_, rfl, fun _ _ => trivial⟩
  | fullTextPrefix =>
      rw [forTerm]
      cases Text.words term with
      | nil => exact .inl rfl
      | cons first rest => exact .inr ⟨_, rfl, fun _ hDialect => hDialect rfl⟩

theorem writable_forTerm (strategy : Strategy) (field term : String) :
    (forTerm strategy field term).Writable := by
  rcases @forTerm_cases strategy field term with h | ⟨clause, h, -⟩
  · rw [h]
    exact .never
  · rw [h]
    exact .single clause

theorem expressible_forTerm {strategy : Strategy} {dialect : Dialect}
    (hDialect : strategy = .fullTextPrefix → dialect.supportsFullText = true)
    (field term : String) : (forTerm strategy field term).Expressible dialect := by
  rcases @forTerm_cases strategy field term with h | ⟨clause, h, hClause⟩
  · rw [h]
    exact fun clause hMem => absurd hMem List.not_mem_nil
  · rw [h]
    exact List.forall_mem_singleton.mpr (hClause dialect hDialect)

/-- Every condition of a search is that of a term. -/
theorem exists_of_mem_searched {fields : FieldSet} {terms : TermSet} {strategy : Strategy}
    {predicate : Predicate} (h : predicate ∈ searched fields terms strategy) :
    ∃ field term, predicate = forTerm strategy field term := by
  obtain ⟨field, -, hTerm⟩ := List.mem_filterMap.mp h
  obtain ⟨term, -, rfl⟩ := Option.map_eq_some_iff.mp hTerm
  exact ⟨field, term, rfl⟩

end Predicate

/-! ## Terms that are refused -/

theorem FieldSet.exists_of_check_eq_error {set : FieldSet} {terms : TermSet} {fault : SearchError}
    (h : set.check terms = .error fault) :
    ∃ field ∈ terms.fields, set.contains field = false ∧ fault = set.undeclared field := by
  obtain ⟨field, ⟨⟨hMem, hNot⟩, -⟩, rfl⟩ := check_eq_error_iff.mp h
  rw [← contains_iff, Bool.not_eq_true] at hNot
  exact ⟨field, hMem, hNot, rfl⟩

theorem Sorting.exists_forTerms {fields : FieldSet} {terms : TermSet} (primaryKey : String)
    (h : fields.check terms = .ok ()) :
    ∃ sorting, forTerms fields terms primaryKey = .ok sorting := by
  cases hRanked : ranked fields terms with
  | nil => exact ⟨none, bind_eq_ok.mpr ⟨(), h, by rw [hRanked]; rfl⟩⟩
  | cons first rest =>
      refine ⟨some (ranking (first :: rest) primaryKey), bind_eq_ok.mpr ⟨(), h, ?_⟩⟩
      rw [hRanked]
      rfl

namespace Compiler

/-! ## Strategies that the dialect can express -/

/-- The dialect can express the strategy. -/
def Sound (compiler : Compiler) : Prop :=
  compiler.strategy = .fullTextPrefix → compiler.dialect.supportsFullText = true

theorem supportsFullText_of_chooseStrategy {choice : StrategyChoice} {backend : Backend}
    {capabilities : SearchCapabilities}
    (h : chooseStrategy choice backend capabilities = .ok .fullTextPrefix) :
    backend.dialect.supportsFullText = true := by
  obtain ⟨strategy, -, h⟩ := bind_eq_ok.mp h
  by_contra hDialect
  rw [Bool.not_eq_true] at hDialect
  split at h
  · split at h
    · cases h
    · cases h
  · next hNot =>
      obtain rfl := Except.ok.inj h
      exact hNot ⟨rfl, by rw [hDialect]; rfl⟩

/-- **The dialect of a compiler can express its strategy**, whatever the capabilities were said to
be. -/
theorem sound_of_create {config : SearchConfig} {backend : Backend}
    {capabilities : SearchCapabilities} {compiler : Compiler}
    (h : (create config backend capabilities).outcome = .ok compiler) : compiler.Sound := by
  obtain ⟨strategy, hStrategy, h⟩ := Logged.outcome_bind_eq_ok.mp h
  obtain rfl := Except.ok.inj h
  intro hFullText
  obtain rfl : strategy = .fullTextPrefix := hFullText
  exact supportsFullText_of_chooseStrategy hStrategy

/-! ## What is compiled -/

section

variable {compiler : Compiler} {schema : Schema} {terms : TermSet} {compiled : CompiledSearch}

theorem Compiled.writable (h : compiler.Compiled schema terms compiled) :
    compiled.predicate.Writable := by
  rw [h.predicate]
  split
  · refine Predicate.writable_anyOf fun alternative hMem => ?_
    obtain ⟨field, term, rfl⟩ := Predicate.exists_of_mem_searched hMem
    exact Predicate.writable_forTerm _ field term
  · exact .always

/-- **The dialect can express every compiled condition.** -/
theorem Compiled.expressible (h : compiler.Compiled schema terms compiled)
    (hSound : compiler.Sound) : compiled.predicate.Expressible compiler.dialect := by
  intro clause hClause
  rw [h.predicate] at hClause
  split at hClause
  · obtain ⟨alternative, hMem, hOf⟩ := Predicate.mem_clauses_anyOf hClause
    obtain ⟨field, term, rfl⟩ := Predicate.exists_of_mem_searched hMem
    exact Predicate.expressible_forTerm hSound field term clause hOf
  · exact absurd hClause List.not_mem_nil

/-- **A compiled order ranks some fields and ends with the primary key.** -/
theorem Compiled.exists_ranking (h : compiler.Compiled schema terms compiled) {sorting : Sorting}
    (hSorting : compiled.sorting = some sorting) :
    compiler.strategy = .fullTextPrefix ∧
      ∃ pairs, pairs ≠ [] ∧ sorting = .ranking pairs schema.primaryKey := by
  rw [h.sorting] at hSorting
  cases hStrategy : compiler.strategy with
  | generic =>
      rw [hStrategy] at hSorting
      cases hSorting
  | fullTextPrefix =>
      rw [hStrategy] at hSorting
      exact ⟨rfl, _, Sorting.ofRanked_eq_some_iff.mp hSorting⟩

theorem Compiled.expressible_sorting (h : compiler.Compiled schema terms compiled)
    (hSound : compiler.Sound) {sorting : Sorting} (hSorting : compiled.sorting = some sorting) :
    sorting.Expressible compiler.dialect := by
  obtain ⟨hStrategy, pairs, -, rfl⟩ := h.exists_ranking hSorting
  have hFullText := hSound hStrategy
  exact List.forall_mem_cons.mpr ⟨hFullText, List.forall_mem_cons.mpr ⟨hFullText,
    List.forall_mem_singleton.mpr trivial⟩⟩

/-- Terms that name searchable fields only are compiled, whatever they are. -/
theorem exists_compileTerms (h : schema.searchable.check terms = .ok ()) :
    ∃ compiled, compiler.compileTerms schema terms = .ok compiled := by
  obtain ⟨predicate, hPredicate⟩ : ∃ predicate,
      Predicate.forTerms schema.searchable terms compiler.strategy = .ok predicate :=
    ⟨_, Predicate.forTerms_of_check h⟩
  obtain ⟨sorting, hSorting⟩ := Sorting.exists_forTerms schema.primaryKey h
  by_cases hRanks : compiler.strategy.ranks = true
  · refine ⟨⟨predicate, sorting⟩, bind_eq_ok.mpr ⟨predicate, hPredicate, ?_⟩⟩
    dsimp only
    rw [if_pos hRanks]
    exact bind_eq_ok.mpr ⟨sorting, hSorting, rfl⟩
  · refine ⟨⟨predicate, none⟩, bind_eq_ok.mpr ⟨predicate, hPredicate, ?_⟩⟩
    dsimp only
    rw [if_neg hRanks]
    rfl

/-- Terms are refused for what the searchable fields refuse, and for nothing else. -/
theorem compileTerms_eq_error {fault : SearchError} :
    compiler.compileTerms schema terms = .error fault ↔
      schema.searchable.check terms = .error fault := by
  have hRefused {cause : SearchError} (hCheck : schema.searchable.check terms = .error cause) :
      compiler.compileTerms schema terms = .error cause :=
    bind_eq_error.mpr (.inl (bind_eq_error.mpr (.inl hCheck)))
  refine ⟨fun h => ?_, hRefused⟩
  cases hCheck : schema.searchable.check terms with
  | ok passed =>
      obtain ⟨compiled, hCompiled⟩ := @exists_compileTerms compiler schema terms hCheck
      rw [hCompiled] at h
      cases h
  | error cause => exact congrArg _ (Except.error.inj ((hRefused hCheck).symm.trans h))

/-- **Terms are refused only for naming a field that is not searchable.** -/
theorem exists_undeclared_of_compileTerms {fault : SearchError}
    (h : compiler.compileTerms schema terms = .error fault) :
    ∃ field ∈ terms.fields, schema.searchable.contains field = false ∧
      fault = .invalidSearchField schema.searchable.record field :=
  FieldSet.exists_of_check_eq_error (compileTerms_eq_error.mp h)

end

/-- **What is compiled by a sound compiler is rendered.** -/
theorem exists_renderTail {compiler : Compiler} {schema : Schema} {terms : TermSet}
    {compiled : CompiledSearch} (hSound : compiler.Sound)
    (hCompiled : compiler.Compiled schema terms compiled) :
    ∃ fragment, compiler.renderTail compiled = .ok fragment := by
  refine Sql.Rendering.exists_render_iff.mpr ?_
  rw [tail, Sql.Rendering.isDone_append_iff, Sql.Rendering.isDone_append_iff,
    and_iff_right (Sql.Rendering.isDone_fixed _), Sql.isDone_renderPredicate_iff]
  refine ⟨hCompiled.expressible hSound, ?_⟩
  cases hSorting : compiled.sorting with
  | none => exact Sql.Rendering.isDone_done []
  | some sorting =>
      refine Sql.Rendering.isDone_append_iff.mpr ⟨Sql.Rendering.isDone_fixed _, ?_⟩
      exact Sql.isDone_renderSorting_iff.mpr (hCompiled.expressible_sorting hSound hSorting)

end Compiler
end FieldSearch
