import FieldSearch.Logged
import FieldSearch.Schema.Basic
import FieldSearch.Search.Config
import FieldSearch.Search.Render

/-!
# Compiling searches

A compiler knows the strategy, the dialect and the text search configuration. It turns the terms of
a request into a condition and, when the strategy ranks, an order. A strategy that the dialect
cannot express is refused when the compiler is made, so that no request fails for it; a strategy
that was left open falls back to the generic one instead.

## Main results

* `outcome_compile`: what compiling gives, events aside.
-/

namespace FieldSearch

/-- The condition and the order of a search. -/
structure CompiledSearch where
  predicate : Predicate
  sorting : Option Sorting
deriving BEq, Repr

/-- How searches are compiled for a backend. -/
structure Compiler where
  strategy : Strategy
  dialect : Sql.Dialect
  textSearchConfig : Option String
deriving DecidableEq, Repr

namespace Compiler

/-- The strategy that a configuration comes to on a backend whose capabilities are given; they may
have been configured beyond what its dialect can express. -/
def chooseStrategy (choice : StrategyChoice) (backend : Backend)
    (capabilities : SearchCapabilities) : Except SearchError Strategy := do
  let strategy ← choice.resolve capabilities backend
  if strategy = .fullTextPrefix ∧ !backend.dialect.supportsFullText then
    if choice = .auto then pure .generic
    else throw (.unsupportedStrategy strategy.name backend.name)
  else pure strategy

/-- The compiler of a configuration for a backend. -/
def create (config : SearchConfig) (backend : Backend) (capabilities : SearchCapabilities) :
    Logged SearchError Compiler := do
  let strategy ← .of (chooseStrategy config.strategy backend capabilities)
  .report .debug "Resolved search strategy"
    [("backend", .text backend.name), ("mode", .text config.strategy.name),
      ("strategy", .text strategy.name)]
  pure ⟨strategy, backend.dialect, config.textSearchConfig⟩

/-- The condition and the order of terms on a record type. -/
def compileTerms (compiler : Compiler) (schema : Schema) (terms : TermSet) :
    Except SearchError CompiledSearch := do
  let predicate ← Predicate.forTerms schema.searchable terms compiler.strategy
  let sorting ←
    if compiler.strategy.ranks then Sorting.forTerms schema.searchable terms schema.primaryKey
    else pure none
  pure ⟨predicate, sorting⟩

/-- Compiles terms, and reports what came of them. -/
def compile (compiler : Compiler) (schema : Schema) (terms : TermSet) :
    Logged SearchError CompiledSearch := do
  let compiled ← .of (compiler.compileTerms schema terms)
  .report .debug "Compiled search"
    [("record", .text schema.name), ("strategy", .text compiler.strategy.name),
      ("clauses", .integer compiled.predicate.clauses.length),
      ("ranked", .bool compiled.sorting.isSome)]
  pure compiled

/-- The writer of the statements that the compiled conditions go into. -/
def writer (compiler : Compiler) : Sql.Writer :=
  { dialect := compiler.dialect, textSearchConfig := compiler.textSearchConfig }

/-- The end of a statement that a compiled search makes by itself. -/
def tail (compiler : Compiler) (compiled : CompiledSearch) : Sql.Rendering :=
  .fixed "WHERE " ++
    Sql.renderPredicate compiler.dialect compiler.textSearchConfig compiled.predicate ++
    (match compiled.sorting with
      | some sorting => .fixed " ORDER BY " ++ Sql.renderSorting compiler.dialect sorting
      | none => .done [])

/-- The end of a statement, rendered. -/
def renderTail (compiler : Compiler) (compiled : CompiledSearch) :
    Except SearchError Sql.Fragment :=
  (compiler.tail compiled).render compiler.writer

@[simp]
theorem outcome_compile (compiler : Compiler) (schema : Schema) (terms : TermSet) :
    (compiler.compile schema terms).outcome = compiler.compileTerms schema terms := by
  simp only [compile, Logged.outcome_bind, Logged.outcome_of]
  cases compiler.compileTerms schema terms <;> rfl

end Compiler
end FieldSearch
