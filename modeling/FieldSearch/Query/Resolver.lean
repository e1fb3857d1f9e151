import FieldSearch.Query.Modifier
import FieldSearch.Query.Page
import FieldSearch.Search.Compiler
import FieldSearch.Store.Basic

/-!
# Resolving requests

A resolver turns requests into statements for a store and fetches what they select. Its
configuration and strategy are settled when it is made, so that a request can only fail for what it
asks. A list request is refused for its ids before its page, for its page before its ids' types, for
these before its terms, and for the modifier last.

## Main results

* `outcome_prepareLookup`: what a lookup comes to, events aside.
-/

namespace FieldSearch

/-- How requests are resolved against a store. -/
structure Resolver where
  config : SearchConfig
  compiler : Compiler
  modifier : Modifier := .keep

namespace Resolver

/-- The resolver of a configuration for a store. -/
def create (store : Store) (config : SearchConfig) : Logged StorageError Resolver := do
  .of (config.validate.mapError .config)
  let compiler ← (Compiler.create config store.backend store.searchCapabilities).mapError .search
  .report .info "Record resolver initialized"
    [("backend", .text store.name), ("strategy", .text compiler.strategy.name),
      ("default_limit", .integer config.defaultLimit), ("max_limit", .integer config.maxLimit)]
  pure { config, compiler }

/-- The filter of ids on the primary key. -/
def idFilter (schema : Schema) (ids : List RecordId) : Except QueryError Filter := do
  let values ← ids.mapM fun id =>
    match id.toValue? schema.key.type with
    | some value => pure value
    | none => throw (schema.mismatch schema.key)
  pure (.idIn schema.key.name values)

/-- The selection with the filter of ids, if there are any given. -/
def withIds (schema : Schema) (select : Select) : Option (List RecordId) → Except QueryError Select
  | none => pure select
  | some ids => do
      let filter ← idFilter schema ids
      pure (select.filter filter)

/-- The selection with the condition and the order of a compiled search. -/
def withSearch (select : Select) (compiled : CompiledSearch) : Select :=
  let select :=
    if compiled.predicate.isAlways then select else select.filter (.search compiled.predicate)
  match compiled.sorting with
  | some sorting => select.orderBy sorting
  | none => select

/-- The selection with a search for terms, if there are any given. -/
def withTerms (resolver : Resolver) (schema : Schema) (select : Select) :
    Option TermSet → Logged SearchError Select
  | none => pure select
  | some terms => do
      let compiled ← resolver.compiler.compile schema terms
      pure (withSearch select compiled)

/-- A modified and rendered selection. -/
def finish (resolver : Resolver) (schema : Schema) (select : Select) :
    Except StorageError Prepared := do
  let select ← (resolver.modifier.modify schema select).mapError .query
  let fragment ← (resolver.compiler.writer.renderSelect select).mapError .search
  pure ⟨select, fragment⟩

/-- The statement of a list request. -/
def prepareList (resolver : Resolver) (schema : Schema) (request : ListRequest) :
    Logged StorageError Prepared := do
  if request.ids.isNone && !schema.allowsUnfilteredFetch then
    .fail (.query (.unfilteredFetchNotAllowed schema.name))
  let page ← (request.page resolver.config).mapError .query
  let select ← .of ((withIds schema (.ofSchema schema) request.ids).mapError .query)
  let select ← (resolver.withTerms schema select request.terms).mapError .search
  let prepared ← .of (resolver.finish schema (select.page page.limit page.offset))
  .report .debug "Prepared list query"
    [("record", .text schema.name), ("sql", .text prepared.fragment.sql),
      ("params", .integer prepared.fragment.params.length)]
  pure prepared

/-- The selection of a lookup. -/
def lookupSelect (schema : Schema) (id : RecordId) : Except QueryError Select := do
  let filter ← idFilter schema [id]
  pure (((Select.ofSchema schema).filter filter).page 1 0)

/-- The statement of a lookup, reporting nothing. -/
def prepareId (resolver : Resolver) (schema : Schema) (id : RecordId) :
    Except StorageError Prepared := do
  let select ← (lookupSelect schema id).mapError .query
  resolver.finish schema select

/-- The statement of a lookup. -/
def prepareLookup (resolver : Resolver) (schema : Schema) (id : RecordId) :
    Logged StorageError Prepared := do
  let prepared ← .of (resolver.prepareId schema id)
  .report .debug "Prepared lookup query"
    [("record", .text schema.name), ("sql", .text prepared.fragment.sql)]
  pure prepared

/-- Fetches what a statement selects, if there is a statement. -/
def fetch (store : Store) (schema : Schema) (prepared : Logged StorageError Prepared) :
    Logged StorageError (List Record) × Store :=
  match prepared.outcome with
  | .error error => (⟨.error error, prepared.events⟩, store)
  | .ok statement =>
      let (fetched, next) := store.fetch schema statement
      (⟨fetched.outcome, prepared.events ++ fetched.events⟩, next)

/-- The records of a list request. -/
def list (resolver : Resolver) (store : Store) (schema : Schema) (request : ListRequest) :
    Logged StorageError (List Record) × Store :=
  let (fetched, next) := fetch store schema (resolver.prepareList schema request)
  (do
    let records ← fetched
    .report .debug "Resolved list query" [("rows", .integer records.length)]
    pure records,
    next)

/-- The record of an id. -/
def lookup (resolver : Resolver) (store : Store) (schema : Schema) (id : RecordId) :
    Logged StorageError Record × Store :=
  let (fetched, next) := fetch store schema (resolver.prepareLookup schema id)
  (do
    match ← fetched with
    | record :: _ => pure record
    | [] => .fail (.query (.notFound schema.name id.display)),
    next)

@[simp]
theorem outcome_prepareLookup (resolver : Resolver) (schema : Schema) (id : RecordId) :
    (resolver.prepareLookup schema id).outcome = resolver.prepareId schema id := by
  simp only [prepareLookup, Logged.outcome_bind, Logged.outcome_of]
  cases resolver.prepareId schema id <;> rfl

end Resolver
end FieldSearch
