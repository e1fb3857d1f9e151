import FieldSearch.Proofs.Query.Page
import FieldSearch.Proofs.Query.Refusal
import FieldSearch.Proofs.Schema.Statements
import FieldSearch.Proofs.Sql.Placeholders
import Mathlib

/-!
# The end of a statement

A compiled search is rendered by itself, as the end of a statement that someone else
begins, and it is rendered in the statement of a list request.  The two are put together
by different functions.  The end has its condition even if this narrows nothing, and no
order if nothing is ranked; the statement leaves such a condition out and has the order of
the primary key instead.

What a part reads like depends on what was bound before it, since its placeholders are
numbered from there.  So parts are written one behind the other, each by the writer that
the last one has left.  What stands before the condition binds nothing, and a condition
that is left out would bind nothing, so the parts of the two are written by the same
writers and read the same.

## Main results

* `render_append`: what is written for one rendering behind another.
* `renderSelect_withSearch`: how the statement of a search reads.
* `statement_ends_in_tail`: the end of a search beside the statement of a request with
  its terms.
-/

namespace FieldSearch

namespace Sql

/-- The writer behind a part that was written. -/
def Writer.behind (writer : Writer) (written : Fragment) : Writer :=
  { writer with params := written.params }

namespace Rendering

variable {writer : Writer}

theorem render_done (template : Template) :
    (Rendering.done template).render writer =
      .ok ⟨String.join (template.texts writer.dialect writer.params.length),
        writer.params ++ template.values⟩ := rfl

/-- Fixed text is written as it is. -/
theorem render_fixed (text : String) :
    (fixed text).render writer = .ok ⟨text, writer.params⟩ := by
  rw [fixed, render_done]
  simp [Template.texts, Template.values, Piece.text, Piece.values]

theorem render_done_nil : (Rendering.done []).render writer = .ok ⟨"", writer.params⟩ := by
  rw [render_done, Template.values, List.flatMap_nil, List.append_nil]
  rfl

/-- **One rendering is written behind another** by the writer that the other has left. -/
theorem render_append {left right : Rendering} {first second : Fragment}
    (hLeft : left.render writer = .ok first)
    (hRight : right.render (writer.behind first) = .ok second) :
    (left ++ right).render writer = .ok ⟨first.sql ++ second.sql, second.params⟩ := by
  cases left with
  | refused before fault => cases hLeft
  | done front =>
      cases right with
      | refused before fault => cases hRight
      | done back =>
          rw [render_done] at hLeft hRight
          obtain rfl := Except.ok.inj hLeft
          obtain rfl := Except.ok.inj hRight
          rw [done_append_done, render_done, Template.texts_append, String.join_append,
            Template.values_append, ← List.append_assoc]
          simp only [Writer.behind, List.length_append]

/-- Text in front of a rendering leaves what is bound as it is. -/
theorem render_fixed_append {rendering : Rendering} {written : Fragment} (text : String)
    (h : rendering.render writer = .ok written) :
    (fixed text ++ rendering).render writer = .ok ⟨text ++ written.sql, written.params⟩ :=
  render_append (render_fixed text) h

end Rendering

/-! ## Parts of a selection -/

/-- The text of the columns and the table of a selection. -/
def headText (select : Select) : String :=
  "SELECT " ++ ", ".intercalate (select.columns.map Text.quoteIdentifier) ++ " FROM " ++
    Text.quoteIdentifier select.table

/-- The text of a page. -/
def pageText (limit offset : Int) : String :=
  " LIMIT " ++ toString limit ++ (if 0 < offset then " OFFSET " ++ toString offset else "")

variable {writer : Writer}

theorem render_selectHead (select : Select) :
    (Rendering.done (selectHead select)).render writer =
      .ok ⟨headText select, writer.params⟩ := by
  have hNames : (select.columns.map fun column => [Piece.name column]) =
      (select.columns.map Piece.name).map fun piece => [piece] := by
    rw [List.map_map]
    rfl
  rw [Rendering.render_done, values_selectHead, List.append_nil, selectHead, hNames]
  simp only [Template.texts_append, String.join_append, Template.join_texts_joined,
    Template.texts_names]
  simp [headText, Template.texts, Piece.text, String.append_assoc]

theorem render_renderPage (limit offset : Int) :
    (renderPage (some limit) offset).render writer =
      .ok ⟨pageText limit offset, writer.params⟩ := by
  by_cases hOffset : 0 < offset
  · rw [renderPage, if_pos hOffset, pageText, if_pos hOffset]
    exact Rendering.render_append (Rendering.render_fixed _) (Rendering.render_fixed _)
  · rw [renderPage, if_neg hOffset, pageText, if_neg hOffset, Rendering.append_done_nil,
      String.append_empty]
    exact Rendering.render_fixed _

theorem renderWhere_search {dialect : Dialect} {config : Option String} {predicate : Predicate}
    (h : predicate.isAlways = false) :
    renderWhere dialect config [.search predicate] =
      .fixed " WHERE " ++ renderPredicate dialect config predicate := by
  cases predicate with
  | always => cases h
  | _ => rfl

theorem renderOrderBy_of_ne_nil {dialect : Dialect} {sorting : Sorting} (h : sorting.keys ≠ []) :
    renderOrderBy dialect sorting = .fixed " ORDER BY " ++ renderSorting dialect sorting := by
  obtain ⟨keys⟩ := sorting
  cases keys with
  | nil => exact absurd rfl h
  | cons first rest => rfl

/-- A column is ordered by from its least value on, and binds nothing. -/
theorem render_byColumn (dialect : Dialect) (name : String) :
    (renderOrderBy dialect (.byColumn name)).render writer =
      .ok ⟨" ORDER BY " ++ Text.quoteIdentifier name ++ " ASC", writer.params⟩ := by
  have hOrder : renderOrderBy dialect (.byColumn name) =
      .done [.fixed " ORDER BY ", .name name, .fixed " ASC"] := rfl
  rw [hOrder, Rendering.render_done]
  simp [Template.texts, Template.values, Piece.text, Piece.values, String.append_assoc]

end Sql

/-! ## Parts of a search -/

namespace Compiler

/-- The condition and the order of a compiled search as they are written, the one behind the other.
Where nothing is ranked, nothing is written for the order. -/
structure Writes (compiler : Compiler) (compiled : CompiledSearch)
    (condition order : Sql.Fragment) : Prop where
  predicate :
    (Sql.renderPredicate compiler.dialect compiler.textSearchConfig compiled.predicate).render
      compiler.writer = .ok condition
  unranked : compiled.sorting = none → order = ⟨"", condition.params⟩
  ranked : ∀ sorting, compiled.sorting = some sorting → ∃ keys,
    (Sql.renderSorting compiler.dialect sorting).render (compiler.writer.behind condition) =
      .ok keys ∧ order = ⟨" ORDER BY " ++ keys.sql, keys.params⟩

variable {compiler : Compiler} {schema : Schema} {terms : TermSet} {compiled : CompiledSearch}
  {condition order : Sql.Fragment}

/-- What a sound compiler has compiled can be written. -/
theorem Compiled.exists_writes (h : compiler.Compiled schema terms compiled)
    (hSound : compiler.Sound) : ∃ condition order, compiler.Writes compiled condition order := by
  have hPredicate : (Sql.renderPredicate compiler.dialect compiler.textSearchConfig
      compiled.predicate).IsDone :=
    (Sql.isDone_renderPredicate_iff _).mpr (h.expressible hSound)
  obtain ⟨condition, hCondition⟩ := Sql.Rendering.exists_render_iff.mpr hPredicate
  cases hSorting : compiled.sorting with
  | none =>
      refine ⟨condition, ⟨"", condition.params⟩, hCondition, fun _ => rfl, fun sorting hSome => ?_⟩
      rw [hSorting] at hSome
      cases hSome
  | some sorting =>
      obtain ⟨keys, hKeys⟩ := Sql.Rendering.exists_render_iff.mpr
        (Sql.isDone_renderSorting_iff.mpr (h.expressible_sorting hSound hSorting))
      refine ⟨condition, ⟨" ORDER BY " ++ keys.sql, keys.params⟩, hCondition, fun hNone => ?_,
        fun other hSome => ?_⟩
      · rw [hSorting] at hNone
        cases hNone
      · rw [hSorting] at hSome
        obtain rfl := Option.some.inj hSome
        exact ⟨keys, hKeys, rfl⟩

namespace Writes

/-- The end of a statement is the condition with the order. -/
theorem renderTail_eq (h : compiler.Writes compiled condition order) :
    compiler.renderTail compiled = .ok ⟨"WHERE " ++ condition.sql ++ order.sql, order.params⟩ := by
  rw [renderTail, tail]
  refine Sql.Rendering.render_append (Sql.Rendering.render_fixed_append _ h.predicate) ?_
  cases hSorting : compiled.sorting with
  | none =>
      rw [h.unranked hSorting]
      exact Sql.Rendering.render_done_nil
  | some sorting =>
      obtain ⟨keys, hKeys, rfl⟩ := h.ranked sorting hSorting
      exact Sql.Rendering.render_fixed_append _ hKeys

/-- The filters of a search are its condition, or none; what they bind is the same. -/
theorem renderWhere_eq (h : compiler.Writes compiled condition order) :
    (Sql.renderWhere compiler.dialect compiler.textSearchConfig
        (if compiled.predicate.isAlways then [] else [.search compiled.predicate])).render
      compiler.writer =
      .ok ⟨if compiled.predicate.isAlways then "" else " WHERE " ++ condition.sql,
        condition.params⟩ := by
  cases hAlways : compiled.predicate.isAlways with
  | true =>
      have hPredicate : compiled.predicate = .always := Predicate.isAlways_iff.mp hAlways
      have hCondition := h.predicate
      rw [hPredicate] at hCondition
      obtain rfl := Except.ok.inj hCondition
      rfl
  | false =>
      rw [if_neg Bool.false_ne_true, if_neg Bool.false_ne_true, Sql.renderWhere_search hAlways]
      exact Sql.Rendering.render_fixed_append _ h.predicate

/-- The order of a search is its ranking, or that of the primary key, which binds nothing. -/
theorem renderOrderBy_eq (h : compiler.Writes compiled condition order)
    (hKeys : ∀ sorting, compiled.sorting = some sorting → sorting.keys ≠ []) (name : String) :
    (Sql.renderOrderBy compiler.dialect (compiled.sorting.getD (.byColumn name))).render
        (compiler.writer.behind condition) =
      .ok ⟨if compiled.sorting.isSome then order.sql
        else " ORDER BY " ++ Text.quoteIdentifier name ++ " ASC", order.params⟩ := by
  cases hSorting : compiled.sorting with
  | none =>
      rw [h.unranked hSorting]
      exact Sql.render_byColumn _ name
  | some sorting =>
      obtain ⟨keys, hWritten, rfl⟩ := h.ranked sorting hSorting
      rw [Option.getD_some, Sql.renderOrderBy_of_ne_nil (hKeys sorting hSorting)]
      exact Sql.Rendering.render_fixed_append _ hWritten

end Writes
end Compiler

/-! ## Requests -/

namespace Resolver

theorem withSearch_eq (select : Select) (compiled : CompiledSearch) :
    withSearch select compiled =
      { select with
        filters := select.filters ++
          if compiled.predicate.isAlways then [] else [.search compiled.predicate]
        sorting := compiled.sorting.getD select.sorting } := by
  obtain ⟨predicate, sorting⟩ := compiled
  cases hAlways : predicate.isAlways <;> cases sorting <;>
    simp [withSearch, hAlways, Select.filter, Select.orderBy]

/-- **How the statement of a search reads** where nothing else narrows it. -/
theorem renderSelect_withSearch {compiler : Compiler} {compiled : CompiledSearch}
    {condition order : Sql.Fragment} (h : compiler.Writes compiled condition order)
    (hKeys : ∀ sorting, compiled.sorting = some sorting → sorting.keys ≠ []) (schema : Schema)
    (limit offset : Int) :
    compiler.writer.renderSelect ((withSearch (.ofSchema schema) compiled).page limit offset) =
      .ok ⟨Sql.headText (.ofSchema schema) ++
          (if compiled.predicate.isAlways then "" else " WHERE " ++ condition.sql) ++
          (if compiled.sorting.isSome then order.sql
            else " ORDER BY " ++ Text.quoteIdentifier schema.primaryKey ++ " ASC") ++
          Sql.pageText limit offset, order.params⟩ := by
  rw [withSearch_eq]
  have hHead := Sql.Rendering.render_append
    (@Sql.render_selectHead compiler.writer (.ofSchema schema)) h.renderWhere_eq
  have hBody := Sql.Rendering.render_append hHead (h.renderOrderBy_eq hKeys schema.primaryKey)
  exact Sql.Rendering.render_append hBody (Sql.render_renderPage limit offset)

/-- **The end of a search is the end of its statement.**  A resolver as it was made for a store
renders the terms that it compiles as the end of a statement.  A request with these terms and
without ids is prepared for every page, if the record type may be listed, with the same parameters:
behind the columns and the table, its statement reads like that end, in the condition and in the
order, except that a condition that narrows nothing is left out and that the primary key stands in
for an order, if there is none. -/
theorem statement_ends_in_tail {store : Store} {config : SearchConfig} {resolver : Resolver}
    (hMade : (create store config).outcome = .ok resolver) {schema : Schema}
    (hListed : schema.allowsUnfilteredFetch = true) {terms : TermSet} {compiled : CompiledSearch}
    (hCompiled : (resolver.compiler.compile schema terms).outcome = .ok compiled)
    {request : ListRequest} (hIds : request.ids = none) (hTerms : request.terms = some terms)
    (hLimit : ∀ limit ∈ request.limit, 0 ≤ limit)
    (hOffset : ∀ offset ∈ request.offset, 0 ≤ offset) :
    ∃ condition order tail prepared,
      resolver.compiler.Writes compiled condition order ∧
      resolver.compiler.renderTail compiled = .ok tail ∧
      (resolver.prepareList schema request).outcome = .ok prepared ∧
      prepared.fragment.params = tail.params ∧
      tail.sql = "WHERE " ++ condition.sql ++ order.sql ∧
      prepared.fragment.sql =
        Sql.headText (.ofSchema schema) ++
          (if compiled.predicate.isAlways then "" else " WHERE " ++ condition.sql) ++
          (if compiled.sorting.isSome then order.sql
            else " ORDER BY " ++ Text.quoteIdentifier schema.primaryKey ++ " ASC") ++
          Sql.pageText (request.grantedLimit config) (request.offset.getD 0) := by
  obtain ⟨_, -, hMade⟩ := Logged.outcome_bind_eq_ok.mp hMade
  obtain ⟨compiler, hCompiler, hMade⟩ := Logged.outcome_bind_eq_ok.mp hMade
  obtain rfl := Except.ok.inj hMade
  rw [Logged.outcome_mapError, mapError_eq_ok] at hCompiler
  have hSound := Compiler.sound_of_create hCompiler
  have hMeaning : compiler.Compiled schema terms compiled := by
    rw [Compiler.outcome_compile] at hCompiled
    exact Compiler.compileTerms_eq_ok hCompiled
  obtain ⟨condition, order, hWrites⟩ := hMeaning.exists_writes hSound
  have hKeys : ∀ sorting, compiled.sorting = some sorting → sorting.keys ≠ [] := by
    intro sorting hSorting
    obtain ⟨-, pairs, -, rfl⟩ := hMeaning.exists_ranking hSorting
    exact List.cons_ne_nil _ _
  have hPage := @ListRequest.page_of_nonneg request config hLimit hOffset
  have hSearched : (Resolver.withTerms { config, compiler } schema (.ofSchema schema)
      request.terms).outcome = .ok (withSearch (.ofSchema schema) compiled) := by
    rw [hTerms]
    exact Logged.outcome_bind_eq_ok.mpr ⟨compiled, hCompiled, rfl⟩
  have hRendered := renderSelect_withSearch hWrites hKeys schema (request.grantedLimit config)
    (request.offset.getD 0)
  have hFinished : finish { config, compiler } schema
      ((withSearch (.ofSchema schema) compiled).page (request.grantedLimit config)
        (request.offset.getD 0)) = .ok ⟨_, _⟩ :=
    bind_eq_ok.mpr ⟨_, rfl, bind_eq_ok.mpr ⟨_, mapError_eq_ok.mpr hRendered, rfl⟩⟩
  have hBase : withIds schema (.ofSchema schema) request.ids = .ok (.ofSchema schema) := by
    rw [hIds]
    rfl
  exact ⟨condition, order, _, _, hWrites, hWrites.renderTail_eq,
    prepareList_of_steps (fun _ => hListed) hPage hBase hSearched hFinished, rfl, rfl, rfl⟩

/-- The third page of three heroes that are looked for by name, in a database that ranks them: the
placeholder of the condition and those of the order are the same in both texts. -/
theorem statement_ends_in_tail_of_heroes :
    let store : Store :=
      .recorder { backend := .postgres, capabilities := Backend.postgres.capabilities }
    let terms : TermSet := .ofList [("name", some "bat")]
    let ending := "to_tsvector(\"name\") @@ to_tsquery($1) ORDER BY " ++
      "CASE WHEN \"name\" ILIKE $2 ESCAPE '\\' THEN 1 ELSE 0 END DESC, " ++
      "NULLIF(POSITION(LOWER($3::text) IN LOWER(\"name\")), 0) ASC NULLS LAST, \"id\" ASC"
    ∃ resolver compiled tail prepared, (create store {}).outcome = .ok resolver ∧
      (resolver.compiler.compile .heroes terms).outcome = .ok compiled ∧
      resolver.compiler.renderTail compiled = .ok tail ∧
      (resolver.prepareList .heroes
        { limit := some 3, offset := some 6, terms := some terms }).outcome = .ok prepared ∧
      prepared.fragment.params = tail.params ∧
      tail.sql = "WHERE " ++ ending ∧
      prepared.fragment.sql = "SELECT \"id\", \"name\", \"alias\", \"team\" FROM \"heroes\"" ++
        " WHERE " ++ ending ++ " LIMIT 3 OFFSET 6" := by
  intro store terms ending
  let request : ListRequest := { limit := some 3, offset := some 6, terms := some terms }
  let compiler : Compiler := ⟨.fullTextPrefix, .postgres, none⟩
  have hMade : (create store {}).outcome = .ok ⟨{}, compiler, .keep⟩ := rfl
  have hListed : Schema.heroes.allowsUnfilteredFetch = true := rfl
  have hCompiled : (compiler.compile .heroes terms).outcome =
      .ok ⟨.single (.beginsWords "name" ["bat"]), some (.ranking [⟨"name", "bat"⟩] "id")⟩ := rfl
  have hIds : request.ids = none := rfl
  obtain ⟨condition, order, tail, prepared, hWrites, hTail, hPrepared, hParams, hEnd, hStatement⟩ :=
    statement_ends_in_tail hMade hListed hCompiled hIds rfl (by decide) (by decide)
  obtain rfl := Except.ok.inj hWrites.predicate
  obtain ⟨keys, hKeys, rfl⟩ := hWrites.ranked _ rfl
  obtain rfl := Except.ok.inj hKeys
  exact ⟨_, _, tail, prepared, hMade, hCompiled, hTail, hPrepared, hParams,
    hEnd.trans (by decide +kernel), hStatement.trans (by decide +kernel)⟩

end Resolver
end FieldSearch
