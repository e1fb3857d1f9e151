import FieldSearch.Proofs.Query.Preparation
import FieldSearch.Proofs.Schema.Declaration
import FieldSearch.Proofs.Search.TermSet
import FieldSearch.Proofs.Sql.Mask
import Mathlib

/-!
# Statements are blind to what users enter

Two requests are alike if they differ only in what users enter: in the ids
but not in their number, in the terms but not in the classes of the fields.  Two
modifiers are alike if they differ at most in the value of a scope.  Requests
that are alike come to selections with the same mask, step by step, and so to
statements with the same text and as many parameters.

## Main results

* `masked_withSearch`, `masked_modify`: what is alike before a step is alike
  after it.
* `sql_blind`: statements for requests that are alike have the same text.
-/

namespace FieldSearch

/-- Modifiers that differ at most in the value of a scope, which is null in both or in neither. -/
inductive Modifier.Alike : Modifier → Modifier → Prop where
  | keep : Alike .keep .keep
  | scope (column : String) (lenient : Bool) {left right : Json}
      (null : left = .null ↔ right = .null) :
      Alike (.scope ⟨column, left, lenient⟩) (.scope ⟨column, right, lenient⟩)

/-- Requests that differ only in what users enter; no terms are the same as none for any field. -/
structure ListRequest.Alike (strategy : Strategy) (left right : ListRequest) : Prop where
  ids : left.ids.map List.length = right.ids.map List.length
  limit : left.limit = right.limit
  offset : left.offset = right.offset
  terms : TermSet.Alike strategy (left.terms.getD .empty) (right.terms.getD .empty)

/-! ## Masks of conditions -/

namespace Predicate

theorem isAlways_masked (predicate : Predicate) :
    predicate.masked.isAlways = predicate.isAlways := by
  cases predicate <;> rfl

theorem isNever_masked (predicate : Predicate) : predicate.masked.isNever = predicate.isNever := by
  cases predicate <;> rfl

/-- The normal form of a choice is decided by its shape. -/
theorem masked_anyOf (alternatives : List Predicate) :
    (anyOf alternatives).masked = anyOf (alternatives.map masked) := by
  have hKept : (alternatives.map masked).filter (!·.isNever) =
      (alternatives.filter (!·.isNever)).map masked := by
    rw [List.filter_map]
    refine congrArg _ (List.filter_congr fun alternative _ => ?_)
    simp [isNever_masked]
  have hAlways : ((alternatives.filter (!·.isNever)).map masked).any isAlways =
      (alternatives.filter (!·.isNever)).any isAlways := by
    rw [List.any_map]
    exact congrArg _ (funext isAlways_masked)
  simp only [anyOf, hKept, hAlways]
  generalize alternatives.filter (!·.isNever) = kept
  split
  · rfl
  · rcases kept with _ | ⟨first, _ | ⟨second, others⟩⟩
    · rfl
    · rfl
    · simp [masked, maskedAll_eq_map]

/-- What is left of the condition of a field, by the class of its term. -/
def ofClass (strategy : Strategy) (field : String) : TermClass → Option Predicate
  | .blank => none
  | .wordless =>
      match strategy with
      | .generic => some (.single (.contains field ""))
      | .fullTextPrefix => some .never
  | .worded =>
      match strategy with
      | .generic => some (.single (.contains field ""))
      | .fullTextPrefix => some (.single (.beginsWords field []))

theorem masked_forTerm (strategy : Strategy) (field : String) (set : TermSet) :
    ((set.term? field).map (forTerm strategy field)).map masked =
      ofClass strategy field (strategy.see (set.classOf field)) := by
  unfold TermSet.classOf
  cases set.term? field with
  | none => cases strategy <;> rfl
  | some term =>
      have hWords := Text.isEmpty_words term
      cases strategy with
      | generic =>
          cases hWord : Text.hasWord term <;>
            simp [hWord, Strategy.see, ofClass, forTerm, masked, Clause.masked]
      | fullTextPrefix =>
          cases hWord : Text.hasWord term <;> cases hList : Text.words term <;>
            simp [hWord, hList, Strategy.see, ofClass, forTerm, masked, Clause.masked] at hWords ⊢

theorem masked_searched {strategy : Strategy} {left right : TermSet}
    (hAlike : TermSet.Alike strategy left right) (fields : FieldSet) :
    (searched fields left strategy).map masked = (searched fields right strategy).map masked := by
  rw [searched, searched, List.map_filterMap, List.map_filterMap]
  refine List.filterMap_congr fun field _ => ?_
  rw [masked_forTerm, masked_forTerm, hAlike.classOf_eq field]

end Predicate

/-! ## Masks of orders -/

namespace Sorting

/-- A field that takes part in a ranking. -/
def rankedField (terms : TermSet) (field : String) : Option FieldTerm :=
  match terms.term? field with
  | some term => if (Text.words term).isEmpty then none else some ⟨field, term⟩
  | none => none

theorem masked_rankedField (terms : TermSet) (field : String) :
    (rankedField terms field).map FieldTerm.masked =
      if terms.classOf field = .worded then some ⟨field, ""⟩ else none := by
  unfold rankedField TermSet.classOf
  cases terms.term? field with
  | none => rfl
  | some term =>
      cases hWord : Text.hasWord term <;> simp [Text.isEmpty_words, hWord, FieldTerm.masked]

theorem masked_ranked {left right : TermSet}
    (hAlike : TermSet.Alike .fullTextPrefix left right) (fields : FieldSet) :
    (ranked fields left).map FieldTerm.masked = (ranked fields right).map FieldTerm.masked := by
  have hEach : ∀ terms, (ranked fields terms).map FieldTerm.masked =
      fields.fields.filterMap fun field => (rankedField terms field).map FieldTerm.masked :=
    fun terms => List.map_filterMap
  rw [hEach, hEach]
  refine List.filterMap_congr fun field _ => ?_
  have hClass : left.classOf field = right.classOf field := by
    simpa [Strategy.see] using hAlike.classOf_eq field
  rw [masked_rankedField, masked_rankedField, hClass]

theorem masked_ofRanked (primaryKey : String) {left right : List FieldTerm}
    (h : left.map FieldTerm.masked = right.map FieldTerm.masked) :
    (ofRanked primaryKey left).map masked = (ofRanked primaryKey right).map masked := by
  cases left with
  | nil =>
      cases right with
      | nil => rfl
      | cons _ _ => simp at h
  | cons first rest =>
      cases right with
      | nil => simp at h
      | cons second others =>
          simp only [ofRanked, Option.map_some, masked, ranking, List.map_cons, List.map_nil,
            SortKey.masked, RankExpr.masked] at h ⊢
          rw [h]

end Sorting

/-! ## Masks of selections, step by step -/

theorem Select.masked_filter (select : Select) (filter : Filter) :
    (select.filter filter).masked = select.masked.filter filter.masked := by
  simp [Select.filter, Select.masked]

theorem Select.masked_page (select : Select) (limit offset : Int) :
    (select.page limit offset).masked = select.masked.page limit offset := rfl

theorem Filter.masked_idIn (column : String) (ids : List Sql.Value) :
    (Filter.idIn column ids).masked = .idIn column (List.replicate ids.length .null) := by
  rw [Filter.masked, List.map_const']

/-- A value of a column is null exactly if null was given. -/
theorem Sql.Value.masked_eq {left right : Sql.Value} (h : left = .null ↔ right = .null) :
    left.masked = right.masked := by
  cases left <;> cases right <;> simp [Sql.Value.masked] at h ⊢

theorem masked_modify {schema : Schema} {left right : Modifier} (hAlike : left.Alike right)
    {first second before after : Select} (hMasked : first.masked = second.masked)
    (hFirst : left.modify schema first = .ok before)
    (hSecond : right.modify schema second = .ok after) : before.masked = after.masked := by
  cases hAlike with
  | keep =>
      obtain rfl := Except.ok.inj hFirst
      obtain rfl := Except.ok.inj hSecond
      exact hMasked
  | scope column lenient null =>
      rcases Scope.apply_eq_ok hFirst with ⟨hNone, rfl⟩ | ⟨found, value, hSome, hValue, rfl⟩
      · rcases Scope.apply_eq_ok hSecond with ⟨-, rfl⟩ | ⟨other, _, hOther, -, -⟩
        · exact hMasked
        · cases hNone.symm.trans hOther
      · rcases Scope.apply_eq_ok hSecond with ⟨hNone, -⟩ | ⟨other, second, hOther, hSecond, rfl⟩
        · cases hNone.symm.trans hSome
        · obtain rfl := Option.some.inj (hSome.symm.trans hOther)
          have hNull : value = .null ↔ second = .null := by
            rw [ColumnType.toValue?_eq_null hValue, ColumnType.toValue?_eq_null hSecond]
            exact null
          rw [Select.masked_filter, Select.masked_filter, hMasked, Filter.masked, Filter.masked,
            Sql.Value.masked_eq hNull]

theorem masked_withSearch {left right : CompiledSearch}
    (hPredicate : left.predicate.masked = right.predicate.masked)
    (hSorting : left.sorting.map Sorting.masked = right.sorting.map Sorting.masked)
    {first second : Select} (hMasked : first.masked = second.masked) :
    (Resolver.withSearch first left).masked = (Resolver.withSearch second right).masked := by
  have hAlways : left.predicate.isAlways = right.predicate.isAlways := by
    rw [← Predicate.isAlways_masked, hPredicate, Predicate.isAlways_masked]
  have hFiltered : (if left.predicate.isAlways then first
      else first.filter (.search left.predicate)).masked =
      (if right.predicate.isAlways then second
        else second.filter (.search right.predicate)).masked := by
    rw [hAlways]
    split
    · exact hMasked
    · rw [Select.masked_filter, Select.masked_filter, hMasked, Filter.masked, Filter.masked,
        hPredicate]
  unfold Resolver.withSearch
  cases hLeft : left.sorting with
  | none =>
      cases hRight : right.sorting with
      | none => exact hFiltered
      | some _ => simp [hLeft, hRight] at hSorting
  | some sorting =>
      cases hRight : right.sorting with
      | none => simp [hLeft, hRight] at hSorting
      | some other =>
          have hOrder : sorting.masked = other.masked := by simpa [hLeft, hRight] using hSorting
          exact congrArg₂ Select.orderBy hFiltered hOrder

/-- Terms that are not given are searched for like an empty set of terms. -/
theorem Compiler.compiled_empty (compiler : Compiler) (schema : Schema) :
    compiler.Compiled schema .empty ⟨.always, none⟩ := by
  have hRanked : Sorting.ranked schema.searchable .empty = [] := by
    rw [Sorting.ranked, List.filterMap_eq_nil_iff]
    exact fun field _ => rfl
  refine ⟨rfl, rfl, ?_⟩
  rw [hRanked]
  split <;> rfl

theorem Resolver.exists_compiled {resolver : Resolver} {schema : Schema}
    {select searched : Select} {terms : Option TermSet}
    (h : (resolver.withTerms schema select terms).outcome = .ok searched) :
    ∃ compiled, resolver.compiler.Compiled schema (terms.getD .empty) compiled ∧
      searched = withSearch select compiled := by
  rcases withTerms_eq_ok h with ⟨rfl, rfl⟩ | ⟨given, compiled, rfl, hCompiled, rfl⟩
  · exact ⟨⟨.always, none⟩, resolver.compiler.compiled_empty schema, rfl⟩
  · exact ⟨compiled, hCompiled, rfl⟩

/-- Terms that are alike are compiled to a condition and an order with the same masks. -/
theorem Compiler.Compiled.masked_eq {compiler : Compiler} {schema : Schema} {left right : TermSet}
    (hAlike : TermSet.Alike compiler.strategy left right) {first second : CompiledSearch}
    (hFirst : compiler.Compiled schema left first)
    (hSecond : compiler.Compiled schema right second) :
    first.predicate.masked = second.predicate.masked ∧
      first.sorting.map Sorting.masked = second.sorting.map Sorting.masked := by
  constructor
  · rw [hFirst.predicate, hSecond.predicate, hAlike.hasTerms_eq]
    split
    · rw [Predicate.masked_anyOf, Predicate.masked_anyOf, Predicate.masked_searched hAlike]
    · rfl
  · rw [hFirst.sorting, hSecond.sorting]
    cases hStrategy : compiler.strategy with
    | generic => rfl
    | fullTextPrefix =>
        rw [hStrategy] at hAlike
        exact Sorting.masked_ofRanked _ (Sorting.masked_ranked hAlike schema.searchable)

namespace Resolver

theorem masked_withIds {schema : Schema} {left right : Option (List RecordId)}
    (hAlike : left.map List.length = right.map List.length) {select first second : Select}
    (hFirst : withIds schema select left = .ok first)
    (hSecond : withIds schema select right = .ok second) : first.masked = second.masked := by
  rcases withIds_eq_ok hFirst with ⟨rfl, rfl⟩ | ⟨given, values, rfl, hValues, rfl⟩ <;>
    rcases withIds_eq_ok hSecond with ⟨rfl, rfl⟩ | ⟨others, results, rfl, hResults, rfl⟩
  · rfl
  · simp at hAlike
  · simp at hAlike
  · have hLength : values.length = results.length := by
      rw [← hValues.length_eq, ← hResults.length_eq]
      simpa using hAlike
    rw [Select.masked_filter, Select.masked_filter, Filter.masked_idIn, Filter.masked_idIn,
      hLength]

theorem sql_eq_of_finish {resolver : Resolver} {schema : Schema} {left right : Modifier}
    (hModifiers : left.Alike right) {first second : Select} (hMasked : first.masked = second.masked)
    {before after : Prepared}
    (hBefore : { resolver with modifier := left }.finish schema first = .ok before)
    (hAfter : { resolver with modifier := right }.finish schema second = .ok after) :
    before.fragment.sql = after.fragment.sql ∧
      before.fragment.params.length = after.fragment.params.length := by
  obtain ⟨hFirst, hLeft⟩ := finish_eq_ok hBefore
  obtain ⟨hSecond, hRight⟩ := finish_eq_ok hAfter
  exact Sql.sql_eq_of_masked_eq (masked_modify hModifiers hMasked hFirst hSecond) hLeft hRight

/-- **Statements are blind to what users enter.**  Two list requests that are alike, under modifiers
that are alike, have the same text and as many parameters if both are prepared; so have two
lookups, whatever their ids are. -/
theorem sql_blind (resolver : Resolver) (schema : Schema) (left right : Modifier)
    (hModifiers : left.Alike right) :
    (∀ first second : ListRequest, first.Alike resolver.compiler.strategy second →
      ∀ before after,
        ({ resolver with modifier := left }.prepareList schema first).outcome = .ok before →
        ({ resolver with modifier := right }.prepareList schema second).outcome = .ok after →
          before.fragment.sql = after.fragment.sql ∧
            before.fragment.params.length = after.fragment.params.length) ∧
    ∀ (first second : RecordId) (before after : Prepared),
      { resolver with modifier := left }.prepareId schema first = .ok before →
      { resolver with modifier := right }.prepareId schema second = .ok after →
        before.fragment.sql = after.fragment.sql ∧
          before.fragment.params.length = after.fragment.params.length := by
  constructor
  · intro first second hAlike before after hBefore hAfter
    obtain ⟨_, page, base, searched, hPage, hBase, hSearched, hFinish⟩ := prepareList_eq_ok hBefore
    obtain ⟨_, others, start, found, hOthers, hStart, hFound, hEnd⟩ := prepareList_eq_ok hAfter
    obtain ⟨compiled, hCompiled, rfl⟩ := exists_compiled hSearched
    obtain ⟨result, hResult, rfl⟩ := exists_compiled hFound
    have hSamePage : page = others := by
      rw [ListRequest.page, hAlike.limit, hAlike.offset] at hPage
      exact Except.ok.inj (hPage.symm.trans hOthers)
    subst hSamePage
    obtain ⟨hPredicate, hSorting⟩ := hCompiled.masked_eq hAlike.terms hResult
    have hBaseMasked := masked_withIds hAlike.ids hBase hStart
    have hMasked := masked_withSearch hPredicate hSorting hBaseMasked
    refine sql_eq_of_finish hModifiers ?_ hFinish hEnd
    rw [Select.masked_page, Select.masked_page, hMasked]
  · intro first second before after hBefore hAfter
    obtain ⟨value, _, hFinish⟩ := prepareId_eq_ok hBefore
    obtain ⟨other, _, hEnd⟩ := prepareId_eq_ok hAfter
    have hMasked :
        (((Select.ofSchema schema).filter (.idIn schema.key.name [value])).page 1 0).masked =
        (((Select.ofSchema schema).filter (.idIn schema.key.name [other])).page 1 0).masked := by
      rw [Select.masked_page, Select.masked_page, Select.masked_filter, Select.masked_filter]
      rfl
    exact sql_eq_of_finish hModifiers hMasked hFinish hEnd

/-- Two searches in two teams, and two lookups. -/
theorem sql_blind_teams :
    let resolver : Resolver :=
      { config := {}, compiler := ⟨.fullTextPrefix, .postgres, some "english"⟩ }
    let blue : Modifier := .scope ⟨"team", .text "blue", false⟩
    let red : Modifier := .scope ⟨"team", .text "red' OR '1' = '1", false⟩
    let first : ListRequest := {
      ids := some [.integer 1, .integer 2], limit := some 5,
      terms := some (.ofList [("name", some "bat"), ("alias", none)]) }
    let second : ListRequest := {
      ids := some [.integer 8, .text "9"], limit := some 5,
      terms := some (.ofList [("name", some "x'; DROP"), ("alias", some "")]) }
    (∃ before after,
      ({ resolver with modifier := blue }.prepareList .heroes first).outcome = .ok before ∧
      ({ resolver with modifier := red }.prepareList .heroes second).outcome = .ok after ∧
        before.fragment.sql = after.fragment.sql ∧
        before.fragment.params.length = after.fragment.params.length) ∧
    ∃ before after,
      { resolver with modifier := blue }.prepareId .heroes (.integer 1) = .ok before ∧
      { resolver with modifier := red }.prepareId .heroes (.text "2") = .ok after ∧
        before.fragment.sql = after.fragment.sql ∧
        before.fragment.params.length = after.fragment.params.length := by
  intro resolver blue red first second
  have hModifiers : blue.Alike red := .scope "team" false (by simp)
  have hTerms : TermSet.Alike .fullTextPrefix
      (.ofList [("name", some "bat"), ("alias", none)])
      (.ofList [("name", some "x'; DROP"), ("alias", some "")]) := by
    refine ⟨by rfl, fun field hField => ?_⟩
    rcases List.mem_cons.mp hField with rfl | hField
    · rfl
    · rcases List.mem_cons.mp hField with rfl | hField
      · rfl
      · cases hField
  have hAlike : first.Alike resolver.compiler.strategy second := ⟨rfl, rfl, rfl, hTerms⟩
  obtain ⟨hList, hLookup⟩ := sql_blind resolver .heroes blue red hModifiers
  exact ⟨⟨_, _, rfl, rfl, hList first second hAlike _ _ rfl rfl⟩,
    ⟨_, _, rfl, rfl, hLookup (.integer 1) (.text "2") _ _ rfl rfl⟩⟩

end Resolver
end FieldSearch
