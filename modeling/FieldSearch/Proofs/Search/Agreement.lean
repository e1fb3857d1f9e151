import FieldSearch.Proofs.Query.Ranking
import Mathlib

/-!
# Conditions and orders of one search

The condition of a search and its order are made in two passes over the declared fields.
The one passes over a term without words because nothing begins with no word, the other
because such a term has no place in a ranking, and a set without terms is let through by
the one before it looks at any field.  They keep the same fields all the same: the
clauses of the condition are those of the pairs that are ranked, one for one, so that no
record is ranked by a field that it was not found by.

An order without pairs is none, and a condition without clauses is trivial, so the two
are there together or not at all.

## Main results

* `sought_fullTextPrefix`: the clauses that are sought are those of the ranked pairs.
* `Compiled.clauses_eq`, `Compiled.isTrivial_iff`: a compiled condition beside its ranking.
* `ranks_what_it_seeks`: the two of every search that is compiled.
-/

namespace FieldSearch

/-- The clause on the words of a term. -/
def FieldTerm.clause (pair : FieldTerm) : Clause := .beginsWords pair.field (Text.words pair.term)

namespace Predicate

/-- **What is sought by words is what is ranked**, field by field. -/
theorem sought_fullTextPrefix (fields : FieldSet) (terms : TermSet) :
    sought fields terms .fullTextPrefix =
      (Sorting.ranked fields terms).map FieldTerm.clause := by
  rw [sought, Sorting.ranked]
  induction fields.fields with
  | nil => rfl
  | cons field rest ih =>
      rw [List.filterMap_cons, List.filterMap_cons, ih, soughtIn]
      cases terms.term? field with
      | none => rfl
      | some term =>
          rw [Option.bind_some, clause?]
          dsimp only
          cases hWords : Text.words term with
          | nil => rfl
          | cons first others =>
              rw [List.isEmpty_cons, if_neg Bool.false_ne_true, List.map_cons, FieldTerm.clause,
                hWords]

end Predicate

namespace Sorting

/-- Without terms there is nothing to rank. -/
theorem ranked_eq_nil_of_hasTerms {fields : FieldSet} {terms : TermSet}
    (h : terms.hasTerms = false) : ranked fields terms = [] := by
  refine List.eq_nil_iff_forall_not_mem.mpr fun pair hPair => ?_
  have hSome : terms.hasTerms = true :=
    TermSet.hasTerms_iff_exists_gives.mpr ⟨_, _, (mem_ranked_iff.mp hPair).given⟩
  rw [h] at hSome
  cases hSome

end Sorting

namespace Compiler

section

variable {compiler : Compiler} {schema : Schema} {terms : TermSet} {compiled : CompiledSearch}

/-- **The clauses of a condition are those of the ranked pairs**, in their order. -/
theorem Compiled.clauses_eq (h : compiler.Compiled schema terms compiled)
    (hStrategy : compiler.strategy = .fullTextPrefix) :
    compiled.predicate.clauses =
      (Sorting.ranked schema.searchable terms).map FieldTerm.clause := by
  rw [h.predicate, hStrategy]
  cases hTerms : terms.hasTerms with
  | false =>
      rw [Sorting.ranked_eq_nil_of_hasTerms hTerms]
      rfl
  | true =>
      rw [if_pos rfl, Predicate.anyOf_searched, Predicate.clauses_anyOf_map_single,
        Predicate.sought_fullTextPrefix]

/-- A condition is trivial, one way or the other, exactly if nothing is ranked. -/
theorem Compiled.isTrivial_iff (h : compiler.Compiled schema terms compiled)
    (hStrategy : compiler.strategy = .fullTextPrefix) :
    (compiled.predicate = .always ∨ compiled.predicate = .never) ↔
      Sorting.ranked schema.searchable terms = [] := by
  rw [h.predicate, hStrategy]
  cases hTerms : terms.hasTerms with
  | false => exact iff_of_true (.inl rfl) (Sorting.ranked_eq_nil_of_hasTerms hTerms)
  | true =>
      have hOffers := Predicate.offers_anyOf_map_single
        (Predicate.sought schema.searchable terms .fullTextPrefix)
      rw [if_pos rfl, Predicate.anyOf_searched, or_iff_right hOffers.ne_always,
        hOffers.eq_never_iff, Predicate.sought_fullTextPrefix, List.map_eq_nil_iff]

/-- What is compiled has an order exactly if some pair is ranked, and then it is the ranking of
these pairs. -/
theorem Compiled.sorting_eq_some_iff (h : compiler.Compiled schema terms compiled)
    (hStrategy : compiler.strategy = .fullTextPrefix) {sorting : Sorting} :
    compiled.sorting = some sorting ↔
      Sorting.ranked schema.searchable terms ≠ [] ∧
        sorting = .ranking (Sorting.ranked schema.searchable terms) schema.primaryKey := by
  rw [h.sorting, hStrategy, ← Sorting.ofRanked_eq_some_iff]
  rfl

end

/-- **A search ranks what it seeks.**  Where words are looked for, what is compiled has an order
exactly if its condition is not trivial.  The order has three keys: whether a field begins with its
term, where the term occurs, and the primary key.  The first two are about the same pairs, which are
the declared fields whose terms have words, and the clauses of the condition are about these fields
and the words of these terms, one clause for each pair and in the same order.  Where terms are
looked for as they stand there is no order. -/
theorem ranks_what_it_seeks {compiler : Compiler} {schema : Schema} {terms : TermSet}
    {compiled : CompiledSearch} (h : (compiler.compile schema terms).outcome = .ok compiled) :
    (compiler.strategy = .fullTextPrefix →
      ((∃ sorting, compiled.sorting = some sorting) ↔
        compiled.predicate ≠ .always ∧ compiled.predicate ≠ .never) ∧
      ∀ sorting, compiled.sorting = some sorting → ∃ pairs,
        sorting.keys =
          [{ expr := .exactPrefix pairs, direction := .descending, nullsLast := false },
            { expr := .matchPosition pairs, direction := .ascending, nullsLast := true },
            { expr := .column schema.primaryKey, direction := .ascending, nullsLast := false }] ∧
        (∀ pair, pair ∈ pairs ↔ Sorting.Ranks schema.searchable terms pair) ∧
        compiled.predicate.clauses =
          pairs.map fun pair => .beginsWords pair.field (Text.words pair.term)) ∧
    (compiler.strategy = .generic → compiled.sorting = none) := by
  rw [outcome_compile] at h
  have hCompiled := compileTerms_eq_ok h
  refine ⟨fun hStrategy => ⟨?_, fun sorting hSorting => ?_⟩, fun hStrategy => ?_⟩
  · rw [← not_or, hCompiled.isTrivial_iff hStrategy]
    simp only [hCompiled.sorting_eq_some_iff hStrategy, exists_and_left, exists_eq, and_true, Ne]
  · obtain ⟨-, rfl⟩ := (hCompiled.sorting_eq_some_iff hStrategy).mp hSorting
    exact ⟨_, rfl, fun pair => Sorting.mem_ranked_iff, hCompiled.clauses_eq hStrategy⟩
  · rw [hCompiled.sorting, hStrategy]
    rfl

/-- Of a term of two words and a term without words, the first is what is sought and what is ranked;
with the second alone nothing is found and nothing ranked. -/
theorem ranks_what_it_seeks_of_heroes :
    let compiler : Compiler := ⟨.fullTextPrefix, .postgres, none⟩
    let terms : TermSet := .ofList [("alias", some "Dark Knight"), ("name", some "?!")]
    (∃ compiled sorting pairs, (compiler.compile .heroes terms).outcome = .ok compiled ∧
      compiled.predicate.clauses = [.beginsWords "alias" ["Dark", "Knight"]] ∧
      compiled.sorting = some sorting ∧
      sorting.keys.map SortKey.expr = [.exactPrefix pairs, .matchPosition pairs, .column "id"] ∧
      pairs.map FieldTerm.field = ["alias"]) ∧
    ∃ compiled, (compiler.compile .heroes (terms.insert "alias" none)).outcome = .ok compiled ∧
      compiled.predicate = .never ∧ ¬ ∃ sorting, compiled.sorting = some sorting := by
  intro compiler terms
  constructor
  · obtain ⟨compiled, hCompiled, hClauses⟩ : ∃ compiled,
        (compiler.compile .heroes terms).outcome = .ok compiled ∧
          compiled.predicate.clauses = [.beginsWords "alias" ["Dark", "Knight"]] :=
      ⟨_, rfl, by decide +kernel⟩
    have hSome : ∀ predicate, compiled.predicate = predicate → predicate.clauses ≠ [] := by
      rintro _ rfl
      rw [hClauses]
      exact List.cons_ne_nil _ _
    obtain ⟨hThere, hKeys⟩ := (ranks_what_it_seeks hCompiled).1 rfl
    obtain ⟨sorting, hSorting⟩ :=
      hThere.mpr ⟨fun h => hSome _ h rfl, fun h => hSome _ h rfl⟩
    obtain ⟨pairs, hExprs, -, hPairs⟩ := hKeys sorting hSorting
    refine ⟨compiled, sorting, pairs, hCompiled, hClauses, hSorting, ?_, ?_⟩
    · rw [hExprs]
      rfl
    · rw [hClauses] at hPairs
      have hFields := congrArg (List.map Clause.field) hPairs
      rw [List.map_map] at hFields
      exact hFields.symm
  · obtain ⟨compiled, hCompiled, hNever⟩ : ∃ compiled,
        (compiler.compile .heroes (terms.insert "alias" none)).outcome = .ok compiled ∧
          compiled.predicate = .never := ⟨_, rfl, rfl⟩
    have hThere := ((ranks_what_it_seeks hCompiled).1 rfl).1
    exact ⟨compiled, hCompiled, hNever, fun hSome => (hThere.mp hSome).2 hNever⟩

end Compiler
end FieldSearch
