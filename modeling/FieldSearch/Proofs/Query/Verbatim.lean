import FieldSearch.Proofs.Query.Listing
import FieldSearch.Proofs.Text.Surroundings
import Mathlib

/-!
# Terms that stand in a text as typed

A search for a term as it stands puts the term and the text into lower case, each
by itself, before it looks for the one in the other.  A term that is part of a
text is found there if its lower case is the same wherever it stands, and a
database takes its pattern.

A term with a capital sigma may end a word by itself and not within a text.  It is
then looked for with a final sigma and not found, though it stands in the text
letter by letter.

## Main results

* `contains_eq_true_of_settled`, `search_eq_true_of_settled`: what is found.
* `finds_part_iff`: the terms that are found in every text that they are part of.
* `list_of_final_sigma`: a record that is not listed though its name has the term.
-/

namespace FieldSearch

open Database (Cell Row Table Values evalClause)

/-! ## Clauses -/

theorem occurs_of_settled {term text : String} (hSettled : Text.Settled term.toList)
    (hPart : term.toList <:+: text.toList) : Cell.Occurs term text := by
  rw [Cell.Occurs, Text.toList_lowercase, Text.toList_lowercase]
  exact (Text.infix_of_settled hSettled hPart).map Cell.readChar

/-- A clause on a text is settled by whether its term occurs in it. -/
theorem evalClause_contains {values : Values} {field term text : String}
    (hTerm : Text.NulFree term) (hText : Text.NulFree text)
    (hShort : (Clause.contains field term).Short) (hValue : values field = .text text) :
    ∃ found, evalClause values (.contains field term) = .ok (some found) ∧
      (found = true ↔ Cell.Occurs term text) := by
  obtain ⟨found, hMatch, hFound⟩ := Cell.matchesPattern?_text hTerm hText hShort
  refine ⟨found, ?_, hFound⟩
  rw [evalClause, hValue, hMatch]
  rfl

/-- A clause that is evaluated has a pattern that is not too long. -/
theorem short_of_evalClause {values : Values} {field term : String} {truth : Option Bool}
    (h : evalClause values (.contains field term) = .ok truth) :
    (Clause.contains field term).Short := by
  by_contra hLong
  rw [Clause.Short, Nat.not_le] at hLong
  have hFault : (values field).matchesPattern? (Text.Like.containing term) = none := by
    rw [Cell.matchesPattern?, if_pos hLong]
  rw [evalClause, hFault] at h
  cases h

/-- **A settled term is found in every text that it is part of.** -/
theorem contains_eq_true_of_settled {values : Values} {field term text : String}
    (hTerm : Text.NulFree term) (hText : Text.NulFree text)
    (hShort : (Clause.contains field term).Short) (hSettled : Text.Settled term.toList)
    (hPart : term.toList <:+: text.toList) (hValue : values field = .text text) :
    evalClause values (.contains field term) = .ok (some true) := by
  obtain ⟨found, hEval, hFound⟩ := evalClause_contains hTerm hText hShort hValue
  obtain rfl : found = true := hFound.mpr (occurs_of_settled hSettled hPart)
  exact hEval

theorem nulFree_of_markers {front back : List Char} {term : String} (hTerm : Text.NulFree term)
    (hMarkers : ∀ c ∈ front ++ back, c ∈ Text.markers) :
    Text.NulFree (String.ofList (front ++ term.toList ++ back)) := by
  have hMarker : ∀ c ∈ Text.markers, c.toNat ≠ 0 := by simp [Text.markers]
  intro c hc
  rw [String.toList_ofList, List.mem_append, List.mem_append] at hc
  rcases hc with (hFront | hMiddle) | hBack
  · exact hMarker c (hMarkers c (List.mem_append_left back hFront))
  · exact hTerm c hMiddle
  · exact hMarker c (hMarkers c (List.mem_append_right front hBack))

/-- Any other term is missed in a text that it is part of. -/
theorem exists_not_occurs {term : String} (hTerm : Text.NulFree term)
    (h : ¬ Text.Settled term.toList) :
    ∃ text, Text.NulFree text ∧ term.toList <:+: text.toList ∧ ¬ Cell.Occurs term text := by
  obtain ⟨front, back, hMarkers, hMissed⟩ :=
    @Text.exists_of_not_settled Cell.readChar (by decide) (by decide) _ h
  refine ⟨String.ofList (front ++ term.toList ++ back), nulFree_of_markers hTerm hMarkers, ?_, ?_⟩
  · rw [String.toList_ofList]
    exact ⟨front, back, rfl⟩
  · rw [Cell.Occurs, Text.toList_lowercase, Text.toList_lowercase, String.toList_ofList]
    exact hMissed

/-! ## Searches -/

/-- **A search lets every row through that has a settled term in its field as typed**, whatever its
other terms are. -/
theorem search_eq_true_of_settled {compiler : Compiler} {schema : Schema} {terms : TermSet}
    {compiled : CompiledSearch} (hStrategy : compiler.strategy = .generic)
    (hCompiled : compiler.compileTerms schema terms = .ok compiled)
    (hShort : (Filter.search compiled.predicate).Short) {field term text : String}
    (hField : field ∈ schema.searchable.fields) (hNamed : terms.term? field = some term)
    (hTerm : Text.NulFree term) (hText : Text.NulFree text) (hSettled : Text.Settled term.toList)
    (hPart : term.toList <:+: text.toList) {table : Table} {row : Row}
    (hValue : table.values row field = .text text) :
    table.evalFilter row (.search compiled.predicate) = .ok (some true) := by
  have hMade := (Compiler.compileTerms_eq_ok hCompiled).predicate
  have hHasTerms : terms.hasTerms = true := by
    refine TermSet.hasTerms_iff.mpr ⟨field, ?_, by rw [hNamed]; rfl⟩
    by_contra hNot
    rw [TermSet.term?_eq_none_of_not_mem hNot] at hNamed
    cases hNamed
  rw [hHasTerms, if_pos rfl, hStrategy, Predicate.searched_generic] at hMade
  have hClause : .contains field term ∈ Predicate.containing schema.searchable terms :=
    Predicate.mem_containing.mpr ⟨field, hField, term, hNamed, rfl⟩
  have hClauseShort : (Clause.contains field term).Short := by
    refine hShort _ ?_
    rw [hMade, Predicate.clauses_anyOf_map_single]
    exact hClause
  obtain ⟨found, hMatch, hFound⟩ := Cell.matchesPattern?_text hTerm hText hClauseShort
  have hTruth : ((Clause.contains field term).comparison .sqlite none).truth
      (table.judgement row) = some true := by
    rw [Database.truth_contains, hValue, hMatch, Option.getD_some,
      hFound.mpr (occurs_of_settled hSettled hPart)]
  obtain ⟨truth, hEval, hMeaning⟩ := @Database.exists_evalFilter table row none _ hShort
  rw [hEval, hMeaning.mpr]
  rw [hMade]
  exact (Schema.accepts_anyOf_map_single none _).mpr ⟨_, hClause, hTruth⟩

/-! ## What is found as typed -/

/-- **The terms that are found in every text that they are part of** are those that are settled and
make a pattern that is not too long.  A search never leaves a record out whose field has such a term
as typed. -/
theorem finds_part_iff (field : String) {term : String} (hTerm : Text.NulFree term) :
    ((∀ text values, Text.NulFree text → term.toList <:+: text.toList →
        values field = .text text → evalClause values (.contains field term) = .ok (some true)) ↔
      Text.Settled term.toList ∧ (Clause.contains field term).Short) ∧
    (Text.Settled term.toList → ∀ (compiler : Compiler) schema terms compiled,
      compiler.strategy = .generic → compiler.compileTerms schema terms = .ok compiled →
      (Filter.search compiled.predicate).Short → field ∈ schema.searchable.fields →
      terms.term? field = some term →
      ∀ (table : Table) row text, Text.NulFree text → term.toList <:+: text.toList →
        table.values row field = .text text →
        table.evalFilter row (.search compiled.predicate) = .ok (some true)) := by
  refine ⟨⟨fun hAll => ?_, ?_⟩, ?_⟩
  · have hShort : (Clause.contains field term).Short :=
      short_of_evalClause (hAll term (fun _ => .text term) hTerm List.infix_rfl rfl)
    refine ⟨?_, hShort⟩
    by_contra hNot
    obtain ⟨text, hText, hPart, hMissed⟩ := exists_not_occurs hTerm hNot
    obtain ⟨found, hEval, hFound⟩ :=
      @evalClause_contains (fun _ => .text text) field term text hTerm hText hShort rfl
    have hTrue := hAll text (fun _ => .text text) hText hPart rfl
    rw [hEval] at hTrue
    exact hMissed (hFound.mp (Option.some.inj (Except.ok.inj hTrue)))
  · rintro ⟨hSettled, hShort⟩ text values hText hPart hValue
    exact contains_eq_true_of_settled hTerm hText hShort hSettled hPart hValue
  · intro hSettled compiler schema terms compiled hStrategy hCompiled hShort hField hNamed table row
      text hText hPart hValue
    exact search_eq_true_of_settled hStrategy hCompiled hShort hField hNamed hTerm hText hSettled
      hPart hValue

/-- A term without a sigma. -/
theorem finds_part_iff_of_bat :
    let terms : TermSet := .ofList [("name", some "Bat")]
    let compiler : Compiler := ⟨.generic, .sqlite, none⟩
    Text.NulFree "Bat" ∧
      (∀ text values, Text.NulFree text → "Bat".toList <:+: text.toList →
        values "name" = .text text →
        evalClause values (.contains "name" "Bat") = .ok (some true)) ∧
      ∃ compiled, compiler.compileTerms .heroes terms = .ok compiled ∧
        ∀ (table : Table) row text, Text.NulFree text → "Bat".toList <:+: text.toList →
          table.values row "name" = .text text →
          table.evalFilter row (.search compiled.predicate) = .ok (some true) := by
  intro terms compiler
  have hNulFree : Text.NulFree "Bat" := by simp [Text.NulFree]
  have hSettled : Text.Settled "Bat".toList := Text.settled_of_not_mem (by decide)
  have hShort : (Clause.contains "name" "Bat").Short := by
    unfold Clause.Short
    decide +kernel
  obtain ⟨hIff, hSearch⟩ := finds_part_iff "name" hNulFree
  refine ⟨hNulFree, hIff.mpr ⟨hSettled, hShort⟩, ⟨.single (.contains "name" "Bat"), none⟩, rfl, ?_⟩
  refine hSearch hSettled compiler .heroes terms _ rfl rfl (fun clause hMem => ?_) (by decide) rfl
  obtain rfl := List.mem_singleton.mp hMem
  exact hShort

/-- Not every term is found in a text that it is part of: at the end of the term a capital sigma is
a final one, and within the text it is not.  The record is left out of the list. -/
theorem list_of_final_sigma :
    let term := "ΣΙΣ"
    let name := "ΣΙΣΥΦΟΣ"
    let files := FileStore.holding (Schema.heroes.filled [Schema.named name])
    let request : ListRequest := { terms := some (.ofList [("name", some term)]) }
    Text.NulFree term ∧ Text.NulFree name ∧ term.toList <:+: name.toList ∧
      evalClause (fun _ => .text name) (.contains "name" term) = .ok (some false) ∧
      ((Resolver.forFile {} none).list (.file files) .heroes request).1.outcome = .ok [] := by
  intro term name files request
  have hTerm : Text.NulFree term := by simp [term, Text.NulFree]
  have hName : Text.NulFree name := by simp [name, Text.NulFree]
  have hShort : (Clause.contains "name" term).Short := by
    unfold Clause.Short
    decide +kernel
  have hMissed : ¬ Cell.Occurs term name := by decide +kernel
  refine ⟨hTerm, hName, by decide, ?_, ?_⟩
  · obtain ⟨found, hEval, hFound⟩ :=
      @evalClause_contains (fun _ => .text name) "name" term name hTerm hName hShort rfl
    obtain rfl : found = false := Bool.eq_false_iff.mpr (mt hFound.mp hMissed)
    exact hEval
  · have hSearchable : ∀ terms, request.terms = some terms →
        terms.Searchable Schema.heroes.searchable (request.companions .heroes none) := by
      intro terms hTerms
      obtain rfl := Option.some.inj hTerms
      exact Schema.searchable_name hTerm hShort (request.companions_le .heroes none)
    obtain ⟨prepared, hPrepared, hParams⟩ : ∃ prepared,
        ((Resolver.forFile {} none).prepareList .heroes request).outcome = .ok prepared ∧
          prepared.fragment.params.length ≤ Reading.maxParameters := ⟨_, rfl, by decide⟩
    have hValid := Schema.valid_of_ofDeclaration Schema.ofDeclaration_heroes
    obtain ⟨page, rows, hPage, hLists, hList⟩ := Resolver.exists_list_eq_ok hValid
      (Schema.hasTable_heroes _) (Schema.hasRows_named hName) rfl
      (FileStore.table?_holding .heroes _) hSearchable hPrepared hParams
    have hNone : rows = [] := by
      refine List.eq_nil_iff_forall_not_mem.mpr fun row hRow => ?_
      obtain ⟨hMem, hSelects⟩ := (hLists.mem_iff row).mp hRow
      obtain rfl := List.mem_singleton.mp hMem
      obtain ⟨field, hField, found, text, hFound, hText, hOccurs⟩ :=
        hSelects.terms _ rfl (by decide)
      have hFields : field = "name" ∨ field = "alias" := by simpa [Schema.heroes] using hField
      rcases hFields with rfl | rfl
      · obtain rfl : term = found := Option.some.inj hFound
        obtain rfl : name = text := Cell.text.inj hText
        exact hMissed hOccurs
      · cases hText
    rw [hNone, List.drop_nil, List.take_nil] at hList
    exact hList

end FieldSearch
