import FieldSearch.Proofs.Query.Preparation
import FieldSearch.Proofs.Search.FieldSet
import FieldSearch.Proofs.Search.Predicate
import FieldSearch.Proofs.Search.TermSet
import Mathlib

/-!
# What is looked for

A term set that gives no term looks for nothing in particular, so every record meets its
condition.  One that does is another matter: each field with a term is looked at, and a
term without a word is one that no field can begin with.  Where all terms are like that,
no record meets the condition; a search that cannot succeed is not taken for one that was
not asked for.

The clauses of a condition are determined by what is known of them here: which ones they
are, and that their fields stand in the order of declaration, none of them twice.

## Main results

* `mem_sought_iff`, `sublist_sought`: the clauses of a search.
* `anyOf_searched`, `Offers.holds_iff`: the condition of a search is a choice among its
  clauses, and a record meets it if one of them holds.
* `seeks_what_is_given`: all of it for every set of declared fields.
-/

namespace FieldSearch

/-! ## Terms that are given -/

namespace TermSet

/-- The set has a term for the field, and the term is not empty. -/
def Gives (set : TermSet) (field term : String) : Prop :=
  (field, some term) ∈ set.terms.entries ∧ term ≠ ""

theorem effective?_eq_some_iff {given : Option String} {term : String} :
    effective? given = some term ↔ given = some term ∧ term ≠ "" := by
  cases given with
  | none => simp [effective?]
  | some written =>
      by_cases hEmpty : written = ""
      · subst hEmpty
        constructor
        · intro h
          cases h
        · rintro ⟨hSame, hNe⟩
          exact absurd (Option.some.inj hSame).symm hNe
      · have hKept : written.isEmpty = false := by simpa [String.isEmpty_iff] using hEmpty
        rw [effective?, hKept, if_neg Bool.false_ne_true]
        constructor
        · intro h
          obtain rfl := Option.some.inj h
          exact ⟨rfl, hEmpty⟩
        · intro h
          exact h.1

theorem term?_eq_some_iff {set : TermSet} {field term : String} :
    set.term? field = some term ↔ set.Gives field term := by
  rw [term?, Option.bind_eq_some_iff, Gives, ← KeyMap.get?_eq_some_iff]
  constructor
  · rintro ⟨given, hGiven, hEffective⟩
    obtain ⟨rfl, hNe⟩ := effective?_eq_some_iff.mp hEffective
    exact ⟨hGiven, hNe⟩
  · rintro ⟨hGiven, hNe⟩
    exact ⟨some term, hGiven, effective?_eq_some_iff.mpr ⟨rfl, hNe⟩⟩

theorem Gives.mem_fields {set : TermSet} {field term : String} (h : set.Gives field term) :
    field ∈ set.fields :=
  List.mem_map_of_mem h.1

theorem hasTerms_iff_exists_gives {set : TermSet} :
    set.hasTerms = true ↔ ∃ field term, set.Gives field term := by
  rw [hasTerms_iff]
  constructor
  · rintro ⟨field, -, hSome⟩
    obtain ⟨term, hTerm⟩ := Option.isSome_iff_exists.mp hSome
    exact ⟨field, term, term?_eq_some_iff.mp hTerm⟩
  · rintro ⟨field, term, hGives⟩
    exact ⟨field, hGives.mem_fields, by rw [term?_eq_some_iff.mpr hGives]; rfl⟩

/-- What a strategy looks for in a field with a term: the term as it stands, or its words if it has
any. -/
inductive Seeks (set : TermSet) : Strategy → Clause → Prop where
  | contains {field term : String} (given : set.Gives field term) :
      Seeks set .generic (.contains field term)
  | beginsWords {field term : String} (given : set.Gives field term)
      (worded : Text.words term ≠ []) :
      Seeks set .fullTextPrefix (.beginsWords field (Text.words term))

theorem Seeks.exists_gives {set : TermSet} {strategy : Strategy} {clause : Clause}
    (h : set.Seeks strategy clause) : ∃ term, set.Gives clause.field term := by
  cases h with
  | contains given => exact ⟨_, given⟩
  | beginsWords given worded => exact ⟨_, given⟩

end TermSet

namespace Predicate

/-! ## Clauses of a search -/

/-- The clause of a term; there is none for the words of a term without words. -/
def clause? (strategy : Strategy) (field term : String) : Option Clause :=
  match strategy with
  | .generic => some (.contains field term)
  | .fullTextPrefix =>
      match Text.words term with
      | [] => none
      | words => some (.beginsWords field words)

/-- The clause of a field, if there is a term for it. -/
def soughtIn (terms : TermSet) (strategy : Strategy) (field : String) : Option Clause :=
  (terms.term? field).bind (clause? strategy field)

/-- The clauses of a search, in the order of declaration. -/
def sought (fields : FieldSet) (terms : TermSet) (strategy : Strategy) : List Clause :=
  fields.fields.filterMap (soughtIn terms strategy)

theorem clause?_fullTextPrefix_eq_some {field term : String} {clause : Clause} :
    clause? .fullTextPrefix field term = some clause ↔
      Text.words term ≠ [] ∧ clause = .beginsWords field (Text.words term) := by
  rw [clause?]
  cases hWords : Text.words term with
  | nil => simp
  | cons first rest => simp [eq_comm]

theorem seeks_iff {terms : TermSet} {strategy : Strategy} {clause : Clause} :
    terms.Seeks strategy clause ↔
      ∃ field term, terms.Gives field term ∧ clause? strategy field term = some clause := by
  constructor
  · intro h
    cases h with
    | contains given => exact ⟨_, _, given, rfl⟩
    | beginsWords given worded =>
        exact ⟨_, _, given, clause?_fullTextPrefix_eq_some.mpr ⟨worded, rfl⟩⟩
  · rintro ⟨field, term, given, hClause⟩
    cases strategy with
    | generic =>
        obtain rfl := Option.some.inj hClause
        exact .contains given
    | fullTextPrefix =>
        obtain ⟨hWorded, rfl⟩ := clause?_fullTextPrefix_eq_some.mp hClause
        exact .beginsWords given hWorded

theorem field_of_clause? {strategy : Strategy} {field term : String} {clause : Clause}
    (h : clause? strategy field term = some clause) : clause.field = field := by
  cases strategy with
  | generic =>
      obtain rfl := Option.some.inj h
      rfl
  | fullTextPrefix =>
      obtain ⟨-, rfl⟩ := clause?_fullTextPrefix_eq_some.mp h
      rfl

/-- **Which clauses a search has.** -/
theorem mem_sought_iff {fields : FieldSet} {terms : TermSet} {strategy : Strategy}
    {clause : Clause} :
    clause ∈ sought fields terms strategy ↔
      clause.field ∈ fields.fields ∧ terms.Seeks strategy clause := by
  rw [sought, List.mem_filterMap, seeks_iff]
  constructor
  · rintro ⟨field, hField, hBound⟩
    obtain ⟨term, hTerm, hClause⟩ := Option.bind_eq_some_iff.mp hBound
    rw [field_of_clause? hClause]
    exact ⟨hField, field, term, TermSet.term?_eq_some_iff.mp hTerm, hClause⟩
  · rintro ⟨hField, field, term, hGives, hClause⟩
    rw [field_of_clause? hClause] at hField
    refine ⟨field, hField, ?_⟩
    rw [soughtIn, TermSet.term?_eq_some_iff.mpr hGives]
    exact hClause

/-- **The clauses stand in the order of declaration**, with at most one for each field. -/
theorem sublist_sought (fields : FieldSet) (terms : TermSet) (strategy : Strategy) :
    ((sought fields terms strategy).map Clause.field).Sublist fields.fields := by
  rw [sought]
  induction fields.fields with
  | nil => exact List.Sublist.slnil
  | cons field rest ih =>
      cases hClause : soughtIn terms strategy field with
      | none =>
          rw [List.filterMap_cons_none hClause]
          exact ih.cons field
      | some clause =>
          obtain ⟨term, -, hTerm⟩ := Option.bind_eq_some_iff.mp hClause
          rw [List.filterMap_cons_some hClause, List.map_cons, field_of_clause? hTerm]
          exact ih.cons_cons field

/-- A search for words has no clauses exactly if no term has a word. -/
theorem forall_wordless_iff {terms : TermSet} :
    (∀ clause, ¬ terms.Seeks .fullTextPrefix clause) ↔
      ∀ field term, terms.Gives field term →
        ∀ c ∈ term.toList, Text.isAlphanumeric c = false := by
  have hWordless : ∀ term, Text.words term = [] ↔
      ∀ c ∈ term.toList, Text.isAlphanumeric c = false := by
    intro term
    rw [← List.isEmpty_iff, Text.isEmpty_words, Bool.not_eq_true', Text.hasWord,
      List.any_eq_false]
    simp only [Bool.not_eq_true]
  constructor
  · intro hNone field term hGives
    by_contra hNot
    rw [← hWordless] at hNot
    exact hNone _ (.beginsWords hGives hNot)
  · intro hAll clause hSeeks
    cases hSeeks with
    | beginsWords given worded => exact worded ((hWordless _).mpr (hAll _ _ given))

/-! ## The condition of a search -/

/-- The condition of a term is its clause, and nothing meets it without one. -/
theorem forTerm_eq (strategy : Strategy) (field term : String) :
    forTerm strategy field term = ((clause? strategy field term).map .single).getD .never := by
  cases strategy with
  | generic => rfl
  | fullTextPrefix =>
      rw [forTerm, clause?]
      cases Text.words term <;> rfl

/-- Terms without words leave nothing behind in a search. -/
theorem filter_searched (fields : FieldSet) (terms : TermSet) (strategy : Strategy) :
    (searched fields terms strategy).filter (!·.isNever) =
      (sought fields terms strategy).map .single := by
  rw [searched, sought, List.map_filterMap, List.filter_filterMap]
  refine congrFun (congrArg List.filterMap (funext fun field => ?_)) _
  rw [soughtIn]
  cases terms.term? field with
  | none => rfl
  | some term =>
      rw [Option.map_some, Option.bind_some, forTerm_eq]
      cases clause? strategy field term <;> rfl

/-- **The condition of a search is a choice among its clauses.** -/
theorem anyOf_searched (fields : FieldSet) (terms : TermSet) (strategy : Strategy) :
    anyOf (searched fields terms strategy) =
      anyOf ((sought fields terms strategy).map .single) := by
  have hKept : ((sought fields terms strategy).map Predicate.single).filter (!·.isNever) =
      (sought fields terms strategy).map .single := by
    rw [← filter_searched, List.filter_filter]
    simp only [Bool.and_self]
  rw [anyOf, anyOf, filter_searched, hKept]

/-- A condition says of a list of clauses that one of them holds: nothing meets it if there are
none, a single one stands alone, and several are the alternatives of one choice. -/
inductive Offers : List Clause → Predicate → Prop where
  | none : Offers [] .never
  | single (clause : Clause) : Offers [clause] (.single clause)
  | any {clauses : List Clause} (several : 2 ≤ clauses.length) :
      Offers clauses (.any (clauses.map .single))

theorem offers_anyOf_map_single (among : List Clause) :
    Offers among (anyOf (among.map .single)) := by
  rw [anyOf_map_single]
  match among with
  | [] => exact .none
  | [clause] => exact .single clause
  | first :: second :: rest => exact .any (by simp)

/-- **A record meets a choice among clauses if one of them holds.** -/
theorem Offers.holds_iff {among : List Clause} {predicate : Predicate}
    {meaning : Clause → Prop} (h : Offers among predicate) :
    Holds meaning predicate ↔ ∃ clause ∈ among, meaning clause := by
  cases h with
  | none => simp [not_holds_never]
  | single clause => simp [holds_single]
  | any several => simp [holds_any, holds_single]

/-! ## Conditions of term sets -/

/-- What the condition of a term set on declared fields is like. -/
structure IsSearch (names : List String) (terms : TermSet) (strategy : Strategy)
    (predicate : Predicate) : Prop where
  /-- Every record meets it if there is nothing to look for. -/
  always_iff : predicate = .always ↔ ¬ ∃ field term, terms.Gives field term
  /-- No record meets it if words are looked for and there are terms, but no words. -/
  never_iff : predicate = .never ↔
    strategy = .fullTextPrefix ∧ (∃ field term, terms.Gives field term) ∧
      ∀ field term, terms.Gives field term → ∀ c ∈ term.toList, Text.isAlphanumeric c = false
  /-- Else it is made of its clauses and nothing more. -/
  offers : predicate = .always ∨ Offers predicate.clauses predicate
  mem_clauses_iff : ∀ clause, clause ∈ predicate.clauses ↔ terms.Seeks strategy clause
  order : (predicate.clauses.map Clause.field).Sublist names
  nodup : (predicate.clauses.map Clause.field).Nodup
  holds_iff : ∀ meaning : Clause → Prop, predicate.Holds meaning ↔
    (¬ ∃ field term, terms.Gives field term) ∨ ∃ clause ∈ predicate.clauses, meaning clause

theorem Offers.eq_never_iff {among : List Clause} {predicate : Predicate}
    (h : Offers among predicate) : predicate = .never ↔ among = [] := by
  cases h with
  | none => exact iff_of_true rfl rfl
  | single clause => exact iff_of_false Predicate.noConfusion (List.cons_ne_nil clause [])
  | any several =>
      have hSome : among ≠ [] := by
        rintro rfl
        exact absurd several (by decide)
      exact iff_of_false Predicate.noConfusion hSome

theorem Offers.ne_always {among : List Clause} {predicate : Predicate}
    (h : Offers among predicate) : predicate ≠ .always := by
  rintro rfl
  cases h

section

variable {fields : FieldSet} {terms : TermSet} {strategy : Strategy}

/-- Where there is nothing to look for, every record is as good as any other. -/
theorem isSearch_always (hNone : ¬ ∃ field term, terms.Gives field term) :
    IsSearch fields.fields terms strategy .always := by
  have hSeeks : ∀ clause, ¬ terms.Seeks strategy clause := by
    intro clause hSeeks
    obtain ⟨term, hGives⟩ := hSeeks.exists_gives
    exact hNone ⟨clause.field, term, hGives⟩
  refine ⟨iff_of_true rfl hNone, ?_, .inl rfl, fun clause => ?_, List.nil_sublist _,
    List.nodup_nil, fun meaning => iff_of_true .always (.inl hNone)⟩
  · exact iff_of_false Predicate.noConfusion fun h => hNone h.2.1
  · exact iff_of_false List.not_mem_nil (hSeeks clause)

/-- Where there are terms, of declared fields only, their clauses are looked for. -/
theorem isSearch_anyOf (hNodup : fields.fields.Nodup)
    (hDeclared : ∀ field ∈ terms.fields, field ∈ fields.fields)
    (hSome : ∃ field term, terms.Gives field term) :
    IsSearch fields.fields terms strategy (anyOf (searched fields terms strategy)) := by
  have hOffers := offers_anyOf_map_single (sought fields terms strategy)
  have hClauses : (anyOf ((sought fields terms strategy).map .single)).clauses =
      sought fields terms strategy := clauses_anyOf_map_single _
  have hMem : ∀ clause, clause ∈ sought fields terms strategy ↔ terms.Seeks strategy clause := by
    intro clause
    rw [mem_sought_iff, and_iff_right_iff_imp]
    intro hSeeks
    obtain ⟨term, hGives⟩ := hSeeks.exists_gives
    exact hDeclared _ hGives.mem_fields
  rw [anyOf_searched]
  have hOrder := sublist_sought fields terms strategy
  refine ⟨iff_of_false hOffers.ne_always (not_not_intro hSome), ?_, .inr ?_, ?_, ?_, ?_, ?_⟩
  · rw [hOffers.eq_never_iff, List.eq_nil_iff_forall_not_mem]
    simp only [hMem]
    cases strategy with
    | generic =>
        obtain ⟨field, term, hGives⟩ := hSome
        exact iff_of_false (fun h => h _ (.contains hGives)) fun h => Strategy.noConfusion h.1
    | fullTextPrefix => rw [forall_wordless_iff, and_iff_right rfl, and_iff_right hSome]
  · rw [hClauses]
    exact hOffers
  · rw [hClauses]
    exact hMem
  · rw [hClauses]
    exact hOrder
  · rw [hClauses]
    exact hNodup.sublist hOrder
  · intro meaning
    rw [hClauses, or_iff_right (not_not_intro hSome)]
    exact hOffers.holds_iff

end

/-- **A condition looks for what a term set gives.**  On fields that were declared, a term set is
refused for the least field that it names beyond them, and for nothing else.  Where there is a
condition, it is met by every record only if there is nothing to look for, and by none only if words
are looked for and no term has one; it has one clause for each field with a term that is looked
for, in the order of declaration, and is met by the records for which one of them holds. -/
theorem seeks_what_is_given {record : String} {names : List String} {fields : FieldSet}
    (hDeclared : FieldSet.declare record names = .ok fields) (terms : TermSet)
    (strategy : Strategy) :
    (∀ fault, forTerms fields terms strategy = .error fault ↔
      ∃ field, IsLeast {name | name ∈ terms.fields ∧ name ∉ names} field ∧
        fault = .invalidSearchField record field) ∧
    ((∃ predicate, forTerms fields terms strategy = .ok predicate) ↔
      ∀ field ∈ terms.fields, field ∈ names) ∧
    ∀ predicate, forTerms fields terms strategy = .ok predicate →
      predicate.IsSearch names terms strategy := by
  obtain ⟨rfl, hNodup⟩ := FieldSet.declare_eq_ok hDeclared
  have hCheck : FieldSet.check ⟨record, names⟩ terms = .ok () ↔
      ∀ field ∈ terms.fields, field ∈ names := by
    simp only [FieldSet.check_eq_ok_iff, FieldSet.contains_iff]
  refine ⟨fun fault => ?_, ⟨?_, fun hAll => ?_⟩, fun predicate h => ?_⟩
  · constructor
    · intro h
      rcases bind_eq_error.mp h with hRefused | ⟨_, hPassed, h⟩
      · exact FieldSet.check_eq_error_iff.mp hRefused
      · split at h <;> cases h
    · intro h
      exact bind_eq_error.mpr (.inl (FieldSet.check_eq_error_iff.mpr h))
  · rintro ⟨predicate, h⟩
    exact hCheck.mp (forTerms_eq_ok h).1
  · exact ⟨_, forTerms_of_check (hCheck.mpr hAll)⟩
  · obtain ⟨hPassed, rfl⟩ := forTerms_eq_ok h
    by_cases hTerms : terms.hasTerms = true
    · rw [if_pos hTerms]
      rw [TermSet.hasTerms_iff_exists_gives] at hTerms
      exact @isSearch_anyOf ⟨record, names⟩ terms strategy hNodup (hCheck.mp hPassed) hTerms
    · rw [if_neg hTerms]
      rw [TermSet.hasTerms_iff_exists_gives] at hTerms
      exact @isSearch_always ⟨record, names⟩ terms strategy hTerms

/-- Of a term without words, a term of two words and an empty one, the second is looked for; without
it, words are looked for in vain. -/
theorem seeks_what_is_given_of_hero :
    let names := ["name", "alias", "motto"]
    let terms : TermSet :=
      .ofList [("alias", some "Dark Knight"), ("motto", some ""), ("name", some "?!")]
    ∃ fields, FieldSet.declare "Hero" names = .ok fields ∧
      (∃ predicate, forTerms fields terms .fullTextPrefix = .ok predicate ∧
        predicate.IsSearch names terms .fullTextPrefix ∧
        predicate.clauses = [.beginsWords "alias" ["Dark", "Knight"]]) ∧
      (∃ predicate, forTerms fields (terms.insert "alias" none) .fullTextPrefix = .ok predicate ∧
        predicate.IsSearch names (terms.insert "alias" none) .fullTextPrefix ∧
        predicate = .never) ∧
      forTerms fields ((terms.insert "team" none).insert "id" (some "7")) .generic =
        .error (.invalidSearchField "Hero" "id") := by
  intro names terms
  have hDeclared : FieldSet.declare "Hero" names = .ok ⟨"Hero", names⟩ := by decide +kernel
  have hSeeks := seeks_what_is_given hDeclared
  refine ⟨_, hDeclared, ⟨_, rfl, (hSeeks terms .fullTextPrefix).2.2 _ rfl, ?_⟩,
    ⟨_, rfl, (hSeeks (terms.insert "alias" none) .fullTextPrefix).2.2 _ rfl, ?_⟩, ?_⟩
  · decide +kernel
  · rfl
  · refine ((hSeeks _ _).1 _).mpr ⟨"id", ?_, rfl⟩
    have hFirst := isLeast_of_find?_eq_some
      ((terms.insert "team" none).insert "id" (some "7")).rising_fields
      (show List.find? (fun name => decide (name ∉ names)) _ = some "id" by decide +kernel)
    simpa only [decide_eq_true_eq] using hFirst

end Predicate
end FieldSearch
