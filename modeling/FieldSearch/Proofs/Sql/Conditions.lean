import FieldSearch.Database.Selection
import FieldSearch.Proofs.Pairs
import FieldSearch.Proofs.Sql.Comparison
import FieldSearch.Proofs.Sql.Separation
import Mathlib

/-!
# What conditions mean

A row makes each comparison true, false or unknown, and conditions are put
together from comparisons as usual with three truth values.  How a row judges
a match, an equality or a null is left open here: `Judgement` is any way of doing
so, in particular that of any database.

What a filter ought to accept is said without conditions: a list of ids
accepts the rows that have one of them, a choice those that one of its
alternatives accepts.  Reading what is rendered gives a condition that is true for
exactly these rows, whatever the judgement.  So a choice never reaches outside
of its parentheses, and a truth value that is unknown lets no row through.

## Main results

* `says_renderPredicate`: a condition is true for the rows that it should
  accept.
* `readWhere?_whereTemplate`: the filters of a selection are all required.
-/

namespace FieldSearch

namespace Sql

/-! ## Truth -/

/-- How a row judges comparisons. -/
structure Judgement where
  like : Dialect → String → Value → Option Bool
  words : Option Value → String → Option Value → Value → Option Bool
  equals : String → Value → Option Bool
  isNull : String → Bool

/-- Two truth values together. -/
def both : Option Bool → Option Bool → Option Bool
  | some false, _ => some false
  | _, some false => some false
  | some true, some true => some true
  | _, _ => none

theorem both_eq_true {left right : Option Bool} :
    both left right = some true ↔ left = some true ∧ right = some true := by
  revert left right
  decide

theorem either_eq_true {left right : Option Bool} :
    Database.either left right = some true ↔ left = some true ∨ right = some true := by
  revert left right
  decide

/-- The truth of a comparison; one of several values is a choice among equalities. -/
def Comparison.truth (judgement : Judgement) : Comparison → Option Bool
  | .numbers left right => some (left == right)
  | .like dialect column pattern => judgement.like dialect column pattern
  | .words vectorConfig column queryConfig query =>
      judgement.words vectorConfig column queryConfig query
  | .isIn column values =>
      values.foldr (fun value truth => Database.either (judgement.equals column value) truth)
        (some false)
  | .equals column value => judgement.equals column value
  | .isNull column => some (judgement.isNull column)

/-- The truth of a condition. -/
def Condition.truth (judgement : Judgement) : Condition → Option Bool
  | .comparison inner => inner.truth judgement
  | .both left right => Sql.both (left.truth judgement) (right.truth judgement)
  | .either left right => Database.either (left.truth judgement) (right.truth judgement)

end Sql

/-! ## What ought to be accepted -/

section

variable (dialect : Sql.Dialect) (config : Option String) (judgement : Sql.Judgement)

/-- The rows that a condition should accept: all, none, those for which a clause holds, or those
that one of several alternatives accepts. -/
inductive Predicate.Accepts : Predicate → Prop where
  | always : Accepts .always
  | single {clause : Clause}
      (holds : (clause.comparison dialect config).truth judgement = some true) :
      Accepts (.single clause)
  | any {alternatives : List Predicate} {alternative : Predicate} (mem : alternative ∈ alternatives)
      (accepts : Accepts alternative) : Accepts (.any alternatives)

/-- The rows that a filter should accept: those that have one of the ids, those that a search
accepts, and those with a value in a column or with none. -/
def Filter.Accepts : Filter → Prop
  | .idIn column ids => ∃ id ∈ ids, judgement.equals column id = some true
  | .search predicate => predicate.Accepts dialect config judgement
  | .columnEquals column .null => judgement.isNull column = true
  | .columnEquals column value => judgement.equals column value = some true

end

namespace Sql

variable {dialect : Dialect} {config : Option String} {judgement : Judgement}

theorem not_accepts_never : ¬ Predicate.never.Accepts dialect config judgement := nofun

theorem accepts_single {clause : Clause} :
    (Predicate.single clause).Accepts dialect config judgement ↔
      (clause.comparison dialect config).truth judgement = some true := by
  constructor
  · intro h
    cases h with
    | single holds => exact holds
  · exact .single

theorem accepts_any {alternatives : List Predicate} :
    (Predicate.any alternatives).Accepts dialect config judgement ↔
      ∃ alternative ∈ alternatives, alternative.Accepts dialect config judgement := by
  constructor
  · intro h
    cases h with
    | any mem accepts => exact ⟨_, mem, accepts⟩
  · rintro ⟨alternative, hMem, hAccepts⟩
    exact .any hMem hAccepts

/-- **A row is accepted if it meets the condition**, clauses meaning the comparisons that they are
written as. -/
theorem accepts_iff_holds (predicate : Predicate) :
    predicate.Accepts dialect config judgement ↔
      predicate.Holds fun clause => (clause.comparison dialect config).truth judgement = some true := by
  induction predicate using Predicate.induct with
  | always => exact iff_of_true .always .always
  | never => exact iff_of_false nofun nofun
  | single clause => rw [accepts_single, Predicate.holds_single]
  | any alternatives ih =>
      rw [accepts_any, Predicate.holds_any]
      exact exists_congr fun alternative => and_congr_right (ih alternative)

theorem truth_isIn {column : String} {values : List Value} :
    (Comparison.isIn column values).truth judgement = some true ↔
      ∃ value ∈ values, judgement.equals column value = some true := by
  rw [Comparison.truth]
  induction values with
  | nil => simp
  | cons first rest ih =>
      rw [List.foldr_cons, either_eq_true, ih]
      simp

theorem truth_idComparison {column : String} {ids : List Value} :
    (idComparison column ids).truth judgement = some true ↔
      (Filter.idIn column ids).Accepts dialect config judgement := by
  cases ids with
  | nil => simp [idComparison, Comparison.truth, Filter.Accepts]
  | cons first rest => exact truth_isIn

theorem truth_valueComparison {column : String} {value : Value} :
    (valueComparison column value).truth judgement = some true ↔
      (Filter.columnEquals column value).Accepts dialect config judgement := by
  cases value with
  | null => simp [valueComparison, Comparison.truth, Filter.Accepts]
  | _ => exact Iff.rfl

/-! ## Reading conditions -/

/-- The template is a condition in its own right, whatever follows, and it is true for the rows that
are accepted. -/
def Template.Says (dialect : Dialect) (template : Template) (accepts : Judgement → Prop) : Prop :=
  ∃ condition : Condition,
    (∀ rest, readPrimary? (template.tokens dialect ++ rest) = some (condition, rest)) ∧
      ∀ judgement, condition.truth judgement = some true ↔ accepts judgement

theorem readPrimary?_of_comparison {tokens rest : Tokens} {comparison : Comparison}
    (h : readComparison? tokens = some (comparison, rest)) :
    readPrimary? tokens = some (.comparison comparison, rest) := by
  rw [readPrimary?.eq_def]
  split
  · simp [readComparison?] at h
  · rw [h]
    rfl

theorem Template.Compares.means {template : Template} {comparison : Comparison}
    (hCompares : template.Compares dialect comparison) :
    template.Says dialect fun judgement => comparison.truth judgement = some true := by
  refine ⟨.comparison comparison, fun rest => ?_, fun judgement => Iff.rfl⟩
  exact readPrimary?_of_comparison (hCompares.read rest)

/-- Something has been read. -/
theorem length_lt_of_readPrimary? {tokens : Tokens} {condition : Condition}
    (hRead : ∀ rest, readPrimary? (tokens ++ rest) = some (condition, rest)) (rest : Tokens) :
    rest.length < (tokens ++ rest).length := by
  cases tokens with
  | nil =>
      have hNil : readPrimary? [] = none := by
        rw [readPrimary?.eq_def]
        rfl
      have hEmpty := hRead []
      rw [List.nil_append, hNil] at hEmpty
      cases hEmpty
  | cons token others =>
      rw [List.length_append, List.length_cons]
      omega

/-- Tokens that do not go on with a keyword. -/
def Ends (keyword : String) (rest : Tokens) : Prop := ∀ next ∈ rest.head?, next ≠ .word keyword

theorem readConjuncts?_of_ends {left : Condition} {rest : Tokens} (hEnds : Ends "AND" rest) :
    readConjuncts? left rest = some (left, rest) := by
  rw [readConjuncts?.eq_def]
  split
  · exact absurd rfl (hEnds _ rfl)
  · rfl

theorem readAlternatives?_of_ends {left : Condition} {rest : Tokens} (hEnds : Ends "OR" rest) :
    readAlternatives? left rest = some (left, rest) := by
  rw [readAlternatives?.eq_def]
  split
  · exact absurd rfl (hEnds _ rfl)
  · rfl

/-- One more condition behind `AND`. -/
theorem readConjuncts?_cons {tokens : Tokens} {condition : Condition}
    (hRead : ∀ rest, readPrimary? (tokens ++ rest) = some (condition, rest)) (left : Condition)
    (rest : Tokens) :
    readConjuncts? left (.word "AND" :: (tokens ++ rest)) =
      readConjuncts? (.both left condition) rest := by
  rw [readConjuncts?.eq_def]
  simp only [hRead, length_lt_of_readPrimary? hRead rest, if_true]

/-- A single condition is a conjunction. -/
theorem readConjunction?_single {tokens : Tokens} {condition : Condition}
    (hRead : ∀ rest, readPrimary? (tokens ++ rest) = some (condition, rest)) {rest : Tokens}
    (hEnds : Ends "AND" rest) :
    readConjunction? (tokens ++ rest) = some (condition, rest) := by
  rw [readConjunction?, hRead]
  simp only [length_lt_of_readPrimary? hRead rest, if_true]
  exact readConjuncts?_of_ends hEnds

/-- One more condition behind `OR`. -/
theorem readAlternatives?_cons {tokens : Tokens} {condition : Condition}
    (hRead : ∀ rest, readPrimary? (tokens ++ rest) = some (condition, rest)) (left : Condition)
    {rest : Tokens} (hEnds : Ends "AND" rest) :
    readAlternatives? left (.word "OR" :: (tokens ++ rest)) =
      readAlternatives? (.either left condition) rest := by
  rw [readAlternatives?.eq_def]
  simp only [readConjunction?_single hRead hEnds, length_lt_of_readPrimary? hRead rest, if_true]

theorem tokens_and (dialect : Dialect) : (Piece.fixed " AND ").tokens dialect = [.word "AND"] := by
  cases dialect <;> rfl

theorem tokens_or (dialect : Dialect) : (Piece.fixed " OR ").tokens dialect = [.word "OR"] := by
  cases dialect <;> rfl

section

variable {β : Type} {accepts : β → Judgement → Prop} {items : List β} {templates : List Template}

/-- What stands behind conditions that have a keyword before each, if it does not go on with
`keyword`. -/
theorem ends_flatMap {keyword separator : String} (hNe : separator ≠ keyword)
    (templates : List Template) {rest : Tokens} (hRest : Ends keyword rest) :
    Ends keyword (templates.flatMap (fun template =>
      .word separator :: template.tokens dialect) ++ rest) := by
  cases templates with
  | nil => exact hRest
  | cons first others =>
      intro next hNext
      obtain rfl := Option.some.inj hNext
      intro hEq
      injection hEq with hEq
      exact hNe hEq

/-- Conditions with `AND` before each are all required. -/
theorem readConjuncts?_flatMap
    (hEach : List.Forall₂ (fun item template => template.Says dialect (accepts item)) items
      templates) :
    ∀ left, ∃ condition,
      (∀ rest, Ends "AND" rest → readConjuncts? left (templates.flatMap (fun template =>
        .word "AND" :: template.tokens dialect) ++ rest) = some (condition, rest)) ∧
      ∀ judgement, condition.truth judgement = some true ↔
        left.truth judgement = some true ∧ ∀ item ∈ items, accepts item judgement := by
  induction hEach with
  | nil =>
      intro left
      refine ⟨left, fun rest hAnd => readConjuncts?_of_ends hAnd, fun judgement => ?_⟩
      simp
  | cons hFirst _ ih =>
      intro left
      obtain ⟨first, hRead, hTruth⟩ := hFirst
      obtain ⟨condition, hAll, hMeaning⟩ := ih (.both left first)
      refine ⟨condition, fun rest hAnd => ?_, fun judgement => ?_⟩
      · rw [List.flatMap_cons, List.append_assoc, List.cons_append, readConjuncts?_cons hRead]
        exact hAll rest hAnd
      · rw [hMeaning, Condition.truth, both_eq_true, hTruth, List.forall_mem_cons, and_assoc]

/-- Conditions with `OR` before each are alternatives. -/
theorem readAlternatives?_flatMap
    (hEach : List.Forall₂ (fun item template => template.Says dialect (accepts item)) items
      templates) :
    ∀ left, ∃ condition,
      (∀ rest, Ends "AND" rest → Ends "OR" rest →
        readAlternatives? left (templates.flatMap (fun template =>
          .word "OR" :: template.tokens dialect) ++ rest) = some (condition, rest)) ∧
      ∀ judgement, condition.truth judgement = some true ↔
        left.truth judgement = some true ∨ ∃ item ∈ items, accepts item judgement := by
  induction hEach with
  | nil =>
      intro left
      refine ⟨left, fun rest _ hOr => readAlternatives?_of_ends hOr, fun judgement => ?_⟩
      simp
  | @cons _ _ _ others hFirst _ ih =>
      intro left
      obtain ⟨first, hRead, hTruth⟩ := hFirst
      obtain ⟨condition, hAll, hMeaning⟩ := ih (.either left first)
      refine ⟨condition, fun rest hAnd hOr => ?_, fun judgement => ?_⟩
      · rw [List.flatMap_cons, List.append_assoc, List.cons_append,
          readAlternatives?_cons hRead left (ends_flatMap (by decide) others hAnd)]
        exact hAll rest hAnd hOr
      · rw [hMeaning, Condition.truth, either_eq_true, hTruth, List.exists_mem_cons_iff, or_assoc]

/-- **`AND` binds tighter than `OR`**: what is joined with `AND` is a single conjunction. -/
theorem readChoice?_joined_and
    (hEach : List.Forall₂ (fun item template => template.Says dialect (accepts item)) items
      templates) (hNonempty : items ≠ []) :
    ∃ condition,
      (∀ rest, Ends "AND" rest → Ends "OR" rest →
        readChoice? (Template.tokens dialect (Template.joined " AND " templates) ++ rest) =
          some (condition, rest)) ∧
      ∀ judgement, condition.truth judgement = some true ↔
        ∀ item ∈ items, accepts item judgement := by
  cases hEach with
  | nil => exact absurd rfl hNonempty
  | @cons _ head _ others hFirst hRest =>
      obtain ⟨first, hRead, hTruth⟩ := hFirst
      obtain ⟨condition, hAll, hMeaning⟩ := readConjuncts?_flatMap hRest first
      refine ⟨condition, fun rest hAnd hOr => ?_, fun judgement => ?_⟩
      · have hShorter := length_lt_of_readPrimary? hRead (others.flatMap (fun template =>
          .word "AND" :: template.tokens dialect) ++ rest)
        have hLonger : rest.length ≤ (others.flatMap (fun template =>
            .word "AND" :: template.tokens dialect) ++ rest).length := by
          rw [List.length_append]
          omega
        rw [tokens_joined_cons (tokens_and dialect), List.append_assoc, readChoice?, readConjunction?, hRead]
        simp only [hShorter, if_true, hAll rest hAnd, Nat.lt_of_le_of_lt hLonger hShorter]
        exact readAlternatives?_of_ends hOr
      · rw [hMeaning, hTruth, List.forall_mem_cons]

/-- What is joined with `OR` is a choice. -/
theorem readChoice?_joined_or
    (hEach : List.Forall₂ (fun item template => template.Says dialect (accepts item)) items
      templates) (hNonempty : items ≠ []) :
    ∃ condition,
      (∀ rest, Ends "AND" rest → Ends "OR" rest →
        readChoice? (Template.tokens dialect (Template.joined " OR " templates) ++ rest) =
          some (condition, rest)) ∧
      ∀ judgement, condition.truth judgement = some true ↔
        ∃ item ∈ items, accepts item judgement := by
  cases hEach with
  | nil => exact absurd rfl hNonempty
  | @cons _ head _ others hFirst hRest =>
      obtain ⟨first, hRead, hTruth⟩ := hFirst
      obtain ⟨condition, hAll, hMeaning⟩ := readAlternatives?_flatMap hRest first
      refine ⟨condition, fun rest hAnd hOr => ?_, fun judgement => ?_⟩
      · have hShorter := length_lt_of_readPrimary? hRead (others.flatMap (fun template =>
          .word "OR" :: template.tokens dialect) ++ rest)
        rw [tokens_joined_cons (tokens_or dialect), List.append_assoc, readChoice?,
          readConjunction?_single hRead (ends_flatMap (by decide) others hAnd)]
        simp only [hShorter, if_true]
        exact hAll rest hAnd hOr
      · rw [hMeaning, hTruth, List.exists_mem_cons_iff]

end

/-! ## Conditions of searches and filters -/

theorem Template.Says.congr {template : Template} {accepts others : Judgement → Prop}
    (hSays : template.Says dialect accepts)
    (hIff : ∀ judgement, accepts judgement ↔ others judgement) :
    template.Says dialect others := by
  obtain ⟨condition, hRead, hTruth⟩ := hSays
  exact ⟨condition, hRead, fun judgement => (hTruth judgement).trans (hIff judgement)⟩

theorem tokens_parentheses (inner : Template) (rest : Tokens) :
    Template.tokens dialect ([.fixed "("] ++ inner ++ [.fixed ")"]) ++ rest =
      .sign '(' :: (inner.tokens dialect ++ .sign ')' :: rest) := by
  have hOpen : Template.tokens dialect [.fixed "("] = [.sign '('] := by
    cases dialect <;> rfl
  rw [Template.tokens_append, Template.tokens_append, hOpen, tokens_close, List.append_assoc,
    List.append_assoc, List.singleton_append, List.singleton_append]

/-- A choice in parentheses, whatever its alternatives are. -/
theorem says_parentheses {β : Type} {accepts : β → Judgement → Prop} {items : List β}
    {templates : List Template}
    (hEach : List.Forall₂ (fun item template => template.Says dialect (accepts item)) items
      templates) (hNonempty : items ≠ []) :
    Template.Says dialect ([.fixed "("] ++ Template.joined " OR " templates ++ [.fixed ")"])
      fun judgement => ∃ item ∈ items, accepts item judgement := by
  obtain ⟨condition, hRead, hTruth⟩ := readChoice?_joined_or hEach hNonempty
  refine ⟨condition, fun rest => ?_, hTruth⟩
  have hBody := hRead (.sign ')' :: rest) (by simp [Ends]) (by simp [Ends])
  rw [tokens_parentheses, readPrimary?, hBody]
  rfl

theorem says_renderPredicate (predicate : Predicate) : ∀ {template : Template},
    predicate.Writable → renderPredicate dialect config predicate = .done template →
      template.Says dialect fun judgement => predicate.Accepts dialect config judgement := by
  induction predicate using Predicate.induct with
  | always =>
      intro template _ h
      obtain rfl := Rendering.done.inj h
      refine (compares_always dialect).means.congr fun judgement => ?_
      exact iff_of_true rfl .always
  | never =>
      intro template _ h
      obtain rfl := Rendering.done.inj h
      refine (compares_never dialect).means.congr fun judgement => ?_
      exact iff_of_false (by simp [Comparison.truth]) not_accepts_never
  | single clause =>
      intro template _ h
      exact (compares_renderClause h).means.congr fun judgement => accepts_single.symm
  | any alternatives ih =>
      intro template hWritable h
      obtain ⟨templates, hParts, rfl⟩ := renderPredicate_any_eq_done h
      cases hWritable with
      | any hNonempty hWritable =>
          have hEach : List.Forall₂ (fun alternative part => Template.Says dialect part
              fun judgement => alternative.Accepts dialect config judgement) alternatives
              templates := by
            exact forall₂_imp_of_mem hParts fun alternative hMem part _ hPart =>
              ih alternative hMem (hWritable alternative hMem) hPart
          exact (says_parentheses hEach hNonempty).congr fun judgement => accepts_any.symm

end Sql

/-- No choice in the filter is empty, at any depth. -/
def Filter.Writable : Filter → Prop
  | .search predicate => predicate.Writable
  | _ => True

namespace Sql

theorem says_filterRendering {filter : Filter} {template : Template}
    (hWritable : filter.Writable)
    (h : filterRendering dialect config filter = .done template) :
    template.Says dialect fun judgement => filter.Accepts dialect config judgement := by
  cases filter with
  | idIn column ids => exact (compares_idIn h).means.congr fun _ => truth_idComparison
  | columnEquals column value =>
      exact (compares_columnEquals h).means.congr fun _ => truth_valueComparison
  | search predicate => exact says_renderPredicate predicate hWritable h

theorem readWhere?_of_ends {rest : Tokens} (hEnds : Ends "WHERE" rest) :
    readWhere? rest = some (none, rest) := by
  rw [readWhere?.eq_def]
  split
  · exact absurd rfl (hEnds _ rfl)
  · rfl

/-- **The filters of a selection are all required**, and no filter reaches into another one. -/
theorem readWhere?_whereTemplate {filters : List Filter} {templates : List Template}
    (hWritable : ∀ filter ∈ filters, filter.Writable)
    (hParts : List.Forall₂ (fun filter part => filterRendering dialect config filter = .done part)
      (filters.filter Filter.narrows) templates) :
    ∃ condition : Option Condition,
      (∀ rest, Ends "WHERE" rest → Ends "AND" rest → Ends "OR" rest →
        readWhere? (Template.tokens dialect (whereTemplate templates) ++ rest) =
          some (condition, rest)) ∧
      ∀ judgement, (∀ inner ∈ condition, inner.truth judgement = some true) ↔
        ∀ filter ∈ filters, filter.Accepts dialect config judgement := by
  have hKept : ∀ judgement : Judgement,
      (∀ filter ∈ filters.filter Filter.narrows, filter.Accepts dialect config judgement) ↔
        ∀ filter ∈ filters, filter.Accepts dialect config judgement :=
    fun _ => Filter.forall_narrows_iff .always
  cases hFilters : filters.filter Filter.narrows with
  | nil =>
      rw [hFilters] at hParts hKept
      cases hParts
      refine ⟨none, fun rest hWhere _ _ => readWhere?_of_ends hWhere, fun judgement => ?_⟩
      rw [← hKept]
      simp
  | cons first others =>
      have hEach : List.Forall₂ (fun filter part => Template.Says dialect part
          fun judgement => filter.Accepts dialect config judgement)
          (filters.filter Filter.narrows) templates := by
        exact forall₂_imp_of_mem hParts fun filter hMem part _ hPart =>
          says_filterRendering (hWritable filter (List.mem_filter.mp hMem).1) hPart
      obtain ⟨condition, hRead, hTruth⟩ := readChoice?_joined_and hEach (by simp [hFilters])
      have hTemplate : Template.tokens dialect (whereTemplate templates) =
          .word "WHERE" :: Template.tokens dialect (Template.joined " AND " templates) := by
        rw [hFilters] at hParts
        cases hParts
        cases dialect <;> rfl
      refine ⟨some condition, fun rest _ hAnd hOr => ?_, fun judgement => ?_⟩
      · rw [hTemplate, List.cons_append, readWhere?, hRead rest hAnd hOr]
        rfl
      · rw [← hKept, ← hTruth]
        simp

end Sql
end FieldSearch
