import FieldSearch.Proofs.Query.Statement
import Mathlib

/-!
# Selections that cannot be read

A choice without alternatives leaves empty parentheses in a statement, and there is
no condition to be read in them.  Nothing that is put around them helps: what stands
before them is read, and then reading gives up.  So a statement that can be read
comes of a selection that can be written, and it says what the selection asks for.

## Main results

* `unreadable_renderPredicate`: where a choice is empty, no condition is read.
* `filters_writable_of_read?`: a statement that can be read has no empty choice.
* `asks_of_read?`: what a statement that can be read says.
-/

namespace FieldSearch.Sql

variable {dialect : Dialect} {config : Option String}

/-- A condition is read where the template stands, whatever follows. -/
def Template.Readable (dialect : Dialect) (template : Template) : Prop :=
  ∃ condition, ∀ rest, readPrimary? (template.tokens dialect ++ rest) = some (condition, rest)

/-- No condition is read where the template stands, whatever follows. -/
def Template.Unreadable (dialect : Dialect) (template : Template) : Prop :=
  ∀ rest, readPrimary? (template.tokens dialect ++ rest) = none

theorem Template.Says.readable {template : Template} {accepts : Judgement → Prop}
    (h : template.Says dialect accepts) : template.Readable dialect := by
  obtain ⟨condition, hRead, -⟩ := h
  exact ⟨condition, hRead⟩

/-- Every template is readable or unreadable, and one of them is not readable. -/
structure Template.Broken (dialect : Dialect) (templates : List Template) : Prop where
  each : ∀ template ∈ templates, template.Readable dialect ∨ template.Unreadable dialect
  some : ∃ template ∈ templates, template.Unreadable dialect

/-- An unreadable template comes first, or one comes behind a readable template. -/
theorem Template.Broken.cases {first : Template} {rest : List Template}
    (h : Template.Broken dialect (first :: rest)) :
    first.Unreadable dialect ∨ first.Readable dialect ∧ Template.Broken dialect rest := by
  obtain ⟨hFirst, hRest⟩ := List.forall_mem_cons.mp h.each
  rcases hFirst with hReadable | hUnreadable
  · refine .inr ⟨hReadable, hRest, ?_⟩
    obtain ⟨template, hMem, hUnreadable⟩ := h.some
    rcases List.mem_cons.mp hMem with rfl | hMem
    · obtain ⟨condition, hRead⟩ := hReadable
      exact absurd ((hRead []).symm.trans (hUnreadable [])) (Option.some_ne_none _)
    · exact ⟨template, hMem, hUnreadable⟩
  · exact .inl hUnreadable

/-- Where items can be written or not, and a template is readable or unreadable by that, the
templates are broken as soon as one item cannot be written. -/
theorem Template.broken_of_parts {β : Type} {writable : β → Prop} {renders : β → Template → Prop}
    {items : List β} {templates : List Template} (hParts : List.Forall₂ renders items templates)
    (hReadable : ∀ item ∈ items, writable item → ∀ {part}, renders item part →
      part.Readable dialect)
    (hUnreadable : ∀ item ∈ items, ¬ writable item → ∀ {part}, renders item part →
      part.Unreadable dialect)
    {item : β} (hMem : item ∈ items) (hNot : ¬ writable item) :
    Template.Broken dialect templates := by
  constructor
  · intro part hPart
    obtain ⟨other, hOther, hDone⟩ := exists_of_mem_right hParts hPart
    by_cases hWritable : writable other
    · exact .inl (hReadable other hOther hWritable hDone)
    · exact .inr (hUnreadable other hOther hWritable hDone)
  · obtain ⟨part, hPart, hDone⟩ := exists_of_mem_left hParts hMem
    exact ⟨part, hPart, hUnreadable item hMem hNot hDone⟩

/-! ## Lists of conditions -/

theorem readConjunction?_of_unreadable {template : Template}
    (h : template.Unreadable dialect) (rest : Tokens) :
    readConjunction? (template.tokens dialect ++ rest) = none := by
  rw [readConjunction?, h]

theorem readConjuncts?_of_broken {templates : List Template}
    (h : Template.Broken dialect templates) (rest : Tokens) :
    ∀ left, readConjuncts? left (templates.flatMap (fun template =>
      .word "AND" :: template.tokens dialect) ++ rest) = none := by
  induction templates with
  | nil => exact absurd h.some (by simp)
  | cons first others ih =>
      intro left
      rw [List.flatMap_cons, List.append_assoc, List.cons_append]
      rcases h.cases with hUnreadable | ⟨⟨condition, hRead⟩, hOthers⟩
      · rw [readConjuncts?, hUnreadable]
      · rw [readConjuncts?_cons hRead]
        exact ih hOthers _

theorem readAlternatives?_of_broken {templates : List Template}
    (h : Template.Broken dialect templates) {rest : Tokens} (hEnds : Ends "AND" rest) :
    ∀ left, readAlternatives? left (templates.flatMap (fun template =>
      .word "OR" :: template.tokens dialect) ++ rest) = none := by
  induction templates with
  | nil => exact absurd h.some (by simp)
  | cons first others ih =>
      intro left
      rw [List.flatMap_cons, List.append_assoc, List.cons_append]
      rcases h.cases with hUnreadable | ⟨⟨condition, hRead⟩, hOthers⟩
      · rw [readAlternatives?, readConjunction?_of_unreadable hUnreadable]
      · rw [readAlternatives?_cons hRead left (ends_flatMap (by decide) others hEnds)]
        exact ih hOthers _

/-- **No condition is read where one of those joined with `AND` is unreadable.** -/
theorem readChoice?_joined_and_of_broken {templates : List Template}
    (h : Template.Broken dialect templates) (rest : Tokens) :
    readChoice? (Template.tokens dialect (Template.joined " AND " templates) ++ rest) = none := by
  cases templates with
  | nil => exact absurd h.some (by simp)
  | cons first others =>
      rw [tokens_joined_cons (tokens_and dialect), List.append_assoc, readChoice?]
      rcases h.cases with hUnreadable | ⟨⟨condition, hRead⟩, hOthers⟩
      · rw [readConjunction?_of_unreadable hUnreadable]
      · rw [readConjunction?, hRead]
        simp only [readConjuncts?_of_broken hOthers, ite_self]

/-- No condition is read where one of those joined with `OR` is unreadable. -/
theorem readChoice?_joined_or_of_broken {templates : List Template}
    (h : Template.Broken dialect templates) {rest : Tokens} (hEnds : Ends "AND" rest) :
    readChoice? (Template.tokens dialect (Template.joined " OR " templates) ++ rest) = none := by
  cases templates with
  | nil => exact absurd h.some (by simp)
  | cons first others =>
      rw [tokens_joined_cons (tokens_or dialect), List.append_assoc, readChoice?]
      rcases h.cases with hUnreadable | ⟨⟨condition, hRead⟩, hOthers⟩
      · rw [readConjunction?_of_unreadable hUnreadable]
      · rw [readConjunction?_single hRead (ends_flatMap (by decide) others hEnds)]
        simp only [readAlternatives?_of_broken hOthers hEnds, ite_self]

/-! ## Conditions -/

/-- In empty parentheses there is nothing to read. -/
theorem unreadable_empty : Template.Unreadable dialect ([.fixed "("] ++ [] ++ [.fixed ")"]) := by
  intro rest
  rw [tokens_parentheses]
  have hNone : readChoice? (Template.tokens dialect [] ++ .sign ')' :: rest) = none := by
    rw [readChoice?, readConjunction?, readPrimary?.eq_def]
    rfl
  rw [readPrimary?, hNone]

/-- **Where a choice is empty, no condition is read.** -/
theorem unreadable_renderPredicate (predicate : Predicate) : ∀ {template : Template},
    ¬ predicate.Writable → renderPredicate dialect config predicate = .done template →
      template.Unreadable dialect := by
  induction predicate using Predicate.induct with
  | always => exact fun hNot _ => absurd .always hNot
  | never => exact fun hNot _ => absurd .never hNot
  | single clause => exact fun hNot _ => absurd (.single clause) hNot
  | any alternatives ih =>
      intro template hNot h
      obtain ⟨templates, hParts, rfl⟩ := renderPredicate_any_eq_done h
      by_cases hEmpty : alternatives = []
      · subst hEmpty
        cases hParts
        exact unreadable_empty
      obtain ⟨alternative, hMem, hUnwritable⟩ :
          ∃ alternative ∈ alternatives, ¬ alternative.Writable := by
        by_contra hAll
        push Not at hAll
        exact hNot (.any hEmpty hAll)
      have hBroken : Template.Broken dialect templates := by
        refine Template.broken_of_parts hParts (fun other _ hWritable part hDone => ?_)
          (fun other hOther hNotWritable part hDone => ?_) hMem hUnwritable
        · exact (says_renderPredicate other hWritable hDone).readable
        · exact ih other hOther hNotWritable hDone
      intro rest
      rw [tokens_parentheses, readPrimary?,
        readChoice?_joined_or_of_broken hBroken (by simp [Ends])]

/-! ## Selections -/

theorem unreadable_filterRendering {filter : Filter} {template : Template}
    (hNot : ¬ filter.Writable) (h : filterRendering dialect config filter = .done template) :
    template.Unreadable dialect := by
  cases filter with
  | idIn column ids => exact absurd trivial hNot
  | columnEquals column value => exact absurd trivial hNot
  | search predicate => exact unreadable_renderPredicate predicate hNot h

theorem readWhere?_of_not_writable {filters : List Filter} {templates : List Template}
    (hParts : List.Forall₂ (fun filter part => filterRendering dialect config filter = .done part)
      (filters.filter Filter.narrows) templates)
    {filter : Filter} (hMem : filter ∈ filters) (hNot : ¬ filter.Writable) (rest : Tokens) :
    readWhere? (Template.tokens dialect (whereTemplate templates) ++ rest) = none := by
  have hNarrows : filter.narrows = true := by
    cases hNarrows : filter.narrows with
    | true => rfl
    | false =>
        rw [Filter.eq_of_not_narrows hNarrows] at hNot
        exact absurd .always hNot
  have hKept : filter ∈ filters.filter Filter.narrows := List.mem_filter.mpr ⟨hMem, hNarrows⟩
  have hBroken : Template.Broken dialect templates := by
    refine Template.broken_of_parts hParts (fun other _ hWritable part hDone => ?_)
      (fun other _ hNotWritable part hDone => ?_) hKept hNot
    · exact (says_filterRendering hWritable hDone).readable
    · exact unreadable_filterRendering hNotWritable hDone
  have hTemplate : Template.tokens dialect (whereTemplate templates) =
      .word "WHERE" :: Template.tokens dialect (Template.joined " AND " templates) := by
    cases templates with
    | nil => exact absurd hBroken.some (by simp)
    | cons first others => cases dialect <;> rfl
  rw [hTemplate, List.cons_append, readWhere?, readChoice?_joined_and_of_broken hBroken]
  rfl

/-- **A statement that can be read has no empty choice.** -/
theorem filters_writable_of_read? {writer : Writer} {select : Select} {fragment : Fragment}
    {statement : Statement} (hColumns : select.columns ≠ [])
    (hRendered : writer.renderSelect select = .ok fragment)
    (hRead : fragment.read? writer.dialect = some statement) :
    ∀ filter ∈ select.filters, filter.Writable := by
  intro filter hMem
  by_contra hNot
  obtain ⟨template, hRendering, rfl⟩ := Writer.renderSelect_eq_ok hRendered
  rw [read?_render hRendering] at hRead
  obtain ⟨conditions, keys, hConditions, -, rfl⟩ := renderSelect_eq_done hRendering
  rw [readStatement?_selectHead hColumns, Template.tokens_append, readClauses?,
    readWhere?_of_not_writable hConditions hMem hNot] at hRead
  cases hRead

/-- **What a statement that can be read says.** -/
theorem asks_of_read? {writer : Writer} {select : Select} {fragment : Fragment}
    {statement : Statement} (hColumns : select.columns ≠ [])
    (hKeys : ∀ key ∈ select.sorting.keys, key.expr.Writable)
    (hRendered : writer.renderSelect select = .ok fragment)
    (hRead : fragment.read? writer.dialect = some statement) :
    ∃ condition,
      statement = ⟨select.columns, select.table, condition,
        select.sorting.keys.map (SortKey.toKey writer.dialect), select.limit,
        select.shownOffset⟩ ∧
      ∀ judgement, (∀ inner ∈ condition, inner.truth judgement = some true) ↔
        ∀ filter ∈ select.filters,
          filter.Accepts writer.dialect writer.textSearchConfig judgement := by
  have hWritable := filters_writable_of_read? hColumns hRendered hRead
  obtain ⟨condition, hAsked, hTruth⟩ := read?_of_renderSelect hColumns ⟨hWritable, hKeys⟩ hRendered
  exact ⟨condition, Option.some.inj (hRead.symm.trans hAsked), hTruth⟩

end FieldSearch.Sql
