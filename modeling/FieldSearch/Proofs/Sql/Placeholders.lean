import FieldSearch.Proofs.Pairs
import FieldSearch.Proofs.Sql.Comparison
import FieldSearch.Proofs.Sql.Separation
import Mathlib

/-!
# Placeholders and parameters

Every value of a statement stands in one of its parts: in a comparison, or as
the term whose position is looked for.  The parts that a condition, an order
or a selection ought to have are given by recursion on it, with no mention of
texts or placeholders.  The parts that a statement does have are found by
reading its text from left to right.  The two lists are the same, in the same
order, and the parameters are the values of the parts one after the other.

A value that was bound for one part and looked up for another would show as a
difference of the two lists; a placeholder that is used twice, left out or
out of order would break the numbering.

## Main results

* `holds_renderPredicate`, `holds_renderSorting`: what is rendered holds the
  parts of its condition or order.
* `rendered_aligned`: statements, conditions and orders are aligned with their
  parameters, behind any values that have been bound before.
-/

namespace FieldSearch

open Sql (Dialect Comparison Part)

/-! ## The parts that there ought to be -/

namespace Predicate

mutual

/-- The comparisons of a condition, in order. -/
def comparisons (dialect : Dialect) (config : Option String) : Predicate → List Comparison
  | .always => [.numbers 1 1]
  | .never => [.numbers 1 0]
  | .single clause => [clause.comparison dialect config]
  | .any alternatives => comparisonsOf dialect config alternatives

/-- The comparisons of several conditions, in order. -/
def comparisonsOf (dialect : Dialect) (config : Option String) : List Predicate → List Comparison
  | [] => []
  | alternative :: rest =>
      comparisons dialect config alternative ++ comparisonsOf dialect config rest

end

/-- The parts of a condition. -/
def parts (dialect : Dialect) (config : Option String) (predicate : Predicate) : List Part :=
  (predicate.comparisons dialect config).map .comparison

theorem comparisonsOf_eq_flatMap (dialect : Dialect) (config : Option String)
    (alternatives : List Predicate) :
    comparisonsOf dialect config alternatives =
      alternatives.flatMap (comparisons dialect config) := by
  induction alternatives with
  | nil => rfl
  | cons first rest ih => rw [comparisonsOf, ih, List.flatMap_cons]

theorem parts_any (dialect : Dialect) (config : Option String) (alternatives : List Predicate) :
    parts dialect config (.any alternatives) = alternatives.flatMap (parts dialect config) := by
  rw [parts, comparisons, comparisonsOf_eq_flatMap, List.map_flatMap]
  rfl

end Predicate

/-- The parts of a ranking expression. -/
def RankExpr.parts (dialect : Dialect) : RankExpr → List Part
  | .column _ => []
  | .exactPrefix pairs => pairs.map fun pair => .comparison (pair.comparison dialect)
  | .matchPosition pairs => pairs.map fun pair => .position (.text pair.term) pair.field

/-- The parts of an order. -/
def Sorting.parts (dialect : Dialect) (sorting : Sorting) : List Part :=
  sorting.keys.flatMap fun key => key.expr.parts dialect

/-- The parts of a filter. -/
def Filter.parts (dialect : Dialect) (config : Option String) : Filter → List Part
  | .search .always => []
  | .search predicate => predicate.parts dialect config
  | .idIn column ids => [.comparison (Sql.idComparison column ids)]
  | .columnEquals column value => [.comparison (Sql.valueComparison column value)]

/-- The parts of a selection: those of its filters and then those of its order. -/
def Select.parts (dialect : Dialect) (config : Option String) (select : Select) : List Part :=
  select.filters.flatMap (Filter.parts dialect config) ++ select.sorting.parts dialect

namespace Sql

/-! ## Finding parts -/

theorem readParts_of_none {token : Token Value} {rest : Tokens}
    (hNone : readPart? (token :: rest) = none) : readParts (token :: rest) = readParts rest := by
  rw [readParts, hNone]

theorem readParts_of_some {tokens rest : Tokens} {part : Part}
    (hPart : readPart? tokens = some (part, rest)) (hLength : rest.length < tokens.length) :
    readParts tokens = part :: readParts rest := by
  cases tokens with
  | nil => exact absurd hLength (Nat.not_lt_zero _)
  | cons token others =>
      have hShorter : rest.length ≤ others.length := Nat.le_of_lt_succ hLength
      rw [readParts, hPart]
      simp only [hShorter, if_true]

/-- Whether no part begins with a token, given the one behind it.  A number and a name have to be
followed by something that does not make them one side of a comparison. -/
def isNeutral : Token Value → Option (Token Value) → Bool
  | .word text, _ => text != "casefold" && text != "to_tsvector" && text != "POSITION"
  | .number _, some next => next != .sign '='
  | .number _, none => false
  | .name _, some next =>
      next != .sign '=' && next != .word "IS" && next != .word "IN" && next != .word "ILIKE"
  | .name _, none => false
  | _, _ => true

/-- Tokens in which no part begins, whatever follows them. -/
def isInert : Tokens → Bool
  | [] => true
  | token :: rest => isNeutral token rest.head? && isInert rest

theorem readPart?_of_isNeutral {token : Token Value} {rest : Tokens}
    (hNeutral : isNeutral token rest.head? = true) (more : Tokens) :
    readPart? (token :: rest ++ more) = none := by
  cases token with
  | word text =>
      simp only [isNeutral, Bool.and_eq_true, bne_iff_ne, ne_eq] at hNeutral
      obtain ⟨⟨hFold, hVector⟩, hPosition⟩ := hNeutral
      simp [readPart?, readComparison?, readPosition?, hFold, hVector, hPosition]
  | number value =>
      cases rest with
      | nil => cases hNeutral
      | cons next others =>
          simp only [List.head?_cons, isNeutral, bne_iff_ne, ne_eq] at hNeutral
          simp [readPart?, readComparison?, readPosition?, hNeutral]
  | name column =>
      cases rest with
      | nil => cases hNeutral
      | cons next others =>
          simp only [List.head?_cons, isNeutral, Bool.and_eq_true, bne_iff_ne, ne_eq] at hNeutral
          obtain ⟨⟨⟨hEquals, hIs⟩, hIn⟩, hIlike⟩ := hNeutral
          simp [readPart?, readComparison?, readPosition?, hEquals, hIs, hIn, hIlike]
  | literal text => rfl
  | operand value => rfl
  | sign c => rfl
  | unfinished => rfl

theorem readParts_of_isInert (tokens : Tokens) (hInert : isInert tokens = true) (rest : Tokens) :
    readParts (tokens ++ rest) = readParts rest := by
  induction tokens with
  | nil => rfl
  | cons token others ih =>
      simp only [isInert, Bool.and_eq_true] at hInert
      obtain ⟨hNeutral, hOthers⟩ := hInert
      have hNone := readPart?_of_isNeutral hNeutral rest
      rw [List.cons_append] at hNone ⊢
      rw [readParts_of_none hNone, ih hOthers]

theorem readPart?_singleton (token : Token Value) : readPart? [token] = none := by
  cases token <;> simp [readPart?, readComparison?, readPosition?]

/-- A token that no part begins with, because of what follows it or because nothing does. -/
theorem readParts_of_next {token : Token Value} {rest : Tokens}
    (hNext : ∀ next ∈ rest.head?, isNeutral token (some next) = true) :
    readParts (token :: rest) = readParts rest := by
  refine readParts_of_none ?_
  cases rest with
  | nil => exact readPart?_singleton token
  | cons next others =>
      have hNeutral : isNeutral token [next].head? = true := hNext next rfl
      exact readPart?_of_isNeutral hNeutral others

/-! ## Parts of templates -/

/-- The template holds the parts and no others, whatever follows, and binds their values. -/
structure Template.Holds (dialect : Dialect) (template : Template) (parts : List Part) : Prop where
  read : ∀ rest, readParts (template.tokens dialect ++ rest) = parts ++ readParts rest
  values : template.values = parts.flatMap Part.values

namespace Template

theorem Holds.of_isInert {dialect : Dialect} {template : Template}
    (hInert : isInert (template.tokens dialect) = true) (hValues : template.values = []) :
    Holds dialect template [] :=
  ⟨readParts_of_isInert _ hInert, hValues⟩

theorem Holds.append {dialect : Dialect} {left right : Template} {first second : List Part}
    (hLeft : Holds dialect left first) (hRight : Holds dialect right second) :
    Holds dialect (left ++ right) (first ++ second) := by
  refine ⟨fun rest => ?_, ?_⟩
  · rw [tokens_append, List.append_assoc, hLeft.read, hRight.read, List.append_assoc]
  · rw [values_append, hLeft.values, hRight.values, List.flatMap_append]

theorem Compares.holds {dialect : Dialect} {template : Template} {comparison : Comparison}
    (hCompares : Compares dialect template comparison) :
    Holds dialect template [.comparison comparison] := by
  have hNonempty : template.tokens dialect ≠ [] := by
    intro hNil
    have hEmpty := hCompares.read []
    rw [hNil] at hEmpty
    cases hEmpty
  refine ⟨fun rest => ?_, by rw [hCompares.values]; simp [Part.values]⟩
  have hPart : readPart? (template.tokens dialect ++ rest) =
      some (.comparison comparison, rest) := by
    rw [readPart?, hCompares.read rest]
  refine readParts_of_some hPart ?_
  rw [List.length_append]
  have := List.length_pos_iff.mpr hNonempty
  omega

/-- What is joined item by item holds the parts of the items. -/
theorem Holds.joined {β : Type} {dialect : Dialect} {separator : String}
    (hSeparator : isInert (tokens dialect [.fixed separator]) = true)
    {parts : β → List Part} {items : List β} {templates : List Template}
    (hEach : List.Forall₂ (fun item template => Holds dialect template (parts item)) items
      templates) :
    Holds dialect (Template.joined separator templates) (items.flatMap parts) := by
  have hFixed : Holds dialect [.fixed separator] [] := .of_isInert hSeparator rfl
  induction hEach with
  | nil => exact .of_isInert rfl rfl
  | cons hFirst hRest ih =>
      rw [List.flatMap_cons]
      cases hRest with
      | nil =>
          rw [List.flatMap_nil, List.append_nil]
          exact hFirst
      | cons hSecond hOthers => exact hFirst.append (hFixed.append ih)

end Template

/-! ## Conditions and orders -/

theorem holds_renderPredicate {dialect : Dialect} {config : Option String}
    (predicate : Predicate) : ∀ {template : Template},
      renderPredicate dialect config predicate = .done template →
        Template.Holds dialect template (predicate.parts dialect config) := by
  induction predicate using Predicate.induct with
  | always =>
      intro template h
      obtain rfl := Rendering.done.inj h
      exact (compares_always dialect).holds
  | never =>
      intro template h
      obtain rfl := Rendering.done.inj h
      exact (compares_never dialect).holds
  | single clause =>
      intro template h
      exact (compares_renderClause h).holds
  | any alternatives ih =>
      intro template h
      obtain ⟨templates, hParts, rfl⟩ := renderPredicate_any_eq_done h
      have hOpen : Template.Holds dialect [.fixed "("] [] :=
        .of_isInert (by cases dialect <;> rfl) rfl
      have hClose : Template.Holds dialect [.fixed ")"] [] :=
        .of_isInert (by cases dialect <;> rfl) rfl
      have hJoined : Template.Holds dialect (Template.joined " OR " templates)
          (alternatives.flatMap (Predicate.parts dialect config)) := by
        refine .joined (by cases dialect <;> rfl) ?_
        exact forall₂_imp_of_mem hParts fun alternative hMem part _ hPart =>
          ih alternative hMem hPart
      rw [Predicate.parts_any]
      simpa using (hOpen.append hJoined).append hClose

theorem holds_exactPrefixFlag (dialect : Dialect) (pair : FieldTerm) :
    Template.Holds dialect (exactPrefixFlag dialect pair)
      [.comparison (pair.comparison dialect)] := by
  have hCase : Template.Holds dialect [.fixed "CASE WHEN "] [] :=
    .of_isInert (by cases dialect <;> rfl) rfl
  have hThen : Template.Holds dialect [.fixed " THEN 1 ELSE 0 END"] [] :=
    .of_isInert (by cases dialect <;> rfl) rfl
  exact (hCase.append (compares_like dialect pair.field _).holds).append hThen

theorem holds_matchPosition (dialect : Dialect) (pair : FieldTerm) :
    Template.Holds dialect (matchPosition pair) [.position (.text pair.term) pair.field] := by
  refine ⟨fun rest => ?_, rfl⟩
  have hPart : readPart? (positionTokens (.text pair.term) pair.field ++
      ([.sign ',', .number 0, .sign ')'] ++ rest)) =
      some (.position (.text pair.term) pair.field, [.sign ',', .number 0, .sign ')'] ++ rest) :=
    rfl
  rw [tokens_matchPosition, List.append_assoc, List.append_assoc, readParts_of_isInert _ rfl,
    readParts_of_some hPart (by simp [positionTokens]), readParts_of_isInert _ rfl]
  rfl

/-- A function on several expressions holds the parts of these. -/
theorem holds_folded {dialect : Dialect} (function : String)
    (hFunction : isInert (Template.tokens dialect [.fixed (function ++ "(")]) = true)
    {render : FieldTerm → Template} {part : FieldTerm → Part}
    (hEach : ∀ pair, Template.Holds dialect (render pair) [part pair]) (pairs : List FieldTerm) :
    Template.Holds dialect (folded function (pairs.map render)) (pairs.map part) := by
  have hOpen : Template.Holds dialect [.fixed (function ++ "(")] [] := .of_isInert hFunction rfl
  have hClose : Template.Holds dialect [.fixed ")"] [] := .of_isInert (by cases dialect <;> rfl) rfl
  have hParts : Template.Holds dialect (Template.joined ", " (pairs.map render))
      (pairs.flatMap fun pair => [part pair]) := by
    refine .joined (by cases dialect <;> rfl) ?_
    rw [List.forall₂_map_right_iff, List.forall₂_same]
    exact fun pair _ => hEach pair
  have hAll := (hOpen.append hParts).append hClose
  rw [List.nil_append, List.append_nil, ← List.map_eq_flatMap] at hAll
  match pairs with
  | [] => exact hAll
  | [pair] => exact hEach pair
  | _ :: _ :: _ => exact hAll

theorem holds_renderKey {dialect : Dialect} {key : SortKey} {template : Template}
    (h : renderKey dialect key = .done template) :
    Template.Holds dialect template (key.expr.parts dialect) := by
  obtain ⟨expr, hExpr, rfl⟩ := renderKey_eq_done h
  obtain ⟨subject, direction, nullsLast⟩ := key
  have hEnding : Template.Holds dialect [.fixed (keyEnding direction nullsLast)] [] := by
    refine .of_isInert ?_ rfl
    cases dialect <;> cases direction <;> cases nullsLast <;> rfl
  cases subject with
  | column name =>
      obtain rfl := Rendering.done.inj hExpr
      -- A name is inert only together with what follows it.
      refine .of_isInert ?_ rfl
      show isInert (Template.tokens dialect [.name name, .fixed (keyEnding direction nullsLast)]) =
        true
      cases dialect <;> cases direction <;> cases nullsLast <;> rfl
  | exactPrefix pairs =>
      obtain ⟨rfl, rfl⟩ := requireFullText_eq_done hExpr
      have hFlags := holds_folded "GREATEST" rfl
        (holds_exactPrefixFlag .postgres) pairs
      simpa [RankExpr.parts] using hFlags.append hEnding
  | matchPosition pairs =>
      obtain ⟨rfl, rfl⟩ := requireFullText_eq_done hExpr
      have hPositions := holds_folded "LEAST" rfl
        (holds_matchPosition .postgres) pairs
      simpa [RankExpr.parts] using hPositions.append hEnding

theorem holds_joined_keys {dialect : Dialect} {keys : List SortKey} {templates : List Template}
    (hParts : List.Forall₂ (fun key part => renderKey dialect key = .done part) keys templates) :
    Template.Holds dialect (Template.joined ", " templates)
      (keys.flatMap fun key => key.expr.parts dialect) := by
  refine .joined (by cases dialect <;> rfl) (hParts.imp fun _ _ hDone => ?_)
  exact holds_renderKey hDone

theorem holds_renderSorting {dialect : Dialect} {sorting : Sorting} {template : Template}
    (h : renderSorting dialect sorting = .done template) :
    Template.Holds dialect template (sorting.parts dialect) := by
  obtain ⟨templates, hParts, rfl⟩ := renderSorting_eq_done h
  exact holds_joined_keys hParts

/-! ## Selections -/

theorem holds_filterRendering {dialect : Dialect} {config : Option String} {filter : Filter}
    {template : Template} (h : filterRendering dialect config filter = .done template)
    (hNarrows : filter.narrows = true) :
    Template.Holds dialect template (filter.parts dialect config) := by
  cases filter with
  | idIn column ids => exact (compares_idIn h).holds
  | columnEquals column value => exact (compares_columnEquals h).holds
  | search predicate =>
      have hParts := holds_renderPredicate predicate h
      cases predicate with
      | always => cases hNarrows
      | _ => exact hParts

theorem holds_whereTemplate {dialect : Dialect} {config : Option String} {filters : List Filter}
    {templates : List Template}
    (hParts : List.Forall₂ (fun filter part => filterRendering dialect config filter = .done part)
      (filters.filter Filter.narrows) templates) :
    Template.Holds dialect (whereTemplate templates)
      (filters.flatMap (Filter.parts dialect config)) := by
  have hWhere : Template.Holds dialect [.fixed " WHERE "] [] :=
    .of_isInert (by cases dialect <;> rfl) rfl
  have hJoined : Template.Holds dialect (Template.joined " AND " templates)
      (filters.flatMap (Filter.parts dialect config)) := by
    rw [← Filter.flatMap_narrows (Filter.parts dialect config) rfl]
    refine .joined (by cases dialect <;> rfl) ?_
    exact forall₂_imp_of_mem hParts fun filter hMem part _ hPart =>
      holds_filterRendering hPart (List.mem_filter.mp hMem).2
  cases templates with
  | nil => exact hJoined
  | cons first rest => exact hWhere.append hJoined

theorem holds_orderTemplate {dialect : Dialect} {keys : List SortKey} {templates : List Template}
    (hParts : List.Forall₂ (fun key part => renderKey dialect key = .done part) keys templates) :
    Template.Holds dialect (orderTemplate templates)
      (keys.flatMap fun key => key.expr.parts dialect) := by
  have hOrder : Template.Holds dialect [.fixed " ORDER BY "] [] :=
    .of_isInert (by cases dialect <;> rfl) rfl
  cases templates with
  | nil => exact holds_joined_keys hParts
  | cons first rest => exact hOrder.append (holds_joined_keys hParts)

theorem readParts_integerTokens (value : Int) (rest : Tokens)
    (hNext : ∀ next ∈ rest.head?, isNeutral (.number value.natAbs) (some next) = true) :
    readParts (integerTokens value ++ rest) = readParts rest := by
  have hNumber := readParts_of_next hNext
  unfold integerTokens
  split
  · rw [List.append_assoc, readParts_of_isInert [.sign '-'] rfl]
    exact hNumber
  · exact hNumber

/-- No value stands in the page of a selection. -/
theorem readParts_page (dialect : Dialect) (limit : Option Int) (offset : Int) :
    readParts (Template.tokens dialect (limitTemplate limit ++ offsetTemplate offset)) = [] := by
  have hNil : readParts [] = [] := by rw [readParts]
  have hOffset : readParts (Template.tokens dialect (offsetTemplate offset)) = [] := by
    rw [tokens_offsetTemplate]
    split
    · have hInteger := readParts_integerTokens offset [] (by simp)
      rw [List.append_nil, hNil] at hInteger
      rw [readParts_of_none rfl, hInteger]
    · exact hNil
  rw [Template.tokens_append, tokens_limitTemplate]
  cases limit with
  | none => exact hOffset
  | some value =>
      have hInteger := readParts_integerTokens value
        (Template.tokens dialect (offsetTemplate offset)) (by
          rw [tokens_offsetTemplate]
          split <;> simp [isNeutral])
      rw [List.cons_append, readParts_of_none rfl, hInteger, hOffset]

theorem isInert_columnTemplate (dialect : Dialect) (columns : List String) :
    isInert (Template.tokens dialect (columnTemplate columns) ++ [.word "FROM"]) = true := by
  induction columns with
  | nil => rfl
  | cons first rest ih =>
      cases rest with
      | nil => rfl
      | cons second others =>
          rw [tokens_columnTemplate_cons_cons]
          exact ih

theorem readParts_selectHead (dialect : Dialect) (select : Select) {rest : Tokens}
    (hNext : ∀ next ∈ rest.head?, isNeutral (.name select.table) (some next) = true) :
    readParts (Template.tokens dialect (selectHead select) ++ rest) = readParts rest := by
  have hInert : isInert (.word "SELECT" ::
      (Template.tokens dialect (columnTemplate select.columns) ++ [.word "FROM"])) = true :=
    isInert_columnTemplate dialect select.columns
  have hColumns := readParts_of_isInert _ hInert (.name select.table :: rest)
  rw [readParts_of_next hNext] at hColumns
  rw [← hColumns, tokens_selectHead]
  simp

/-- The parts of the text of a selection are those of the selection. -/
theorem readParts_renderSelect {dialect : Dialect} {config : Option String} {select : Select}
    {template : Template} (h : renderSelect dialect config select = .done template) :
    readParts (template.tokens dialect) = select.parts dialect config := by
  obtain ⟨conditions, keys, hConditions, hKeys, rfl⟩ := renderSelect_eq_done h
  have hLeads := (leads_whereTemplate dialect conditions).append
    ((leads_orderTemplate dialect keys).append ((leads_limitTemplate dialect select.limit).append
      (leads_offsetTemplate dialect select.offset)))
  have hNext : ∀ next ∈ (Template.tokens dialect (whereTemplate conditions ++ (orderTemplate keys ++
      (limitTemplate select.limit ++ offsetTemplate select.offset)))).head?,
      isNeutral (.name select.table) (some next) = true := by
    intro next hHead
    obtain ⟨keyword, hKeyword, rfl⟩ := hLeads next hHead
    simp only [List.cons_append, List.nil_append, List.mem_cons, List.not_mem_nil, or_false]
      at hKeyword
    rcases hKeyword with rfl | rfl | rfl | rfl <;> rfl
  rw [Template.tokens_append, readParts_selectHead dialect select hNext, Template.tokens_append,
    (holds_whereTemplate hConditions).read, Template.tokens_append,
    (holds_orderTemplate hKeys).read, readParts_page, List.append_nil]
  rfl

theorem values_selectHead (select : Select) : (selectHead select).values = [] := by
  have hColumns : (columnTemplate select.columns).values = [] := by
    rw [columnTemplate, Template.values_joined, List.flatMap_map, List.flatMap_eq_nil_iff]
    exact fun _ _ => rfl
  have hHead : selectHead select = [.fixed "SELECT "] ++ columnTemplate select.columns ++
      [.fixed " FROM ", .name select.table] := rfl
  rw [hHead, Template.values_append, Template.values_append, hColumns]
  rfl

theorem values_page (limit : Option Int) (offset : Int) :
    Template.values (limitTemplate limit ++ offsetTemplate offset) = [] := by
  rw [Template.values_append, offsetTemplate]
  cases limit <;> split <;> rfl

/-- The values that a selection binds are those of its parts. -/
theorem values_renderSelect {dialect : Dialect} {config : Option String} {select : Select}
    {template : Template} (h : renderSelect dialect config select = .done template) :
    template.values = (select.parts dialect config).flatMap Part.values := by
  obtain ⟨conditions, keys, hConditions, hKeys, rfl⟩ := renderSelect_eq_done h
  rw [Template.values_append, Template.values_append, Template.values_append, values_selectHead,
    (holds_whereTemplate hConditions).values, (holds_orderTemplate hKeys).values, values_page,
    List.append_nil, List.nil_append, ← List.flatMap_append]
  rfl

/-! ## Alignment -/

/-- A statement whose parameters are the values `held` and then those of `parts`, whose placeholders
are numbered behind `held` from left to right, and which has just these parts when each parameter is
put in the place of its placeholder. -/
structure Aligned (dialect : Dialect) (held : List Value) (parts : List Part)
    (fragment : Fragment) : Prop where
  params : fragment.params = held ++ parts.flatMap Part.values
  placeholders : operands (lex dialect.mark fragment.sql.toList) =
    List.range' (held.length + 1) (parts.flatMap Part.values).length
  resolved : ∃ tokens, resolve fragment.params (lex dialect.mark fragment.sql.toList) =
    some tokens ∧ readParts tokens = parts

theorem aligned_render (writer : Writer) {template : Template} {parts : List Part}
    (hSeparated : Template.Separated writer.dialect template)
    (hParts : readParts (template.tokens writer.dialect) = parts)
    (hValues : template.values = parts.flatMap Part.values) :
    Aligned writer.dialect writer.params parts (writer.render template) := by
  refine ⟨?_, ?_, template.tokens writer.dialect, Template.resolve_render hSeparated, hParts⟩
  · rw [← hValues]
    rfl
  · rw [Template.lex_render hSeparated, ← hValues]
    exact Template.operands_numbered writer.dialect template _ hSeparated.plain

/-- What a writer has written holds `parts`, and the writer is as before but for the values that
these have added. -/
structure Writer.Wrote (writer : Writer) (parts : List Part) (written : String × Writer) :
    Prop where
  unchanged : written.2 = { writer with params := writer.params ++ parts.flatMap Part.values }
  aligned : Aligned writer.dialect writer.params parts (written.2.finish written.1)

theorem Writer.wrote_of_holds (writer : Writer) {template : Template} {parts : List Part}
    (hSeparated : Template.Separated writer.dialect template)
    (hHolds : template.Holds writer.dialect parts) :
    writer.Wrote parts (writer.write template) := by
  have hParts : readParts (template.tokens writer.dialect) = parts := by
    have hNil : readParts [] = [] := by rw [readParts]
    have hRead := hHolds.read []
    rwa [hNil, List.append_nil, List.append_nil] at hRead
  refine ⟨?_, aligned_render writer hSeparated hParts hHolds.values⟩
  rw [← hHolds.values]
  rfl

/-- **Placeholders and parameters match.**  In every statement that a selection gives, and in
everything that is written for a condition or an order, placeholders are numbered in the order in
which they stand, behind the values that the writer held before, and every parameter is the value of
the part in which its placeholder stands.  Whatever has been written, a value behind it is written by
binding it: its placeholder is the next one, and it becomes the last parameter. -/
theorem rendered_aligned (writer : Writer) :
    (∀ select fragment, writer.renderSelect select = .ok fragment →
      Aligned writer.dialect writer.params
        (select.parts writer.dialect writer.textSearchConfig) fragment) ∧
    (∀ predicate template,
      renderPredicate writer.dialect writer.textSearchConfig predicate = .done template →
        writer.Wrote (predicate.parts writer.dialect writer.textSearchConfig)
          (writer.write template)) ∧
    (∀ sorting template, renderSorting writer.dialect sorting = .done template →
      writer.Wrote (sorting.parts writer.dialect) (writer.write template)) ∧
    ∀ template value, writer.write (template ++ [.value value]) =
      ((writer.write template).1 ++ ((writer.write template).2.bind value).1,
        ((writer.write template).2.bind value).2) := by
  refine ⟨?_, ?_, ?_, writer.write_concat⟩
  · intro select fragment h
    obtain ⟨template, hRendering, rfl⟩ := Writer.renderSelect_eq_ok h
    exact aligned_render writer (separated_renderSelect hRendering)
      (readParts_renderSelect hRendering) (values_renderSelect hRendering)
  · intro predicate template h
    exact writer.wrote_of_holds (separated_renderPredicate predicate h)
      (holds_renderPredicate predicate h)
  · intro sorting template h
    exact writer.wrote_of_holds (separated_renderSorting h) (holds_renderSorting h)

/-- A ranked search in two fields, for two ids and within a team, behind one value. -/
theorem rendered_aligned_ranked :
    let writer : Writer := ⟨.postgres, some "english", [.integer 7]⟩
    let predicate : Predicate :=
      .any [.single (.contains "name" "100%"), .single (.beginsWords "alias" ["bat", "man"])]
    let sorting : Sorting := .ranking [⟨"name", "100%"⟩, ⟨"alias", "bat man"⟩] "id"
    let select : Select := {
      table := "heroes", columns := ["id", "name", "alias"],
      filters := [.idIn "id" [.integer 1, .integer 2], .search predicate,
        .columnEquals "retired" .null, .columnEquals "team" (.text "blue")],
      sorting, limit := some 10, offset := 20 }
    (∃ fragment, writer.renderSelect select = .ok fragment ∧
      Aligned .postgres [.integer 7] (select.parts .postgres (some "english")) fragment) ∧
    (∃ template, renderPredicate .postgres (some "english") predicate = .done template ∧
      writer.Wrote (predicate.parts .postgres (some "english")) (writer.write template)) ∧
    ∃ template, renderSorting .postgres sorting = .done template ∧
      writer.Wrote (sorting.parts .postgres) (writer.write template) := by
  intro writer predicate sorting select
  obtain ⟨hSelect, hPredicate, hSorting, -⟩ := rendered_aligned writer
  exact ⟨⟨_, rfl, hSelect select _ rfl⟩, ⟨_, rfl, hPredicate predicate _ rfl⟩,
    ⟨_, rfl, hSorting sorting _ rfl⟩⟩

end Sql
end FieldSearch
