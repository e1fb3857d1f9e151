import FieldSearch.Proofs.Query.Preparation
import FieldSearch.Proofs.Schema.Declaration
import FieldSearch.Proofs.Sql.Conditions
import FieldSearch.Query.Modifier
import Mathlib

/-!
# What statements say

The statement of a selection, read by the grammar of selections, selects the
columns of the selection from its table, in the order of its keys, and its
condition is true for the rows that all filters accept.

A selection is reached from that of all records by adding filters, by putting
it in another order, by taking a page and by confining it to a scope.  None of
these touches the table or the columns, and only a page sets an offset, together
with a limit.

## Main results

* `read?_of_renderSelect`: what a rendered selection says.
* `statement_of_reachable`: what the statement of a selection says that was
  reached from all records of a type.
-/

namespace FieldSearch

open Sql (Dialect Score KeyExpr Template Token Tokens Writer Fragment Judgement)

/-! ## Keys as they are read -/

/-- Several scores under a function; a single one stands alone. -/
def Sql.KeyExpr.folded (make : List Score → KeyExpr) : List Score → KeyExpr
  | [only] => .score only
  | scores => make scores

/-- Whether a field begins with its term, as a score. -/
def FieldTerm.flag (dialect : Dialect) (pair : FieldTerm) : Score :=
  .flag (pair.comparison dialect)

/-- The position of a term in its field, as a score. -/
def FieldTerm.position (pair : FieldTerm) : Score := .position (.text pair.term) pair.field

/-- What a key compares, as it is read. -/
def RankExpr.toKeyExpr (dialect : Dialect) : RankExpr → KeyExpr
  | .column name => .column name
  | .exactPrefix pairs => .folded .greatest (pairs.map (FieldTerm.flag dialect))
  | .matchPosition pairs => .folded .least (pairs.map FieldTerm.position)

/-- A sort key as it is read. -/
def SortKey.toKey (dialect : Dialect) (key : SortKey) : Sql.Key where
  expr := key.expr.toKeyExpr dialect
  direction := key.direction
  nullsLast := key.nullsLast

/-- There is something to compare. -/
def RankExpr.Writable : RankExpr → Prop
  | .column _ => True
  | .exactPrefix pairs => pairs ≠ []
  | .matchPosition pairs => pairs ≠ []

namespace Sql

variable {dialect : Dialect}

/-! ## Keys -/

theorem readScore?_flag (dialect : Dialect) (pair : FieldTerm) (rest : Tokens) :
    readScore? (Template.tokens dialect (exactPrefixFlag dialect pair) ++ rest) =
      some (pair.flag dialect, rest) := by
  cases dialect <;> rfl

theorem readScore?_position (dialect : Dialect) (pair : FieldTerm) (rest : Tokens) :
    readScore? (Template.tokens dialect (matchPosition pair) ++ rest) =
      some (pair.position, rest) := by
  cases dialect <;> rfl

theorem readKeyExpr?_of_score {tokens rest : Tokens} {score : Score}
    (h : readScore? tokens = some (score, rest)) :
    readKeyExpr? tokens = some (.score score, rest) := by
  rw [readKeyExpr?.eq_def]
  split
  · simp [readScore?] at h
  · simp [readScore?] at h
  · simp [readScore?] at h
  · rw [h]
    rfl

/-- A function on several scores, or a single score that stands alone. -/
theorem readKeyExpr?_folded {function : String} {make : List Score → KeyExpr}
    (hFunction : ∀ rest, readKeyExpr? (Template.tokens dialect [.fixed (function ++ "(")] ++ rest) =
      readScores? make rest)
    {render : FieldTerm → Template} {score : FieldTerm → Score}
    (hEach : ∀ pair rest, readScore? (Template.tokens dialect (render pair) ++ rest) =
      some (score pair, rest))
    {pairs : List FieldTerm} (hNonempty : pairs ≠ []) (rest : Tokens) :
    readKeyExpr? (Template.tokens dialect (folded function (pairs.map render)) ++ rest) =
      some (.folded make (pairs.map score), rest) := by
  have hScores : readScores? make (Template.tokens dialect
      (Template.joined ", " (pairs.map render)) ++ .sign ')' :: rest) =
      some (make (pairs.map score), rest) := by
    have hScore : List.Forall₂ (fun pair template => ∀ rest, True →
        readScore? (Template.tokens dialect template ++ rest) = some (score pair, rest))
        pairs (pairs.map render) := by
      rw [List.forall₂_map_right_iff, List.forall₂_same]
      exact fun pair _ rest _ => hEach pair rest
    have hList := @readList?_joined dialect _ readScore? _ score (fun _ => True) pairs _ hScore
      hNonempty (fun _ => trivial) (.sign ')' :: rest) trivial (by simp)
    rw [readScores?, hList]
    rfl
  match pairs with
  | [] => exact absurd rfl hNonempty
  | [pair] => exact readKeyExpr?_of_score (hEach pair rest)
  | first :: second :: others =>
      have hFolded : folded function ((first :: second :: others).map render) =
          [.fixed (function ++ "(")] ++
            Template.joined ", " ((first :: second :: others).map render) ++ [.fixed ")"] := rfl
      rw [hFolded, Template.tokens_append, Template.tokens_append, tokens_close,
        List.append_assoc, List.append_assoc, hFunction]
      exact hScores

theorem readKeyExpr?_renderExpr {expr : RankExpr} {template : Template}
    (hWritable : expr.Writable) (h : renderExpr dialect expr = .done template) (rest : Tokens) :
    readKeyExpr? (template.tokens dialect ++ rest) = some (expr.toKeyExpr dialect, rest) := by
  cases expr with
  | column name =>
      obtain rfl := Rendering.done.inj h
      rfl
  | exactPrefix pairs =>
      obtain ⟨rfl, rfl⟩ := requireFullText_eq_done h
      exact readKeyExpr?_folded (fun _ => rfl) (readScore?_flag .postgres) hWritable rest
  | matchPosition pairs =>
      obtain ⟨rfl, rfl⟩ := requireFullText_eq_done h
      exact readKeyExpr?_folded (fun _ => rfl) (readScore?_position .postgres) hWritable rest

theorem readNullsLast_of_ends {rest : Tokens} (hEnds : Ends "NULLS" rest) :
    readNullsLast rest = (false, rest) := by
  rw [readNullsLast.eq_def]
  split
  · exact absurd rfl (hEnds _ rfl)
  · rfl

theorem read_keyEnding (direction : Direction) (nullsLast : Bool) {rest : Tokens}
    (hEnds : Ends "NULLS" rest) :
    ∃ middle,
      readDirection? (Template.tokens dialect [.fixed (keyEnding direction nullsLast)] ++ rest) =
        some (direction, middle) ∧
      readNullsLast middle = (nullsLast, rest) := by
  cases nullsLast with
  | true =>
      refine ⟨.word "NULLS" :: .word "LAST" :: rest, ?_, rfl⟩
      cases dialect <;> cases direction <;> rfl
  | false =>
      refine ⟨rest, ?_, readNullsLast_of_ends hEnds⟩
      cases dialect <;> cases direction <;> rfl

theorem readKey?_renderKey {key : SortKey} {template : Template} (hWritable : key.expr.Writable)
    (h : renderKey dialect key = .done template) {rest : Tokens} (hEnds : Ends "NULLS" rest) :
    readKey? (template.tokens dialect ++ rest) = some (key.toKey dialect, rest) := by
  obtain ⟨expr, hExpr, rfl⟩ := renderKey_eq_done h
  have hSubject := readKeyExpr?_renderExpr hWritable hExpr
  obtain ⟨middle, hDirection, hNulls⟩ :=
    @read_keyEnding dialect key.direction key.nullsLast rest hEnds
  rw [Template.tokens_append, List.append_assoc, readKey?, hSubject]
  simp only [Option.bind_eq_bind, Option.bind_some, hDirection, hNulls]
  rfl

/-! ## Statements -/

theorem readOrderBy?_of_ends {rest : Tokens} (hEnds : Ends "ORDER" rest) :
    readOrderBy? rest = some ([], rest) := by
  rw [readOrderBy?.eq_def]
  split
  · exact absurd rfl (hEnds _ rfl)
  · rfl

theorem readOrderBy?_orderTemplate {keys : List SortKey} {templates : List Template}
    (hWritable : ∀ key ∈ keys, key.expr.Writable)
    (hParts : List.Forall₂ (fun key part => renderKey dialect key = .done part) keys templates)
    {rest : Tokens} (hOrder : Ends "ORDER" rest) (hNulls : Ends "NULLS" rest)
    (hEnd : ∀ next ∈ rest.head?, next ≠ .sign ',') :
    readOrderBy? (Template.tokens dialect (orderTemplate templates) ++ rest) =
      some (keys.map (SortKey.toKey dialect), rest) := by
  cases keys with
  | nil =>
      cases hParts
      exact readOrderBy?_of_ends hOrder
  | cons first others =>
      have hEach : List.Forall₂ (fun key part => ∀ rest, Ends "NULLS" rest →
          readKey? (Template.tokens dialect part ++ rest) = some (key.toKey dialect, rest))
          (first :: others) templates := by
        exact forall₂_imp_of_mem hParts fun key hMem part _ hPart rest hEnds =>
          readKey?_renderKey (hWritable key hMem) hPart hEnds
      have hList := readList?_joined hEach (by simp) (by simp [Ends]) hNulls hEnd
      have hTemplate : Template.tokens dialect (orderTemplate templates) =
          .word "ORDER" :: .word "BY" ::
            Template.tokens dialect (Template.joined ", " templates) := by
        cases hParts
        cases dialect <;> rfl
      rw [hTemplate, List.cons_append, List.cons_append, readOrderBy?]
      exact hList

theorem readInteger?_integerTokens (value : Int) (rest : Tokens) :
    readInteger? (integerTokens value ++ rest) = some (value, rest) := by
  unfold integerTokens
  split
  · have hValue : -(value.natAbs : Int) = value := by omega
    rw [List.append_assoc, List.singleton_append, List.singleton_append, readInteger?, hValue]
  · have hValue : (value.natAbs : Int) = value := by omega
    rw [List.nil_append, List.singleton_append, readInteger?, hValue]

theorem readLimit?_limitTemplate (dialect : Dialect) (limit : Option Int) {rest : Tokens}
    (hEnds : Ends "LIMIT" rest) :
    readLimit? (Template.tokens dialect (limitTemplate limit) ++ rest) = some (limit, rest) := by
  rw [tokens_limitTemplate]
  cases limit with
  | none =>
      rw [List.nil_append, readLimit?.eq_def]
      split
      · exact absurd rfl (hEnds _ rfl)
      · rfl
  | some value =>
      rw [List.cons_append, readLimit?, readInteger?_integerTokens]
      rfl

theorem readOffset?_offsetTemplate (dialect : Dialect) (offset : Int) :
    readOffset? (Template.tokens dialect (offsetTemplate offset)) =
      some (if 0 < offset then some offset else none, []) := by
  rw [tokens_offsetTemplate]
  by_cases hOffset : 0 < offset
  · have hInteger := readInteger?_integerTokens offset []
    rw [List.append_nil] at hInteger
    rw [if_pos hOffset, if_pos hOffset, readOffset?, hInteger]
    rfl
  · rw [if_neg hOffset, if_neg hOffset]
    rfl

theorem ends_of_leads {keywords : List String} {template : Template}
    (hLeads : template.Leads dialect keywords) {keyword : String} (hNot : keyword ∉ keywords) :
    Ends keyword (template.tokens dialect) := by
  intro next hNext hEq
  obtain ⟨found, hFound, rfl⟩ := hLeads next hNext
  injection hEq with hEq
  exact hNot (hEq ▸ hFound)

theorem head?_ne_sign_of_leads {keywords : List String} {template : Template}
    (hLeads : template.Leads dialect keywords) (c : Char) :
    ∀ next ∈ (template.tokens dialect).head?, next ≠ .sign c := by
  intro next hNext hEq
  obtain ⟨found, _, rfl⟩ := hLeads next hNext
  cases hEq

end Sql

/-- The offset that the statement of a selection has: none if nothing is skipped. -/
def Select.shownOffset (select : Select) : Option Int :=
  if 0 < select.offset then some select.offset else none

/-- The selection can be written: no choice is empty and every rank has something to compare. -/
structure Select.Writable (select : Select) : Prop where
  filters : ∀ filter ∈ select.filters, filter.Writable
  keys : ∀ key ∈ select.sorting.keys, key.expr.Writable

namespace Sql

variable {dialect : Dialect} {config : Option String}

/-- Behind the columns and the table of a selection, its clauses are read. -/
theorem readStatement?_selectHead {select : Select} (hColumns : select.columns ≠ [])
    (clauses : Template) :
    readStatement? (Template.tokens dialect (selectHead select ++ clauses)) =
      readClauses? select.columns select.table (clauses.tokens dialect) := by
  have hNames := readName?_joined dialect hColumns
    (.word "FROM" :: .name select.table :: clauses.tokens dialect) (by simp)
  rw [Template.tokens_append, tokens_selectHead, List.cons_append, readStatement?,
    columnTemplate, List.append_assoc, List.cons_append, List.cons_append, List.nil_append, hNames]
  rfl

/-- What the tokens of a selection say. -/
theorem readStatement?_renderSelect {select : Select} {template : Template}
    (hColumns : select.columns ≠ []) (hWritable : select.Writable)
    (h : renderSelect dialect config select = .done template) :
    ∃ condition,
      readStatement? (template.tokens dialect) =
        some ⟨select.columns, select.table, condition,
          select.sorting.keys.map (SortKey.toKey dialect), select.limit, select.shownOffset⟩ ∧
      ∀ judgement, (∀ inner ∈ condition, inner.truth judgement = some true) ↔
        ∀ filter ∈ select.filters, filter.Accepts dialect config judgement := by
  obtain ⟨conditions, keys, hConditions, hKeys, rfl⟩ := renderSelect_eq_done h
  obtain ⟨condition, hWhere, hTruth⟩ := readWhere?_whereTemplate hWritable.filters hConditions
  refine ⟨condition, ?_, hTruth⟩
  -- What each clause finds behind it.
  have hOffset := leads_offsetTemplate dialect select.offset
  have hPage := (leads_limitTemplate dialect select.limit).append hOffset
  have hTail := (leads_orderTemplate dialect keys).append hPage
  have hCondition := hWhere _ (ends_of_leads hTail (by simp)) (ends_of_leads hTail (by simp))
    (ends_of_leads hTail (by simp))
  have hOrder := readOrderBy?_orderTemplate hWritable.keys hKeys (ends_of_leads hPage (by simp))
    (ends_of_leads hPage (by simp)) (head?_ne_sign_of_leads hPage ',')
  have hLimit := readLimit?_limitTemplate dialect select.limit (ends_of_leads hOffset (by simp))
  have hSkip := readOffset?_offsetTemplate dialect select.offset
  have hClauses : readClauses? select.columns select.table (Template.tokens dialect
      (whereTemplate conditions ++ (orderTemplate keys ++ (limitTemplate select.limit ++
        offsetTemplate select.offset)))) =
      some ⟨select.columns, select.table, condition,
        select.sorting.keys.map (SortKey.toKey dialect), select.limit, select.shownOffset⟩ := by
    rw [Template.tokens_append, readClauses?, hCondition]
    simp only [Option.bind_eq_bind, Option.bind_some, Template.tokens_append] at hOrder ⊢
    rw [hOrder]
    simp only [Option.bind_some, hLimit, hSkip]
    rfl
  exact (readStatement?_selectHead hColumns _).trans hClauses

/-- The text of a rendered selection is read as the tokens of its template. -/
theorem read?_render {writer : Writer} {select : Select} {template : Template}
    (h : renderSelect writer.dialect writer.textSearchConfig select = .done template) :
    (writer.render template).read? writer.dialect =
      readStatement? (template.tokens writer.dialect) := by
  rw [Fragment.read?, Template.resolve_render (separated_renderSelect h)]
  rfl

/-- **What a rendered selection says.** -/
theorem read?_of_renderSelect {writer : Writer} {select : Select} {fragment : Fragment}
    (hColumns : select.columns ≠ []) (hWritable : select.Writable)
    (h : writer.renderSelect select = .ok fragment) :
    ∃ condition,
      fragment.read? writer.dialect =
        some ⟨select.columns, select.table, condition,
          select.sorting.keys.map (SortKey.toKey writer.dialect), select.limit,
          select.shownOffset⟩ ∧
      ∀ judgement, (∀ inner ∈ condition, inner.truth judgement = some true) ↔
        ∀ filter ∈ select.filters,
          filter.Accepts writer.dialect writer.textSearchConfig judgement := by
  obtain ⟨template, hRendering, rfl⟩ := Writer.renderSelect_eq_ok h
  obtain ⟨condition, hRead, hTruth⟩ := readStatement?_renderSelect hColumns hWritable hRendering
  exact ⟨condition, (read?_render hRendering).trans hRead, hTruth⟩

end Sql

/-! ## Reachable selections -/

/-- The selections that are reached from that of all records of a type. -/
inductive Select.Reachable (schema : Schema) : Select → Prop where
  | all : Reachable schema (.ofSchema schema)
  | filter {select : Select} (filter : Filter) (reached : Reachable schema select) :
      Reachable schema (select.filter filter)
  | orderBy {select : Select} (sorting : Sorting) (reached : Reachable schema select) :
      Reachable schema (select.orderBy sorting)
  | page {select : Select} (limit offset : Int) (reached : Reachable schema select) :
      Reachable schema (select.page limit offset)
  | keep {select next : Select} (reached : Reachable schema select)
      (modified : Modifier.keep.modify schema select = .ok next) : Reachable schema next
  | scope {select next : Select} (confinement : Scope) (reached : Reachable schema select)
      (modified : (Modifier.scope confinement).modify schema select = .ok next) :
      Reachable schema next

/-- What holds of every reachable selection, whatever its filters and its order are. -/
structure Select.Within (schema : Schema) (select : Select) : Prop where
  table : select.table = schema.table
  columns : select.columns = schema.columnNames
  limited : 0 < select.offset → select.limit.isSome = true

theorem Select.Within.filter {schema : Schema} {select : Select} (h : select.Within schema)
    (filter : Filter) : (select.filter filter).Within schema :=
  ⟨h.table, h.columns, h.limited⟩

theorem Select.Reachable.within {schema : Schema} {select : Select}
    (h : select.Reachable schema) : select.Within schema := by
  induction h with
  | all => exact ⟨rfl, rfl, fun hPositive => absurd hPositive (lt_irrefl _)⟩
  | filter filter _ ih => exact ih.filter filter
  | orderBy sorting _ ih => exact ⟨ih.table, ih.columns, ih.limited⟩
  | page limit offset _ ih => exact ⟨ih.table, ih.columns, fun _ => rfl⟩
  | keep _ modified ih =>
      obtain rfl := Except.ok.inj modified
      exact ih
  | scope confinement _ modified ih =>
      rcases Scope.apply_eq_ok modified with ⟨-, rfl⟩ | ⟨_, value, -, -, rfl⟩
      · exact ih
      · exact ih.filter _

/-- **What statements say.**  The statement of a reachable selection selects the columns of its type
from the table of the type, its condition is true for the rows that every filter accepts, its keys
are those of the selection, and it skips rows only if it has a limit too. -/
theorem statement_of_reachable {declaration : Declaration} {schema : Schema} {select : Select}
    {writer : Writer} {fragment : Fragment}
    (hSchema : Schema.ofDeclaration declaration = .ok schema)
    (hReachable : select.Reachable schema) (hWritable : select.Writable)
    (hRendered : writer.renderSelect select = .ok fragment) :
    ∃ statement, fragment.read? writer.dialect = some statement ∧
      statement.columns = schema.columnNames ∧
      statement.table = schema.table ∧
      (∀ judgement, (∀ inner ∈ statement.condition, inner.truth judgement = some true) ↔
        ∀ filter ∈ select.filters,
          filter.Accepts writer.dialect writer.textSearchConfig judgement) ∧
      statement.keys = select.sorting.keys.map (SortKey.toKey writer.dialect) ∧
      statement.limit = select.limit ∧ statement.offset = select.shownOffset ∧
      (statement.offset.isSome = true → statement.limit.isSome = true) := by
  have hWithin := hReachable.within
  have hColumns : select.columns ≠ [] := by
    rw [hWithin.columns, Schema.columnNames, Ne, List.map_eq_nil_iff]
    exact (Schema.valid_of_ofDeclaration hSchema).columns_ne_nil
  obtain ⟨condition, hRead, hTruth⟩ := Sql.read?_of_renderSelect hColumns hWritable hRendered
  refine ⟨_, hRead, hWithin.columns, hWithin.table, hTruth, rfl, rfl, rfl, fun hOffset => ?_⟩
  refine hWithin.limited ?_
  by_contra hNot
  simp [Select.shownOffset, hNot] at hOffset

/-- The second page of a ranked search for heroes of one team. -/
theorem statement_of_team_search :
    let search : Predicate := .any [.single (.contains "name" "bat"),
      .any [.single (.beginsWords "alias" ["dark", "knight"]), .never]]
    let select : Select :=
      ((((Select.ofSchema .heroes).filter (.idIn "id" [.integer 1, .integer 2])).filter
        (.search search)).orderBy (.ranking [⟨"name", "bat"⟩] "id")).page 10 10
    let confined := select.filter (.columnEquals "team" (.text "blue"))
    let writer : Writer := { dialect := .postgres }
    ∃ fragment, writer.renderSelect confined = .ok fragment ∧
      ∃ statement, fragment.read? .postgres = some statement ∧
        statement.columns = Schema.heroes.columnNames ∧
        statement.table = Schema.heroes.table ∧
        (∀ judgement, (∀ inner ∈ statement.condition, inner.truth judgement = some true) ↔
          ∀ filter ∈ confined.filters, filter.Accepts .postgres none judgement) ∧
        statement.keys = confined.sorting.keys.map (SortKey.toKey .postgres) ∧
        statement.limit = confined.limit ∧ statement.offset = confined.shownOffset ∧
        (statement.offset.isSome = true → statement.limit.isSome = true) := by
  intro search select confined writer
  have hReachable : confined.Reachable .heroes :=
    .scope ⟨"team", .text "blue", false⟩ (.page _ _ (.orderBy _ (.filter _ (.filter _ .all)))) rfl
  have hSearch : search.Writable := by
    refine .any (by simp) (List.forall_mem_cons.mpr ⟨.single _, List.forall_mem_singleton.mpr ?_⟩)
    exact .any (by simp)
      (List.forall_mem_cons.mpr ⟨.single _, List.forall_mem_singleton.mpr .never⟩)
  have hWritable : confined.Writable := by
    refine ⟨?_, ?_⟩
    · simp [confined, select, Select.filter, Select.orderBy, Select.page, Select.ofSchema,
        Filter.Writable, hSearch]
    · simp [confined, select, Select.filter, Select.orderBy, Select.page, Sorting.ranking,
        RankExpr.Writable]
  exact ⟨_, rfl, @statement_of_reachable _ _ _ writer _ Schema.ofDeclaration_heroes hReachable
    hWritable rfl⟩

end FieldSearch
