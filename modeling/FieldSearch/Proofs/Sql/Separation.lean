import FieldSearch.Proofs.Sql.Pieces
import FieldSearch.Proofs.Sql.Rendering
import Mathlib

/-!
# All that is rendered is separated

No rendering lets one piece run into the next: fixed texts that stand between
two others begin and end with a blank, a comma or a parenthesis.  For fixed
templates `separates` checks that by evaluation, whatever names and values
they hold; what is put together from templates is covered by the lemmas on
`++` and on separators.

## Main results

* `separated_renderPredicate`, `separated_renderSorting`,
  `separated_renderSelect`: what is rendered is separated.
* `tokens_selectHead`, `tokens_limitTemplate`, `tokens_offsetTemplate`: the
  tokens of those parts of a selection that hold no conditions.
-/

namespace FieldSearch.Sql

/-! ## Separation of compound templates -/

namespace Template

/-- Whether a template is separated, found by looking at each junction. -/
def separates (dialect : Dialect) : Template → Bool
  | [] => true
  | [piece] => piece.isPlain dialect
  | piece :: next :: rest =>
      piece.isPlain dialect && (piece.closes dialect || next.opens) &&
        separates dialect (next :: rest)

theorem Separated.of_separates {dialect : Dialect} {template : Template}
    (h : separates dialect template = true) : Separated dialect template := by
  induction template with
  | nil => exact ⟨fun _ h => absurd h List.not_mem_nil, List.isChain_nil⟩
  | cons piece rest ih =>
      cases rest with
      | nil => exact ⟨by simpa [separates] using h, List.isChain_singleton piece⟩
      | cons next others =>
          simp only [separates, Bool.and_eq_true, Bool.or_eq_true] at h
          obtain ⟨⟨hPlain, hFits⟩, hRest⟩ := h
          have hTail := ih hRest
          refine ⟨?_, List.isChain_cons_cons.mpr ⟨hFits, hTail.chain⟩⟩
          intro other hOther
          rcases List.mem_cons.mp hOther with rfl | hMem
          · exact hPlain
          · exact hTail.plain other hMem

theorem Separated.nil (dialect : Dialect) : Separated dialect [] := .of_separates rfl

theorem Separated.append {dialect : Dialect} {left right : Template}
    (hLeft : Separated dialect left) (hRight : Separated dialect right)
    (hJunction : ∀ piece ∈ left.getLast?, ∀ next ∈ right.head?, piece.Fits dialect next) :
    Separated dialect (left ++ right) := by
  refine ⟨?_, hLeft.chain.append hRight.chain hJunction⟩
  intro piece hPiece
  rcases List.mem_append.mp hPiece with h | h
  · exact hLeft.plain piece h
  · exact hRight.plain piece h

/-- Whether a template begins with a character that continues no token, or is empty. -/
def opens (template : Template) : Bool := template.head?.all Piece.opens

/-- Whether a template ends in a token that nothing continues, or is empty. -/
def closes (dialect : Dialect) (template : Template) : Bool :=
  template.getLast?.all (Piece.closes dialect)

theorem Separated.append_of_opens {dialect : Dialect} {left right : Template}
    (hLeft : Separated dialect left) (hRight : Separated dialect right)
    (hOpens : right.opens = true) : Separated dialect (left ++ right) := by
  refine hLeft.append hRight fun piece _ next hNext => Or.inr ?_
  rw [Option.mem_def] at hNext
  simpa [opens, hNext] using hOpens

theorem Separated.append_of_closes {dialect : Dialect} {left right : Template}
    (hLeft : Separated dialect left) (hRight : Separated dialect right)
    (hCloses : left.closes dialect = true) : Separated dialect (left ++ right) := by
  refine hLeft.append hRight fun piece hPiece next _ => Or.inl ?_
  rw [Option.mem_def] at hPiece
  simpa [closes, hPiece] using hCloses

/-- A fixed text that can stand between any two others. -/
def isSeparator (dialect : Dialect) (text : String) : Bool :=
  (Piece.fixed text).isPlain dialect && (Piece.fixed text).closes dialect &&
    (Piece.fixed text).opens

theorem Separated.joined {dialect : Dialect} {separator : String}
    (hSeparator : isSeparator dialect separator = true) {templates : List Template}
    (hEach : ∀ template ∈ templates, Separated dialect template) :
    Separated dialect (Template.joined separator templates) := by
  simp only [isSeparator, Bool.and_eq_true] at hSeparator
  obtain ⟨⟨hPlain, hCloses⟩, hOpens⟩ := hSeparator
  have hFixed : Separated dialect [.fixed separator] := .of_separates hPlain
  induction templates with
  | nil => exact .nil dialect
  | cons first rest ih =>
      cases rest with
      | nil => exact hEach first (by simp)
      | cons second others =>
          have hFirst := hEach first (by simp)
          have hRest := ih fun template h => hEach template (by simp [h])
          have hTail : Separated dialect ([.fixed separator] ++
              Template.joined separator (second :: others)) :=
            hFixed.append_of_closes hRest (by simpa [closes] using hCloses)
          exact hFirst.append_of_opens hTail (by simpa [opens] using hOpens)

/-- What is rendered for each item is separated with commas between. -/
theorem Separated.joined_map {β : Type} {dialect : Dialect} {render : β → Template}
    (hEach : ∀ item, Separated dialect (render item)) (items : List β) :
    Separated dialect (Template.joined ", " (items.map render)) := by
  refine .joined (by cases dialect <;> rfl) fun template hTemplate => ?_
  obtain ⟨item, -, rfl⟩ := List.mem_map.mp hTemplate
  exact hEach item

theorem Separated.closed {dialect : Dialect} {template : Template}
    (h : Separated dialect template) : Separated dialect (template ++ [.fixed ")"]) := by
  have hClose : Separated dialect [.fixed ")"] := by
    cases dialect <;> exact .of_separates rfl
  exact h.append_of_opens hClose rfl

end Template

/-- What is joined item by item is separated if what is rendered for each item is. -/
theorem Template.Separated.joined_of_forall₂ {β : Type} {dialect : Dialect} {separator : String}
    (hSeparator : Template.isSeparator dialect separator = true) {render : β → Rendering}
    {items : List β} {templates : List Template}
    (hParts : List.Forall₂ (fun item part => render item = .done part) items templates)
    (hEach : ∀ item ∈ items, ∀ part, render item = .done part → Template.Separated dialect part) :
    Template.Separated dialect (Template.joined separator templates) := by
  refine .joined hSeparator ?_
  induction hParts with
  | nil => intro part h; exact absurd h List.not_mem_nil
  | cons hFirst hRest ih =>
      intro part h
      rcases List.mem_cons.mp h with rfl | hMem
      · exact hEach _ (by simp) _ hFirst
      · exact ih (fun item hItem => hEach item (by simp [hItem])) part hMem

/-! ## Conditions -/

theorem separated_like (dialect : Dialect) (field : String) (value : Value) :
    Template.Separated dialect (like dialect [.name field] [.value value]) := by
  cases dialect <;> exact .of_separates rfl

theorem separated_renderClause {dialect : Dialect} {config : Option String} {clause : Clause}
    {template : Template} (h : renderClause dialect config clause = .done template) :
    Template.Separated dialect template := by
  cases clause with
  | contains field term =>
      injection h with h
      subst h
      exact separated_like dialect field _
  | beginsWords field words =>
      obtain ⟨rfl, rfl⟩ := requireFullText_eq_done h
      cases config <;> exact .of_separates rfl

theorem separated_renderPredicate {dialect : Dialect} {config : Option String}
    (predicate : Predicate) : ∀ {template : Template},
      renderPredicate dialect config predicate = .done template →
        Template.Separated dialect template := by
  induction predicate using Predicate.induct with
  | always =>
      intro template h
      injection h with h
      subst h
      cases dialect <;> exact .of_separates rfl
  | never =>
      intro template h
      injection h with h
      subst h
      cases dialect <;> exact .of_separates rfl
  | single clause =>
      intro template h
      exact separated_renderClause h
  | any alternatives ih =>
      intro template h
      obtain ⟨templates, hParts, rfl⟩ := renderPredicate_any_eq_done h
      have hJoined : Template.Separated dialect (Template.joined " OR " templates) :=
        .joined_of_forall₂ (by cases dialect <;> rfl) hParts
          fun alternative hAlternative _ hDone => ih alternative hAlternative hDone
      have hOpen : Template.Separated dialect [.fixed "("] := by
        cases dialect <;> exact .of_separates rfl
      exact (hOpen.append_of_closes hJoined (by cases dialect <;> rfl)).closed

/-! ## Orders -/

theorem separated_folded {dialect : Dialect} {function : String}
    (hFunction : Template.separates dialect [.fixed (function ++ "(")] = true)
    (hCloses : Template.closes dialect [.fixed (function ++ "(")] = true) {parts : List Template}
    (hEach : ∀ part ∈ parts, Template.Separated dialect part) :
    Template.Separated dialect (folded function parts) := by
  have hOpen : Template.Separated dialect [.fixed (function ++ "(")] := .of_separates hFunction
  have hParts : Template.Separated dialect (Template.joined ", " parts) :=
    .joined (by cases dialect <;> rfl) hEach
  have hAll := (hOpen.append_of_closes hParts hCloses).closed
  match parts with
  | [] => exact hAll
  | [part] => exact hEach part (by simp)
  | _ :: _ :: _ => exact hAll

theorem separated_folded_map {dialect : Dialect} {function : String}
    (hFunction : Template.separates dialect [.fixed (function ++ "(")] = true)
    (hCloses : Template.closes dialect [.fixed (function ++ "(")] = true)
    {render : FieldTerm → Template} (hEach : ∀ pair, Template.Separated dialect (render pair))
    (pairs : List FieldTerm) : Template.Separated dialect (folded function (pairs.map render)) := by
  refine separated_folded hFunction hCloses fun part hPart => ?_
  obtain ⟨pair, -, rfl⟩ := List.mem_map.mp hPart
  exact hEach pair

theorem separated_exactPrefixFlag (dialect : Dialect) (pair : FieldTerm) :
    Template.Separated dialect (exactPrefixFlag dialect pair) := by
  cases dialect <;> exact .of_separates rfl

theorem separated_matchPosition (dialect : Dialect) (pair : FieldTerm) :
    Template.Separated dialect (matchPosition pair) := by
  cases dialect <;> exact .of_separates rfl

theorem separated_renderExpr {dialect : Dialect} {expr : RankExpr} {template : Template}
    (h : renderExpr dialect expr = .done template) : Template.Separated dialect template := by
  cases expr with
  | column name =>
      injection h with h
      subst h
      cases dialect <;> exact .of_separates rfl
  | exactPrefix pairs =>
      obtain ⟨rfl, rfl⟩ := requireFullText_eq_done h
      exact separated_folded_map rfl rfl (separated_exactPrefixFlag .postgres) pairs
  | matchPosition pairs =>
      obtain ⟨rfl, rfl⟩ := requireFullText_eq_done h
      exact separated_folded_map rfl rfl (separated_matchPosition .postgres) pairs

theorem separated_renderKey {dialect : Dialect} {key : SortKey} {template : Template}
    (h : renderKey dialect key = .done template) : Template.Separated dialect template := by
  obtain ⟨expr, hExpr, rfl⟩ := renderKey_eq_done h
  obtain ⟨_, direction, nullsLast⟩ := key
  have hEnding : Template.Separated dialect [.fixed (keyEnding direction nullsLast)] := by
    cases dialect <;> cases direction <;> cases nullsLast <;> exact .of_separates rfl
  have hOpens : Template.opens [.fixed (keyEnding direction nullsLast)] = true := by
    cases direction <;> cases nullsLast <;> rfl
  exact (separated_renderExpr hExpr).append_of_opens hEnding hOpens

theorem separated_renderSorting {dialect : Dialect} {sorting : Sorting} {template : Template}
    (h : renderSorting dialect sorting = .done template) :
    Template.Separated dialect template := by
  obtain ⟨templates, hParts, rfl⟩ := renderSorting_eq_done h
  exact .joined_of_forall₂ (by cases dialect <;> rfl) hParts
    fun _ _ _ hDone => separated_renderKey hDone

/-! ## Selections -/

/-- The columns of a selection, with commas between them. -/
def columnTemplate (columns : List String) : Template :=
  Template.joined ", " (columns.map fun column => [.name column])

theorem separated_selectHead (dialect : Dialect) (select : Select) :
    Template.Separated dialect (selectHead select) := by
  have hSelect : Template.Separated dialect [.fixed "SELECT "] := by
    cases dialect <;> exact .of_separates rfl
  have hFrom : Template.Separated dialect [.fixed " FROM ", .name select.table] := by
    cases dialect <;> exact .of_separates rfl
  have hColumns : Template.Separated dialect
      (Template.joined ", " (select.columns.map fun column => [.name column])) :=
    .joined_map (fun column => by cases dialect <;> exact .of_separates rfl) select.columns
  exact (hSelect.append_of_closes hColumns (by cases dialect <;> rfl)).append_of_opens hFrom rfl

theorem tokens_selectHead (dialect : Dialect) (select : Select) :
    Template.tokens dialect (selectHead select) =
      .word "SELECT" :: (Template.tokens dialect (columnTemplate select.columns) ++
        [.word "FROM", .name select.table]) := by
  have hSelect : Template.tokens dialect [.fixed "SELECT "] = [.word "SELECT"] := by
    cases dialect <;> rfl
  have hFrom : Template.tokens dialect [.fixed " FROM ", .name select.table] =
      [.word "FROM", .name select.table] := by
    cases dialect <;> rfl
  rw [selectHead, Template.tokens_append, Template.tokens_append, hSelect, hFrom]
  rfl

theorem tokens_columnTemplate_cons_cons (dialect : Dialect) (first second : String)
    (rest : List String) :
    Template.tokens dialect (columnTemplate (first :: second :: rest)) =
      .name first :: .sign ',' :: Template.tokens dialect (columnTemplate (second :: rest)) := by
  cases dialect <;> rfl

theorem separated_idIn (dialect : Dialect) (column : String) (ids : List Value) :
    Template.Separated dialect ([.name column, .fixed " IN ("] ++
      Template.joined ", " (ids.map fun id => [.value id]) ++ [.fixed ")"]) := by
  have hOpen : Template.Separated dialect [.name column, .fixed " IN ("] := by
    cases dialect <;> exact .of_separates rfl
  have hIds : Template.Separated dialect
      (Template.joined ", " (ids.map fun id => [.value id])) :=
    .joined_map (fun id => by cases dialect <;> exact .of_separates rfl) ids
  exact (hOpen.append_of_closes hIds (by cases dialect <;> rfl)).closed

theorem separated_filterRendering {dialect : Dialect} {config : Option String} {filter : Filter}
    {template : Template} (h : filterRendering dialect config filter = .done template) :
    Template.Separated dialect template := by
  cases filter with
  | search predicate => exact separated_renderPredicate predicate h
  | idIn column ids =>
      cases ids with
      | nil =>
          obtain rfl := Rendering.done.inj h
          cases dialect <;> exact .of_separates rfl
      | cons first rest =>
          obtain rfl := Rendering.done.inj h
          exact separated_idIn dialect column (first :: rest)
  | columnEquals column value =>
      cases value <;> obtain rfl := Rendering.done.inj h <;>
        cases dialect <;> exact .of_separates rfl

/-- The conditions of a selection stand behind a blank. -/
theorem separated_whereTemplate {dialect : Dialect} {config : Option String}
    {filters : List Filter} {templates : List Template}
    (hParts : List.Forall₂ (fun filter part => filterRendering dialect config filter = .done part)
      filters templates) :
    Template.Separated dialect (whereTemplate templates) ∧
      (whereTemplate templates).opens = true := by
  have hWhere : Template.Separated dialect [.fixed " WHERE "] := by
    cases dialect <;> exact .of_separates rfl
  have hJoined : Template.Separated dialect (Template.joined " AND " templates) :=
    .joined_of_forall₂ (by cases dialect <;> rfl) hParts
      fun _ _ _ hDone => separated_filterRendering hDone
  cases templates with
  | nil => exact ⟨.nil dialect, rfl⟩
  | cons first rest =>
      exact ⟨hWhere.append_of_closes hJoined (by cases dialect <;> rfl), rfl⟩

/-- The order of a selection stands behind a blank. -/
theorem separated_orderTemplate {dialect : Dialect} {keys : List SortKey}
    {templates : List Template}
    (hParts : List.Forall₂ (fun key part => renderKey dialect key = .done part) keys templates) :
    Template.Separated dialect (orderTemplate templates) ∧
      (orderTemplate templates).opens = true := by
  have hOrderBy : Template.Separated dialect [.fixed " ORDER BY "] := by
    cases dialect <;> exact .of_separates rfl
  have hJoined : Template.Separated dialect (Template.joined ", " templates) :=
    .joined_of_forall₂ (by cases dialect <;> rfl) hParts fun _ _ _ hDone =>
      separated_renderKey hDone
  cases templates with
  | nil => exact ⟨.nil dialect, rfl⟩
  | cons first rest =>
      exact ⟨hOrderBy.append_of_closes hJoined (by cases dialect <;> rfl), rfl⟩

/-- The tokens of an integer. -/
def integerTokens {α : Type} (value : Int) : List (Token α) :=
  (if value < 0 then [.sign '-'] else []) ++ [.number value.natAbs]

/-- A keyword that stands between blanks, with an integer behind it. -/
theorem scan_keyword_integer (dialect : Dialect) {keyword : String} {tokens : List (Token Nat)}
    (hKeyword : scan dialect.mark .blank keyword.toList = (tokens, .blank)) (value : Int) :
    scan dialect.mark .blank (keyword ++ toString value).toList =
      (tokens ++ (if value < 0 then [.sign '-'] else []), .number value.natAbs) := by
  rw [String.toList_append, scan_append, hKeyword, scan_integer]

theorem isPlain_keyword_integer (dialect : Dialect) {keyword : String} {tokens : List (Token Nat)}
    (hKeyword : scan dialect.mark .blank keyword.toList = (tokens, .blank))
    (hNone : operands tokens = []) (hNonempty : keyword.toList ≠ []) (value : Int) :
    (Piece.fixed (keyword ++ toString value)).isPlain dialect = true := by
  have hSign : operands ((if value < 0 then [.sign '-'] else []) ++ [.number value.natAbs] :
      List (Token Nat)) = [] := by
    split <;> rfl
  simp only [Piece.isPlain, lex, scan_keyword_integer dialect hKeyword, Pending.flush,
    List.append_assoc, operands_append, hNone, hSign]
  simp [Pending.isOutside, hNonempty]

theorem opens_append {left : String} (hOpens : (Piece.fixed left).opens = true)
    (right : String) : (Piece.fixed (left ++ right)).opens = true := by
  cases hText : left.toList with
  | nil => simp [Piece.opens, hText] at hOpens
  | cons c rest => simpa [Piece.opens, hText] using hOpens

theorem scan_limit (dialect : Dialect) :
    scan dialect.mark .blank " LIMIT ".toList = ([.word "LIMIT"], .blank) := by
  cases dialect <;> rfl

theorem scan_offset (dialect : Dialect) :
    scan dialect.mark .blank " OFFSET ".toList = ([.word "OFFSET"], .blank) := by
  cases dialect <;> rfl

theorem separated_limitTemplate (dialect : Dialect) (limit : Option Int) :
    Template.Separated dialect (limitTemplate limit) ∧ (limitTemplate limit).opens = true := by
  cases limit with
  | none => exact ⟨.nil dialect, rfl⟩
  | some value =>
      have hPlain := isPlain_keyword_integer dialect (scan_limit dialect) rfl (by simp) value
      exact ⟨.of_separates hPlain, opens_append rfl (toString value)⟩

theorem separated_offsetTemplate (dialect : Dialect) (offset : Int) :
    Template.Separated dialect (offsetTemplate offset) ∧ (offsetTemplate offset).opens = true := by
  unfold offsetTemplate
  split
  · have hPlain := isPlain_keyword_integer dialect (scan_offset dialect) rfl (by simp) offset
    exact ⟨.of_separates hPlain, opens_append rfl (toString offset)⟩
  · exact ⟨.nil dialect, rfl⟩

/-- The tokens of a keyword with an integer behind it. -/
theorem tokens_keyword_integer (dialect : Dialect) {keyword word : String}
    (hKeyword : scan dialect.mark .blank keyword.toList = ([.word word], .blank)) (value : Int) :
    (Piece.fixed (keyword ++ toString value)).tokens dialect =
      .word word :: integerTokens value := by
  simp only [Piece.tokens, lex, scan_keyword_integer dialect hKeyword, integerTokens,
    Pending.flush]
  split <;> rfl

theorem tokens_limitTemplate (dialect : Dialect) (limit : Option Int) :
    Template.tokens dialect (limitTemplate limit) =
      match limit with
      | some value => .word "LIMIT" :: integerTokens value
      | none => [] := by
  cases limit with
  | none => rfl
  | some value =>
      rw [limitTemplate, Template.tokens_cons, Template.tokens_nil, List.append_nil]
      exact tokens_keyword_integer dialect (scan_limit dialect) value

theorem tokens_offsetTemplate (dialect : Dialect) (offset : Int) :
    Template.tokens dialect (offsetTemplate offset) =
      if 0 < offset then .word "OFFSET" :: integerTokens offset else [] := by
  unfold offsetTemplate
  split
  · rw [Template.tokens_cons, Template.tokens_nil, List.append_nil]
    exact tokens_keyword_integer dialect (scan_offset dialect) offset
  · rfl

/-- Whether the tokens of a template begin with one of some keywords, if there are any. -/
def Template.Leads (dialect : Dialect) (keywords : List String) (template : Template) : Prop :=
  ∀ next ∈ (template.tokens dialect).head?, ∃ keyword ∈ keywords, next = .word keyword

theorem Template.Leads.append {dialect : Dialect} {first second : List String}
    {left right : Template} (hLeft : Leads dialect first left)
    (hRight : Leads dialect second right) : Leads dialect (first ++ second) (left ++ right) := by
  intro next hNext
  rw [tokens_append] at hNext
  cases hTokens : left.tokens dialect with
  | nil =>
      rw [hTokens, List.nil_append] at hNext
      obtain ⟨keyword, hMem, rfl⟩ := hRight next hNext
      exact ⟨keyword, List.mem_append_right first hMem, rfl⟩
  | cons token rest =>
      rw [hTokens] at hNext
      obtain ⟨keyword, hMem, rfl⟩ := hLeft next (by rw [hTokens]; exact hNext)
      exact ⟨keyword, List.mem_append_left second hMem, rfl⟩

theorem leads_whereTemplate (dialect : Dialect) (templates : List Template) :
    Template.Leads dialect ["WHERE"] (whereTemplate templates) := by
  cases templates with
  | nil => intro next hNext; cases hNext
  | cons first rest =>
      intro next hNext
      have hHead : (Template.tokens dialect (whereTemplate (first :: rest))).head? =
          some (.word "WHERE") := by
        cases dialect <;> rfl
      rw [hHead] at hNext
      exact ⟨"WHERE", by simp, (Option.some.inj hNext).symm⟩

theorem leads_orderTemplate (dialect : Dialect) (templates : List Template) :
    Template.Leads dialect ["ORDER"] (orderTemplate templates) := by
  cases templates with
  | nil => intro next hNext; cases hNext
  | cons first rest =>
      intro next hNext
      have hHead : (Template.tokens dialect (orderTemplate (first :: rest))).head? =
          some (.word "ORDER") := by
        cases dialect <;> rfl
      rw [hHead] at hNext
      exact ⟨"ORDER", by simp, (Option.some.inj hNext).symm⟩

theorem leads_limitTemplate (dialect : Dialect) (limit : Option Int) :
    Template.Leads dialect ["LIMIT"] (limitTemplate limit) := by
  intro next hNext
  rw [tokens_limitTemplate] at hNext
  cases limit with
  | none => cases hNext
  | some value => exact ⟨"LIMIT", by simp, (Option.some.inj hNext).symm⟩

theorem leads_offsetTemplate (dialect : Dialect) (offset : Int) :
    Template.Leads dialect ["OFFSET"] (offsetTemplate offset) := by
  intro next hNext
  rw [tokens_offsetTemplate] at hNext
  split at hNext
  · exact ⟨"OFFSET", by simp, (Option.some.inj hNext).symm⟩
  · cases hNext

/-- **A selection is read piece by piece.** -/
theorem separated_renderSelect {dialect : Dialect} {config : Option String} {select : Select}
    {template : Template} (h : renderSelect dialect config select = .done template) :
    Template.Separated dialect template := by
  obtain ⟨conditions, keys, hConditions, hKeys, rfl⟩ := renderSelect_eq_done h
  obtain ⟨hWhere, hWhereOpens⟩ := separated_whereTemplate hConditions
  obtain ⟨hOrderBy, hOrderOpens⟩ := separated_orderTemplate hKeys
  obtain ⟨hLimit, hLimitOpens⟩ := separated_limitTemplate dialect select.limit
  obtain ⟨hOffset, hOffsetOpens⟩ := separated_offsetTemplate dialect select.offset
  have hHead := (separated_selectHead dialect select).append_of_opens hWhere hWhereOpens
  have hOrdered := hHead.append_of_opens hOrderBy hOrderOpens
  have hLimited := hOrdered.append_of_opens hLimit hLimitOpens
  have hAll := hLimited.append_of_opens hOffset hOffsetOpens
  simpa only [List.append_assoc] using hAll

end FieldSearch.Sql
