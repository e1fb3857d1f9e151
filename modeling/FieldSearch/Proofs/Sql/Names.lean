import FieldSearch.Database.Selection
import FieldSearch.Proofs.Pairs
import FieldSearch.Proofs.Sql.Separation
import Mathlib

/-!
# Names in statements

A quoted name runs from a double quote to the next one that is not doubled, and a doubled one
stands for one.  Read by that rule the front of a text gives a name and the rest of the text
just if the name, quoted, stands there, and no further quote behind it: a quote that
followed would be taken for the second of a pair.

Nothing that is rendered puts a quote behind a name, since a name is followed by a fixed
text that begins with a blank, a comma or a parenthesis, or by nothing.  So whatever its
names hold, quotes among them, a statement is read with all of them and no others.

## Main results

* `readQuoted?_eq_some_iff`: what the rule reads from the front of a text.
* `lex_of_readQuoted?`: statements are read by the rule.
* `names_renderPredicate`, `names_renderSelect`: the names in what is rendered.
* `quoted_names_read_back`: all of it.
-/

namespace FieldSearch

namespace Text

/-! ## Reading a quoted name -/

/-- Reads on behind the quote with which a name begins: the name, up to the first quote that is not
doubled, and what stands behind that quote. -/
def readToQuote? : List Char → Option (List Char × List Char)
  | [] => none
  | '"' :: '"' :: rest => (readToQuote? rest).map fun (name, after) => ('"' :: name, after)
  | '"' :: rest => some ([], rest)
  | c :: rest => (readToQuote? rest).map fun (name, after) => (c :: name, after)

/-- Reads a quoted name from the front of a text: the name, and what stands behind it. -/
def readQuoted? : List Char → Option (String × List Char)
  | '"' :: rest => (readToQuote? rest).map fun (name, after) => (String.ofList name, after)
  | _ => none

theorem readToQuote?_cons {c : Char} (hc : c ≠ '"') (text : List Char) :
    readToQuote? (c :: text) = (readToQuote? text).map fun (name, after) => (c :: name, after) := by
  rw [readToQuote?]
  · exact fun _ hEq _ => hc hEq
  · exact hc

theorem readToQuote?_quote {rest : List Char} (hRest : rest.head? ≠ some '"') :
    readToQuote? ('"' :: rest) = some ([], rest) := by
  rw [readToQuote?]
  rintro after rfl
  exact hRest rfl

/-- Doubled quotes are read as one each, and the first that is not doubled ends the name. -/
theorem readToQuote?_doubleQuotes (name : List Char) {rest : List Char}
    (hRest : rest.head? ≠ some '"') :
    readToQuote? (doubleQuotes name ++ '"' :: rest) = some (name, rest) := by
  induction name with
  | nil => exact readToQuote?_quote hRest
  | cons c name ih =>
      by_cases hc : c = '"'
      · rw [doubleQuotes, if_pos hc, List.cons_append, List.cons_append, readToQuote?, ih, hc]
        rfl
      · rw [doubleQuotes, if_neg hc, List.cons_append, readToQuote?_cons hc, ih]
        rfl

theorem eq_of_readToQuote? {text : List Char} : ∀ {name rest : List Char},
    readToQuote? text = some (name, rest) →
      text = doubleQuotes name ++ '"' :: rest ∧ rest.head? ≠ some '"' := by
  induction text using readToQuote?.induct with
  | case1 => intro name rest h; cases h
  | case2 text ih =>
      intro name rest h
      obtain ⟨⟨inner, after⟩, hInner, hEq⟩ := Option.map_eq_some_iff.mp h
      obtain ⟨rfl, rfl⟩ := Prod.mk.inj hEq
      obtain ⟨rfl, hRest⟩ := ih hInner
      exact ⟨rfl, hRest⟩
  | case3 text hSingle =>
      intro name rest h
      have hHead : text.head? ≠ some '"' := by
        cases text with
        | nil => exact nofun
        | cons d text => exact fun hEq => hSingle text (by rw [Option.some.inj hEq])
      rw [readToQuote?_quote hHead] at h
      obtain ⟨rfl, rfl⟩ := Prod.mk.inj (Option.some.inj h)
      exact ⟨rfl, hHead⟩
  | case4 c text hPair hQuote ih =>
      intro name rest h
      have hc : c ≠ '"' := hQuote
      rw [readToQuote?_cons hc] at h
      obtain ⟨⟨inner, after⟩, hInner, hEq⟩ := Option.map_eq_some_iff.mp h
      obtain ⟨rfl, rfl⟩ := Prod.mk.inj hEq
      obtain ⟨rfl, hRest⟩ := ih hInner
      rw [doubleQuotes, if_neg hc]
      exact ⟨rfl, hRest⟩

/-- **What the rule reads from the front of a text:** a name that stands there quoted, and no
further quote behind it. -/
theorem readQuoted?_eq_some_iff {text rest : List Char} {name : String} :
    readQuoted? text = some (name, rest) ↔
      text = (quoteIdentifier name).toList ++ rest ∧ rest.head? ≠ some '"' := by
  have hQuoted : (quoteIdentifier name).toList ++ rest =
      '"' :: (doubleQuotes name.toList ++ '"' :: rest) := by
    simp [quoteIdentifier]
  rw [hQuoted]
  constructor
  · intro h
    rw [readQuoted?.eq_def] at h
    split at h
    next text =>
      obtain ⟨⟨inner, after⟩, hInner, hEq⟩ := Option.map_eq_some_iff.mp h
      obtain ⟨rfl, rfl⟩ := Prod.mk.inj hEq
      obtain ⟨rfl, hRest⟩ := eq_of_readToQuote? hInner
      rw [String.toList_ofList]
      exact ⟨rfl, hRest⟩
    next => cases h
  · rintro ⟨rfl, hRest⟩
    rw [readQuoted?, readToQuote?_doubleQuotes _ hRest, Option.map_some]
    exact congrArg (fun name => some (name, rest)) String.ofList_toList

/-- Different names have different quoted forms. -/
theorem quoteIdentifier_injective : Function.Injective quoteIdentifier := by
  intro left right hEq
  have hRead : ∀ name, readQuoted? (quoteIdentifier name).toList = some (name, []) := fun name =>
    readQuoted?_eq_some_iff.mpr ⟨(List.append_nil _).symm, nofun⟩
  -- With nothing behind it a quoted name reads back, and what is read is one name only.
  have hLeft := hRead left
  rw [hEq, hRead right] at hLeft
  exact (Prod.mk.inj (Option.some.inj hLeft)).1.symm

end Text

namespace Sql

open Database.Table (filterNames keyNames)

/-! ## Reading names in statements -/

/-- The rule by which a statement is read where a name begins. -/
theorem lex_of_readQuoted? (dialect : Dialect) {text rest : List Char} {name : String}
    (h : Text.readQuoted? text = some (name, rest)) :
    lex dialect.mark text = .name name :: lex dialect.mark rest := by
  obtain ⟨rfl, hRest⟩ := Text.readQuoted?_eq_some_iff.mp h
  have hHead : ∀ c ∈ rest.head?, (scan dialect.mark .blank
      (Text.quoteIdentifier name).toList).2.extend c = none := by
    intro c hc
    have hQuote : c ≠ '"' := by
      rintro rfl
      exact hRest hc
    rw [scan_quoteIdentifier _ dialect.mark_ne_quote]
    exact if_neg hQuote
  rw [lex_append _ _ _ hHead, lex_quoteIdentifier _ dialect.mark_ne_quote]
  rfl

/-- The name that a token holds, if it holds one. -/
def Token.name? {α : Type} : Token α → Option String
  | .name text => some text
  | _ => none

/-- The names among tokens, in order. -/
def names {α : Type} (tokens : List (Token α)) : List String := tokens.filterMap Token.name?

@[simp]
theorem names_append {α : Type} (left right : List (Token α)) :
    names (left ++ right) = names left ++ names right :=
  List.filterMap_append

/-- Parameters are no names. -/
theorem names_resolve (params : List Value) (tokens : List (Token Nat)) :
    names (tokens.filterMap (Token.resolve params)) = names tokens := by
  rw [names, List.filterMap_filterMap]
  refine List.filterMap_congr fun token _ => ?_
  cases token with
  | operand index =>
      cases index with
      | zero => rfl
      | succ index => cases h : params[index]? <;> simp [Token.resolve, Token.name?, h]
  | _ => rfl

namespace Template

/-- How many values were bound before does not matter to names. -/
theorem names_numbered (dialect : Dialect) (template : Template) : ∀ count,
    names (numbered dialect count template) = names (tokens dialect template) := by
  induction template with
  | nil => exact fun _ => rfl
  | cons piece rest ih =>
      intro count
      have hPiece : names (piece.numbered dialect count) = names (piece.tokens dialect) := by
        cases piece with
        | fixed text => exact (names_resolve [] _).symm
        | name identifier => rfl
        | value bound => rfl
      rw [numbered, names_append, ih, tokens_cons, names_append, hPiece]

/-- The names in what is joined item by item. -/
theorem names_joined {β : Type} {dialect : Dialect} {separator : String}
    (hSeparator : names (tokens dialect [.fixed separator]) = []) {expected : β → List String}
    {items : List β} {templates : List Template}
    (hEach : List.Forall₂ (fun item template => names (tokens dialect template) = expected item)
      items templates) :
    names (tokens dialect (joined separator templates)) = items.flatMap expected := by
  have hFixed : ∀ rest, names (tokens dialect ([.fixed separator] ++ rest)) =
      names (tokens dialect rest) := by
    intro rest
    rw [tokens_append, names_append, hSeparator, List.nil_append]
  induction hEach with
  | nil => rfl
  | cons hFirst hRest ih =>
      rw [List.flatMap_cons, ← hFirst, ← ih]
      -- A separator stands only before a further template.
      cases hRest with
      | nil => exact (List.append_nil _).symm
      | @cons _ second _ others hSecond hOthers =>
          show names (tokens dialect (_ ++ ([.fixed separator] ++
            joined separator (second :: others)))) = _
          rw [tokens_append, names_append, hFixed]

/-- The names in what is listed item by item, with commas between the items. -/
theorem names_listed (dialect : Dialect) {β : Type} {expected : β → List String}
    {render : β → Template} (hEach : ∀ item, names (tokens dialect (render item)) = expected item)
    (items : List β) :
    names (tokens dialect (joined ", " (items.map render))) = items.flatMap expected := by
  refine names_joined (by cases dialect <;> rfl) ?_
  rw [List.forall₂_map_right_iff, List.forall₂_same]
  exact fun item _ => hEach item

end Template

/-! ## The names of conditions and orders -/

theorem names_renderClause {dialect : Dialect} {config : Option String} {clause : Clause}
    {template : Template} (h : renderClause dialect config clause = .done template) :
    names (template.tokens dialect) = [clause.field] := by
  cases clause with
  | contains field term =>
      obtain rfl := Rendering.done.inj h
      cases dialect <;> rfl
  | beginsWords field words =>
      obtain ⟨rfl, rfl⟩ := requireFullText_eq_done h
      cases config <;> rfl

/-- **The names in a condition** are the fields of its clauses. -/
theorem names_renderPredicate {dialect : Dialect} {config : Option String}
    (predicate : Predicate) : ∀ {template : Template},
      renderPredicate dialect config predicate = .done template →
        names (template.tokens dialect) = predicate.clauses.map Clause.field := by
  induction predicate using Predicate.induct with
  | always =>
      intro template h
      obtain rfl := Rendering.done.inj h
      cases dialect <;> rfl
  | never =>
      intro template h
      obtain rfl := Rendering.done.inj h
      cases dialect <;> rfl
  | single clause => exact fun h => names_renderClause h
  | any alternatives ih =>
      intro template h
      obtain ⟨templates, hParts, rfl⟩ := renderPredicate_any_eq_done h
      have hOr : names (Template.tokens dialect [.fixed " OR "]) = [] := by cases dialect <;> rfl
      have hOpen : names (Template.tokens dialect [.fixed "("]) = [] := by cases dialect <;> rfl
      have hClose : names (Template.tokens dialect [.fixed ")"]) = [] := by cases dialect <;> rfl
      have hJoined := Template.names_joined hOr
        (forall₂_imp_of_mem hParts fun alternative hMem _ _ hDone => ih alternative hMem hDone)
      rw [Template.tokens_append, Template.tokens_append, names_append, names_append, hJoined,
        hOpen, hClose, List.nil_append, List.append_nil, Predicate.clauses_any, List.map_flatMap]

/-- The names under a function are those of its arguments. -/
theorem names_folded {dialect : Dialect} {function : String}
    (hFunction : names (Template.tokens dialect [.fixed (function ++ "(")]) = [])
    {render : FieldTerm → Template}
    (hEach : ∀ pair, names ((render pair).tokens dialect) = [pair.field])
    (pairs : List FieldTerm) :
    names (Template.tokens dialect (folded function (pairs.map render))) =
      pairs.map FieldTerm.field := by
  have hClose : names (Template.tokens dialect [.fixed ")"]) = [] := by cases dialect <;> rfl
  have hAll : names (Template.tokens dialect ([.fixed (function ++ "(")] ++
      Template.joined ", " (pairs.map render) ++ [.fixed ")"])) = pairs.map FieldTerm.field := by
    rw [Template.tokens_append, Template.tokens_append, names_append, names_append, hFunction,
      Template.names_listed dialect hEach, hClose, List.nil_append, List.append_nil,
      ← List.map_eq_flatMap]
  match pairs with
  | [] => exact hAll
  | [pair] => exact hEach pair
  | _ :: _ :: _ => exact hAll

theorem names_renderKey {dialect : Dialect} {key : SortKey} {template : Template}
    (h : renderKey dialect key = .done template) :
    names (template.tokens dialect) = keyNames key := by
  obtain ⟨expr, hExpr, rfl⟩ := renderKey_eq_done h
  obtain ⟨subject, direction, nullsLast⟩ := key
  have hEnding : names (Template.tokens dialect [.fixed (keyEnding direction nullsLast)]) = [] := by
    cases dialect <;> cases direction <;> cases nullsLast <;> rfl
  rw [Template.tokens_append, names_append, hEnding, List.append_nil]
  cases subject with
  | column name =>
      obtain rfl := Rendering.done.inj hExpr
      rfl
  | exactPrefix pairs =>
      obtain ⟨rfl, rfl⟩ := requireFullText_eq_done hExpr
      exact names_folded rfl (fun _ => rfl) pairs
  | matchPosition pairs =>
      obtain ⟨rfl, rfl⟩ := requireFullText_eq_done hExpr
      exact names_folded rfl (fun _ => rfl) pairs

/-! ## The names of selections -/

theorem names_selectHead (dialect : Dialect) (select : Select) :
    names (Template.tokens dialect (selectHead select)) = select.columns ++ [select.table] := by
  have hColumns : names (Template.tokens dialect (columnTemplate select.columns)) =
      select.columns.flatMap fun column => [column] :=
    Template.names_listed dialect (fun _ => rfl) select.columns
  have hFrom : names ([.word "FROM", .name select.table] : List (Token Value)) = [select.table] :=
    rfl
  rw [List.flatMap_singleton'] at hColumns
  rw [tokens_selectHead, ← List.singleton_append, names_append, names_append, hColumns, hFrom]
  rfl

theorem names_idIn (dialect : Dialect) (column : String) (ids : List Value) :
    names (Template.tokens dialect ([.name column, .fixed " IN ("] ++
      Template.joined ", " (ids.map fun id => [.value id]) ++ [.fixed ")"])) = [column] := by
  have hOpen : names (Template.tokens dialect [.name column, .fixed " IN ("]) = [column] := by
    cases dialect <;> rfl
  have hClose : names (Template.tokens dialect [.fixed ")"]) = [] := by cases dialect <;> rfl
  have hIds : names (Template.tokens dialect
      (Template.joined ", " (ids.map fun id => [.value id]))) = ids.flatMap fun _ => [] :=
    Template.names_listed dialect (fun _ => rfl) ids
  have hNone : (ids.flatMap fun _ => ([] : List String)) = [] := by simp
  rw [Template.tokens_append, Template.tokens_append, names_append, names_append, hOpen, hIds,
    hNone, hClose]
  rfl

theorem names_filterRendering {dialect : Dialect} {config : Option String} {filter : Filter}
    {template : Template} (h : filterRendering dialect config filter = .done template) :
    names (template.tokens dialect) = filterNames filter := by
  cases filter with
  | search predicate => exact names_renderPredicate predicate h
  | idIn column ids =>
      cases ids with
      | nil =>
          obtain rfl := Rendering.done.inj h
          cases dialect <;> rfl
      | cons first rest =>
          obtain rfl := Rendering.done.inj h
          exact names_idIn dialect column (first :: rest)
  | columnEquals column value =>
      cases value <;> obtain rfl := Rendering.done.inj h <;> cases dialect <;> rfl

theorem names_whereTemplate {dialect : Dialect} {config : Option String} {filters : List Filter}
    {templates : List Template}
    (hParts : List.Forall₂ (fun filter part => filterRendering dialect config filter = .done part)
      (filters.filter Filter.narrows) templates) :
    names (Template.tokens dialect (whereTemplate templates)) = filters.flatMap filterNames := by
  have hAnd : names (Template.tokens dialect [.fixed " AND "]) = [] := by cases dialect <;> rfl
  have hWhere : names (Template.tokens dialect [.fixed " WHERE "]) = [] := by
    cases dialect <;> rfl
  have hJoined := Template.names_joined hAnd
    (hParts.imp fun _ _ hDone => names_filterRendering hDone)
  rw [Filter.flatMap_narrows filterNames rfl] at hJoined
  cases templates with
  | nil => exact hJoined
  | cons first rest =>
      rw [whereTemplate, Template.tokens_append, names_append, hWhere, hJoined, List.nil_append]
      exact nofun

theorem names_orderTemplate {dialect : Dialect} {keys : List SortKey} {templates : List Template}
    (hParts : List.Forall₂ (fun key part => renderKey dialect key = .done part) keys templates) :
    names (Template.tokens dialect (orderTemplate templates)) = keys.flatMap keyNames := by
  have hComma : names (Template.tokens dialect [.fixed ", "]) = [] := by cases dialect <;> rfl
  have hOrder : names (Template.tokens dialect [.fixed " ORDER BY "]) = [] := by
    cases dialect <;> rfl
  have hJoined := Template.names_joined hComma (hParts.imp fun _ _ hDone => names_renderKey hDone)
  cases templates with
  | nil => exact hJoined
  | cons first rest =>
      rw [orderTemplate, Template.tokens_append, names_append, hOrder, hJoined, List.nil_append]
      exact nofun

/-- No name stands in the page of a selection. -/
theorem names_page (dialect : Dialect) (limit : Option Int) (offset : Int) :
    names (Template.tokens dialect (limitTemplate limit ++ offsetTemplate offset)) = [] := by
  have hInteger : ∀ (word : String) (value : Int),
      names (.word word :: integerTokens value : List (Token Value)) = [] := by
    intro word value
    unfold integerTokens
    split <;> rfl
  have hLimit : names (Template.tokens dialect (limitTemplate limit)) = [] := by
    rw [tokens_limitTemplate]
    cases limit with
    | none => rfl
    | some value => exact hInteger "LIMIT" value
  have hOffset : names (Template.tokens dialect (offsetTemplate offset)) = [] := by
    rw [tokens_offsetTemplate]
    split
    · exact hInteger "OFFSET" offset
    · rfl
  rw [Template.tokens_append, names_append, hLimit, hOffset]
  rfl

/-- The names in the statement of a selection: its columns, its table, and the columns of its
filters and of its order. -/
def selectionNames (select : Select) : List String :=
  select.columns ++ [select.table] ++ select.filters.flatMap filterNames ++
    select.sorting.keys.flatMap keyNames

/-- **The names in a selection.** -/
theorem names_renderSelect {dialect : Dialect} {config : Option String} {select : Select}
    {template : Template} (h : renderSelect dialect config select = .done template) :
    names (template.tokens dialect) = selectionNames select := by
  obtain ⟨conditions, keys, hConditions, hKeys, rfl⟩ := renderSelect_eq_done h
  rw [Template.tokens_append, names_append, names_selectHead, Template.tokens_append, names_append,
    names_whereTemplate hConditions, Template.tokens_append, names_append,
    names_orderTemplate hKeys, names_page, List.append_nil, selectionNames, List.append_assoc,
    List.append_assoc, List.append_assoc]

/-! ## Statements -/

/-- A separated template is read with its names. -/
theorem names_lex_write (writer : Writer) {template : Template}
    (h : Template.Separated writer.dialect template) :
    names (lex writer.dialect.mark (writer.write template).1.toList) =
      names (template.tokens writer.dialect) := by
  exact (congrArg names (Template.lex_render h)).trans (Template.names_numbered _ _ _)

/-- **Quoted names are read back.**  The rule reads from the front of a text the name that stands
there quoted, just if no further quote stands behind it, and statements of both dialects are read
by the rule.  Different names have different quoted forms.  The names that are read in the
statement of a selection are its own, in order, and those that are read in a condition are the
fields of its clauses. -/
theorem quoted_names_read_back :
    (∀ (dialect : Dialect) (count : Nat) (name : String) (text rest : List Char),
      Text.readQuoted? text = some (name, rest) ↔
        text = ((Piece.name name).text dialect count).toList ++ rest ∧ rest.head? ≠ some '"') ∧
    (∀ (dialect : Dialect) (name : String) (text rest : List Char),
      Text.readQuoted? text = some (name, rest) →
        lex dialect.mark text = .name name :: lex dialect.mark rest) ∧
    (∀ (dialect : Dialect) (count : Nat),
      Function.Injective fun name => (Piece.name name).text dialect count) ∧
    ∀ writer : Writer,
      (∀ (select : Select) (fragment : Fragment), writer.renderSelect select = .ok fragment →
        names (lex writer.dialect.mark fragment.sql.toList) = selectionNames select) ∧
      ∀ (predicate : Predicate) (template : Template),
        renderPredicate writer.dialect writer.textSearchConfig predicate = .done template →
          names (lex writer.dialect.mark (writer.write template).1.toList) =
            predicate.clauses.map Clause.field := by
  refine ⟨fun dialect count name text rest => Text.readQuoted?_eq_some_iff,
    fun dialect name text rest => lex_of_readQuoted? dialect,
    fun dialect count => Text.quoteIdentifier_injective, fun writer => ⟨?_, ?_⟩⟩
  · intro select fragment h
    obtain ⟨template, hRendering, rfl⟩ := Writer.renderSelect_eq_ok h
    have hRead := names_lex_write writer (separated_renderSelect hRendering)
    rw [names_renderSelect hRendering] at hRead
    exact hRead
  · intro predicate template h
    rw [names_lex_write writer (separated_renderPredicate predicate h),
      names_renderPredicate predicate h]

/-- Names that hold quotes at their ends, in runs and around what would be a condition. -/
theorem quoted_names_read_back_of_quotes :
    let text := "\"a\"\"\"\"b\"\"\" = ?1".toList
    let predicate : Predicate :=
      .any [.single (.contains "name\"" "bat"), .single (.contains "'alias'" "man\"")]
    let select : Select := {
      table := "\"heroes", columns := ["\"", "id\"\"key"],
      filters := [.idIn "id\"" [.integer 1, .integer 2], .search predicate,
        .columnEquals "team\" = 1 OR \"1" (.text "blue")],
      sorting := .byColumn "id\" DESC --", limit := some 3 }
    (Text.readQuoted? text = some ("a\"\"b\"", " = ?1".toList) ∧
      lex '?' text = [.name "a\"\"b\"", .sign '=', .operand 1]) ∧
    (∃ fragment, Writer.renderSelect ⟨.sqlite, none, []⟩ select = .ok fragment ∧
      names (lex '?' fragment.sql.toList) =
        ["\"", "id\"\"key", "\"heroes", "id\"", "name\"", "'alias'", "team\" = 1 OR \"1",
          "id\" DESC --"]) ∧
    ∃ template, renderPredicate .postgres none predicate = .done template ∧
      names (lex '$' (Writer.write ⟨.postgres, none, []⟩ template).1.toList) =
        ["name\"", "'alias'"] := by
  intro text predicate select
  obtain ⟨hRule, hLex, -, hNames⟩ := quoted_names_read_back
  have hText : Text.readQuoted? text = some ("a\"\"b\"", " = ?1".toList) :=
    (hRule .sqlite 0 _ _ _).mpr ⟨rfl, by decide⟩
  have hToken := hLex .sqlite _ _ _ hText
  have hSelect := (hNames ⟨.sqlite, none, []⟩).1 select _ rfl
  have hPredicate := (hNames ⟨.postgres, none, []⟩).2 predicate _ rfl
  exact ⟨⟨hText, hToken⟩, ⟨_, rfl, hSelect⟩, _, rfl, hPredicate⟩

end Sql
end FieldSearch
