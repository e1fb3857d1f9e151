import FieldSearch.Proofs.Sql.Grammar
import Mathlib

/-!
# Lists in statements

Names, values, keys and columns stand in statements one behind the other, with commas between
them.  A list is read item by item if each item can be read in front of a comma, and
nothing is left of it in front of anything else.

## Main results

* `tokens_joined_cons`: the tokens of what is joined.
* `readList?_joined`: what is joined with commas is read item by item.
-/

namespace FieldSearch.Sql

variable {dialect : Dialect}

theorem tokens_close (dialect : Dialect) :
    Template.tokens dialect [.fixed ")"] = [.sign ')'] := by
  cases dialect <;> rfl

/-- The tokens of what is joined with a keyword or a comma. -/
theorem tokens_joined_cons {separator : String} {token : Token Value}
    (hSeparator : (Piece.fixed separator).tokens dialect = [token]) (first : Template)
    (rest : List Template) :
    Template.tokens dialect (Template.joined separator (first :: rest)) =
      first.tokens dialect ++ rest.flatMap fun template => token :: template.tokens dialect := by
  induction rest generalizing first with
  | nil => simp [Template.joined]
  | cons second others ih =>
      have hJoined : Template.joined separator (first :: second :: others) =
          first ++ .fixed separator :: Template.joined separator (second :: others) := rfl
      rw [hJoined, Template.tokens_append, Template.tokens_cons, hSeparator, ih second,
        List.flatMap_cons]
      rfl

section

variable {γ : Type} {item : Tokens → Option (γ × Tokens)}

theorem readList?_last {tokens rest : Tokens} {entry : γ}
    (hItem : item tokens = some (entry, rest)) (hEnd : ∀ next ∈ rest.head?, next ≠ .sign ',') :
    readList? item tokens = some ([entry], rest) := by
  rw [readList?.eq_def, hItem]
  cases rest with
  | nil => rfl
  | cons next more =>
      have hNe := hEnd next rfl
      simp [hNe]

theorem readList?_cons {tokens rest : Tokens} {entry : γ}
    (hItem : item tokens = some (entry, .sign ',' :: rest))
    (hLength : rest.length < tokens.length) :
    readList? item tokens = (readList? item rest).map fun (others, last) =>
      (entry :: others, last) := by
  rw [readList?.eq_def, hItem]
  simp only [hLength, if_true]

/-- What is joined with commas is read item by item, if each item can stand before a comma. -/
theorem readList?_joined {β : Type} {value : β → γ} {may : Tokens → Prop} {items : List β}
    {templates : List Template}
    (hEach : List.Forall₂ (fun entry template => ∀ rest, may rest →
      item (Template.tokens dialect template ++ rest) = some (value entry, rest)) items templates)
    (hNonempty : items ≠ []) (hComma : ∀ rest, may (.sign ',' :: rest)) {rest : Tokens}
    (hMay : may rest) (hEnd : ∀ next ∈ rest.head?, next ≠ .sign ',') :
    readList? item (Template.tokens dialect (Template.joined ", " templates) ++ rest) =
      some (items.map value, rest) := by
  have hSeparator : (Piece.fixed ", ").tokens dialect = [.sign ','] := by
    cases dialect <;> rfl
  induction hEach with
  | nil => exact absurd rfl hNonempty
  | @cons _ first _ _ hFirst hOthers ih =>
      cases hOthers with
      | nil => exact readList?_last (hFirst rest hMay) hEnd
      | @cons _ second _ more hSecond hMore =>
          have hRest := ih (by simp)
          rw [tokens_joined_cons hSeparator] at hRest ⊢
          rw [List.flatMap_cons, List.append_assoc, List.cons_append, List.cons_append,
            readList?_cons (hFirst _ (hComma _)) (by simp; omega), hRest]
          rfl

end

/-! ## Names and values -/

theorem readName?_joined (dialect : Dialect) {names : List String} (hNonempty : names ≠ [])
    (rest : Tokens) (hEnd : ∀ next ∈ rest.head?, next ≠ .sign ',') :
    readList? readName? (Template.tokens dialect
      (Template.joined ", " (names.map fun name => [.name name])) ++ rest) = some (names, rest) := by
  have hName : List.Forall₂ (fun name template => ∀ rest, True →
      readName? (Template.tokens dialect template ++ rest) = some (id name, rest))
      names (names.map fun name => [.name name]) := by
    rw [List.forall₂_map_right_iff, List.forall₂_same]
    exact fun name _ rest _ => rfl
  have hList := @readList?_joined dialect _ readName? _ id (fun _ => True) names _ hName
    hNonempty (fun _ => trivial) rest trivial hEnd
  rw [List.map_id] at hList
  exact hList

theorem readValues?_joined (dialect : Dialect) {values : List Value} (hNonempty : values ≠ [])
    (rest : Tokens) :
    readValues? (Template.tokens dialect
      (Template.joined ", " (values.map fun value => [.value value])) ++ .sign ')' :: rest) =
        some (values, rest) := by
  induction values with
  | nil => exact absurd rfl hNonempty
  | cons first others ih =>
      cases others with
      | nil => rfl
      | cons second others =>
          have hOthers := ih (by simp)
          have hTokens : Template.tokens dialect (Template.joined ", "
              ((first :: second :: others).map fun value => [.value value])) =
              .operand first :: .sign ',' :: Template.tokens dialect (Template.joined ", "
                ((second :: others).map fun value => [.value value])) := by
            cases dialect <;> rfl
          rw [hTokens, List.cons_append, List.cons_append, readValues?, hOthers]
          rfl

end FieldSearch.Sql
