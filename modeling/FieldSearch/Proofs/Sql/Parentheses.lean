import FieldSearch.Proofs.Pairs
import FieldSearch.Proofs.Sql.Separation
import Mathlib

/-!
# Parentheses in conditions

Parentheses are written around the alternatives of a choice and around the arguments of
functions.  The latter are never missing, so parentheses stand empty in the text of a
condition just if a choice in it has no alternatives, at whatever depth.

To be `Filled` is a matter of neighbours: a closing parenthesis must not stand right behind
an opening one.  Between two parts that are put behind each other nothing can go wrong as
long as the first does not end in an opening parenthesis, or the second does not begin with
a closing one.  No condition does either, which is what `Encloses` keeps along with
the answer.

## Main results

* `encloses_renderPredicate`: the parts of a condition, by induction on it.
* `filled_write_iff`: the text of a condition has no empty parentheses exactly if no choice
  in it is empty.
-/

namespace FieldSearch.Sql

/-! ## Neighbours -/

/-- No parenthesis is closed right behind the one that opens it. -/
def Filled {α : Type} (tokens : List (Token α)) : Prop :=
  tokens.IsChain fun left right => ¬ (left = .sign '(' ∧ right = .sign ')')

section

variable {α : Type} {left right : List (Token α)}

instance [DecidableEq α] (tokens : List (Token α)) : Decidable (Filled tokens) :=
  inferInstanceAs (Decidable (List.IsChain _ tokens))

theorem filled_append_iff_of_getLast? (h : .sign '(' ∉ left.getLast?) :
    Filled (left ++ right) ↔ Filled left ∧ Filled right := by
  have hJunction : ∀ last ∈ left.getLast?, ∀ next ∈ right.head?,
      ¬ (last = .sign '(' ∧ next = .sign ')') := by
    rintro last hLast next - ⟨rfl, -⟩
    exact h hLast
  rw [Filled, List.isChain_append]
  exact and_congr_right fun _ => and_iff_left hJunction

theorem filled_append_iff_of_head? (h : .sign ')' ∉ right.head?) :
    Filled (left ++ right) ↔ Filled left ∧ Filled right := by
  have hJunction : ∀ last ∈ left.getLast?, ∀ next ∈ right.head?,
      ¬ (last = .sign '(' ∧ next = .sign ')') := by
    rintro last - next hNext ⟨-, rfl⟩
    exact h hNext
  rw [Filled, List.isChain_append]
  exact and_congr_right fun _ => and_iff_left hJunction

end

namespace Template

theorem numbered_append (dialect : Dialect) (left right : Template) :
    ∀ count, numbered dialect count (left ++ right) =
      numbered dialect count left ++ numbered dialect (count + left.values.length) right := by
  induction left with
  | nil => exact fun _ => rfl
  | cons piece rest ih =>
      intro count
      have hValues : (values (piece :: rest)).length =
          piece.values.length + (values rest).length := by
        simp [values]
      rw [List.cons_append, numbered, numbered, ih, hValues, Nat.add_assoc, List.append_assoc]

/-- Wherever the template stands, its tokens can be put between any others, and they have no empty
parentheses exactly if `full` holds. -/
structure Encloses (dialect : Dialect) (template : Template) (full : Prop) : Prop where
  head : ∀ count, ∃ first ∈ (numbered dialect count template).head?, first ≠ .sign ')'
  last : ∀ count, ∃ final ∈ (numbered dialect count template).getLast?, final ≠ .sign '('
  filled_iff : ∀ count, Filled (numbered dialect count template) ↔ full

section

variable {dialect : Dialect} {template left right : Template} {first second : Prop}

theorem Encloses.not_mem_getLast? (h : Encloses dialect template first) (count : Nat) :
    .sign '(' ∉ (numbered dialect count template).getLast? := by
  obtain ⟨token, hToken, hOther⟩ := h.last count
  intro hSign
  exact hOther (Option.mem_unique hToken hSign)

theorem Encloses.append (hLeft : Encloses dialect left first)
    (hRight : Encloses dialect right second) :
    Encloses dialect (left ++ right) (first ∧ second) := by
  refine ⟨fun count => ?_, fun count => ?_, fun count => ?_⟩
  · obtain ⟨token, hToken, hOther⟩ := hLeft.head count
    refine ⟨token, ?_, hOther⟩
    rw [numbered_append, List.head?_append, Option.mem_def.mp hToken]
    rfl
  · obtain ⟨token, hToken, hOther⟩ := hRight.last (count + left.values.length)
    refine ⟨token, ?_, hOther⟩
    rw [numbered_append, List.getLast?_append, Option.mem_def.mp hToken]
    rfl
  · rw [numbered_append, filled_append_iff_of_getLast? (hLeft.not_mem_getLast? count),
      hLeft.filled_iff, hRight.filled_iff]

/-- What is joined has no empty parentheses exactly if none of its parts has. -/
theorem Encloses.joined {β : Type} {separator : String} {full : β → Prop}
    (hSeparator : Encloses dialect [.fixed separator] True) {items : List β}
    {templates : List Template}
    (hEach : List.Forall₂ (fun item template => Encloses dialect template (full item)) items
      templates) (hSome : items ≠ []) :
    Encloses dialect (Template.joined separator templates) (∀ item ∈ items, full item) := by
  induction hEach with
  | nil => exact absurd rfl hSome
  | @cons item template others templates hFirst hRest ih =>
      cases hRest with
      | nil =>
          rw [List.forall_mem_singleton]
          exact hFirst
      | cons hSecond hOthers =>
          have hTail := hSeparator.append (ih (List.cons_ne_nil _ _))
          rw [true_and] at hTail
          rw [List.forall_mem_cons]
          exact hFirst.append hTail

/-- Parentheses around a template are as full as it is, and around nothing they are empty. -/
theorem Encloses.parentheses
    (hInner : template = [] ∧ ¬ first ∨ Encloses dialect template first) :
    Encloses dialect ([.fixed "("] ++ template ++ [.fixed ")"]) first := by
  have hOpen (count : Nat) : numbered dialect count [.fixed "("] = [.sign '('] := by
    cases dialect <;> rfl
  have hClose (count : Nat) : numbered dialect count [.fixed ")"] = [.sign ')'] := by
    cases dialect <;> rfl
  have hTokens (count : Nat) : numbered dialect count ([.fixed "("] ++ template ++ [.fixed ")"]) =
      [.sign '('] ++ (numbered dialect count template ++ [.sign ')']) := by
    rw [numbered_append, numbered_append, hOpen, hClose, List.append_assoc]
    rfl
  refine ⟨fun count => ⟨.sign '(', ?_, by simp⟩, fun count => ⟨.sign ')', ?_, by simp⟩,
    fun count => ?_⟩
  · rw [hTokens]
    rfl
  · rw [hTokens, ← List.append_assoc, List.getLast?_append]
    rfl
  · rw [hTokens]
    rcases hInner with ⟨rfl, hNot⟩ | hInner
    · refine iff_of_false (fun hFilled => ?_) hNot
      exact (List.isChain_cons_cons.mp hFilled).1 ⟨rfl, rfl⟩
    · have hHead : Token.sign ')' ∉
          (numbered dialect count template ++ [Token.sign ')']).head? := by
        obtain ⟨token, hToken, hOther⟩ := hInner.head count
        rw [List.head?_append, Option.mem_def.mp hToken]
        exact fun hSign => hOther (Option.some.inj hSign)
      rw [filled_append_iff_of_head? hHead,
        filled_append_iff_of_getLast? (hInner.not_mem_getLast? count), hInner.filled_iff]
      simp [Filled]

end

end Template

/-! ## Conditions -/

variable {dialect : Dialect} {config : Option String}

theorem encloses_renderClause {clause : Clause} {template : Template}
    (h : renderClause dialect config clause = .done template) :
    Template.Encloses dialect template True := by
  cases clause with
  | contains field term =>
      obtain rfl := Rendering.done.inj h
      cases dialect <;> exact ⟨fun _ => ⟨_, rfl, nofun⟩, fun _ => ⟨_, rfl, nofun⟩,
        fun _ => iff_true_intro (of_decide_eq_true rfl)⟩
  | beginsWords field words =>
      obtain ⟨rfl, rfl⟩ := requireFullText_eq_done h
      cases config <;> exact ⟨fun _ => ⟨_, rfl, nofun⟩, fun _ => ⟨.sign ')', rfl, by simp⟩,
        fun _ => iff_true_intro (of_decide_eq_true rfl)⟩

theorem encloses_constant (text : String) (h : text ∈ ["1 = 1", "1 = 0", " OR "]) :
    Template.Encloses dialect [.fixed text] True := by
  fin_cases h <;> cases dialect <;> exact ⟨fun _ => ⟨_, rfl, nofun⟩, fun _ => ⟨_, rfl, nofun⟩,
    fun _ => iff_true_intro (of_decide_eq_true rfl)⟩

/-- **A condition has empty parentheses exactly where a choice in it is empty.** -/
theorem encloses_renderPredicate (predicate : Predicate) : ∀ {template : Template},
    renderPredicate dialect config predicate = .done template →
      Template.Encloses dialect template predicate.Writable := by
  induction predicate using Predicate.induct with
  | always =>
      intro template h
      obtain rfl := Rendering.done.inj h
      rw [iff_true_intro Predicate.Writable.always]
      exact encloses_constant _ (by simp)
  | never =>
      intro template h
      obtain rfl := Rendering.done.inj h
      rw [iff_true_intro Predicate.Writable.never]
      exact encloses_constant _ (by simp)
  | single clause =>
      intro template h
      rw [iff_true_intro (Predicate.Writable.single clause)]
      exact encloses_renderClause h
  | any alternatives ih =>
      intro template h
      obtain ⟨templates, hParts, rfl⟩ := renderPredicate_any_eq_done h
      rw [Predicate.writable_any_iff]
      apply Template.Encloses.parentheses
      by_cases hEmpty : alternatives = []
      · subst hEmpty
        cases hParts
        exact .inl ⟨rfl, fun hWritable => hWritable.1 rfl⟩
      · rw [and_iff_right hEmpty]
        refine .inr (.joined (encloses_constant _ (by simp)) ?_ hEmpty)
        exact forall₂_imp_of_mem hParts fun alternative hMem part _ hPart =>
          ih alternative hMem hPart

/-- **What is written for a condition** has no empty parentheses exactly if no choice in the
condition is empty. -/
theorem filled_write_iff (writer : Writer) {predicate : Predicate} {template : Template}
    (h : renderPredicate writer.dialect writer.textSearchConfig predicate = .done template) :
    Filled (lex writer.dialect.mark (writer.write template).1.toList) ↔ predicate.Writable := by
  show Filled (lex writer.dialect.mark (writer.render template).sql.toList) ↔ _
  rw [Template.lex_render (separated_renderPredicate predicate h)]
  exact (encloses_renderPredicate predicate h).filled_iff _

end FieldSearch.Sql
