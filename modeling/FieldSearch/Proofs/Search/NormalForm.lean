import FieldSearch.Proofs.Sql.Parentheses
import Mathlib

/-!
# Choices in normal form

A choice is made of any conditions whatever, and it is met by the records that meet one
of them.  On the way it is simplified; unless one alternative decides it, this neither
loses a clause nor moves one.

Conditions that are built by choices alone, from clauses and the two trivial
conditions, are in normal form: trivial, or else `Proper`, which means that they are clauses and
choices among two or more, all the way down.  Nothing else is in normal form.

## Main results

* `built_iff_normal`: what is built by choices, and in which form.
* `disjunction_in_normal_form`: a choice is a disjunction, in normal form, without empty
  parentheses.
-/

namespace FieldSearch.Predicate

/-! ## Normal form -/

/-- A clause, or a choice among at least two conditions that are proper themselves. -/
inductive Proper : Predicate → Prop where
  | single (clause : Clause) : Proper (.single clause)
  | any {alternatives : List Predicate} (several : 2 ≤ alternatives.length)
      (each : ∀ alternative ∈ alternatives, Proper alternative) : Proper (.any alternatives)

/-- A condition in normal form: trivial, or proper. -/
inductive Normal : Predicate → Prop where
  | always : Normal .always
  | never : Normal .never
  | proper {predicate : Predicate} (proper : Proper predicate) : Normal predicate

/-- A condition that choices make, one inside the other, of clauses and trivial conditions. -/
inductive Built : Predicate → Prop where
  | always : Built .always
  | never : Built .never
  | single (clause : Clause) : Built (.single clause)
  | anyOf {alternatives : List Predicate}
      (each : ∀ alternative ∈ alternatives, Built alternative) : Built (anyOf alternatives)

theorem Proper.ne_always {predicate : Predicate} (h : predicate.Proper) : predicate ≠ .always := by
  rintro rfl
  cases h

theorem Proper.ne_never {predicate : Predicate} (h : predicate.Proper) : predicate ≠ .never := by
  rintro rfl
  cases h

theorem Normal.proper_of_ne {predicate : Predicate} (h : predicate.Normal)
    (hAlways : predicate ≠ .always) (hNever : predicate ≠ .never) : predicate.Proper := by
  cases h with
  | always => exact absurd rfl hAlways
  | never => exact absurd rfl hNever
  | proper proper => exact proper

theorem normal_choice {alternatives : List Predicate}
    (h : ∀ alternative ∈ alternatives, alternative.Proper) : (choice alternatives).Normal := by
  match alternatives with
  | [] => exact .never
  | [alternative] => exact .proper (h alternative (List.mem_singleton_self alternative))
  | _ :: _ :: _ => exact .proper (.any (by simp) h)

/-- **A choice among conditions in normal form is in normal form.** -/
theorem normal_anyOf {alternatives : List Predicate}
    (h : ∀ alternative ∈ alternatives, alternative.Normal) : (anyOf alternatives).Normal := by
  by_cases hAlways : .always ∈ alternatives
  · rw [anyOf_eq_always hAlways]
    exact .always
  · rw [anyOf_eq_choice hAlways]
    refine normal_choice fun alternative hMem => ?_
    obtain ⟨hGiven, hNever⟩ := mem_kept_iff.mp hMem
    exact (h alternative hGiven).proper_of_ne (fun hEq => hAlways (hEq ▸ hGiven)) hNever

/-- Choices among proper conditions, two or more, stay as they are. -/
theorem anyOf_of_proper {alternatives : List Predicate} (hSeveral : 2 ≤ alternatives.length)
    (h : ∀ alternative ∈ alternatives, alternative.Proper) :
    anyOf alternatives = .any alternatives := by
  have hAlways : .always ∉ alternatives := fun hMem => (h _ hMem).ne_always rfl
  have hNever : .never ∉ alternatives := fun hMem => (h _ hMem).ne_never rfl
  rw [anyOf_eq_choice hAlways, kept_eq_self hNever]
  match alternatives with
  | [] => simp at hSeveral
  | [_] => simp at hSeveral
  | _ :: _ :: _ => rfl

theorem Proper.built {predicate : Predicate} (h : predicate.Proper) : predicate.Built := by
  induction h with
  | single clause => exact .single clause
  | any several each ih =>
      rw [← anyOf_of_proper several each]
      exact .anyOf ih

/-- **What choices make is in normal form**, and whatever is in normal form can be made. -/
theorem built_iff_normal {predicate : Predicate} : predicate.Built ↔ predicate.Normal := by
  constructor
  · intro h
    induction h with
    | always => exact .always
    | never => exact .never
    | single clause => exact .proper (.single clause)
    | anyOf each ih => exact normal_anyOf ih
  · intro h
    cases h with
    | always => exact .always
    | never => exact .never
    | proper proper => exact proper.built

theorem Proper.writable {predicate : Predicate} (h : predicate.Proper) : predicate.Writable := by
  induction h with
  | single clause => exact .single clause
  | any several each ih =>
      refine .any ?_ ih
      rintro rfl
      simp at several

theorem Normal.writable {predicate : Predicate} (h : predicate.Normal) : predicate.Writable := by
  cases h with
  | always => exact .always
  | never => exact .never
  | proper proper => exact proper.writable

/-- **A choice is a disjunction in normal form.**  Whatever the alternatives are and whatever their
clauses mean, a record meets the choice if it meets one of them; the clauses of the choice are those
of the alternatives in their order, unless one of these is met by every record and so is the choice.
Conditions that are made by choices alone are trivial or have at least two alternatives in every
choice, none of them trivial, and they are written without empty parentheses. -/
theorem disjunction_in_normal_form :
    (∀ alternatives : List Predicate,
      (∀ meaning : Clause → Prop, (anyOf alternatives).Holds meaning ↔
        ∃ alternative ∈ alternatives, alternative.Holds meaning) ∧
      (.always ∈ alternatives → anyOf alternatives = .always) ∧
      (.always ∉ alternatives →
        (anyOf alternatives).clauses = alternatives.flatMap clauses)) ∧
    (∀ predicate : Predicate, predicate.Built ↔ predicate.Normal) ∧
    ∀ predicate : Predicate, predicate.Built → ∀ (writer : Sql.Writer) template,
      Sql.renderPredicate writer.dialect writer.textSearchConfig predicate = .done template →
        Sql.Filled (Sql.lex writer.dialect.mark (writer.write template).1.toList) := by
  refine ⟨fun alternatives => ⟨fun meaning => holds_anyOf alternatives, anyOf_eq_always,
    clauses_anyOf⟩, fun predicate => built_iff_normal, ?_⟩
  intro predicate hBuilt writer template hRendered
  exact (Sql.filled_write_iff writer hRendered).mpr (built_iff_normal.mp hBuilt).writable

/-- A choice among choices, of which one has lost all but one alternative and another all. -/
theorem disjunction_in_normal_form_of_nested :
    let bat : Predicate := .single (.contains "name" "bat")
    let robin : Predicate := .single (.contains "name" "robin")
    let team : Predicate := .single (.contains "team()" "blue")
    let alternatives : List Predicate :=
      [anyOf [.never, bat], anyOf [robin, team], anyOf [.never, .never]]
    let writer : Sql.Writer := ⟨.sqlite, none, [.integer 7]⟩
    anyOf alternatives = .any [bat, .any [robin, team]] ∧
    (anyOf alternatives).clauses = alternatives.flatMap clauses ∧
    anyOf (.always :: alternatives) = .always ∧
    (anyOf alternatives).Built ∧
    ∃ template, Sql.renderPredicate .sqlite none (anyOf alternatives) = .done template ∧
      Sql.Filled (Sql.lex '?' (writer.write template).1.toList) := by
  intro bat robin team alternatives writer
  obtain ⟨hChoice, hForm, hWritten⟩ := disjunction_in_normal_form
  have hInner : Proper (.any [robin, team]) :=
    .any (by decide) (by simp [robin, team, Proper.single])
  have hProper : Proper (.any [bat, .any [robin, team]]) :=
    .any (by decide) (by simpa [bat, Proper.single] using hInner)
  have hBuilt : (anyOf alternatives).Built := (hForm _).mpr (.proper hProper)
  have hSome : Predicate.always ∉ alternatives := by
    change Predicate.always ∉ [bat, .any [robin, team], .never]
    simp [bat]
  exact ⟨rfl, (hChoice alternatives).2.2 hSome,
    (hChoice (.always :: alternatives)).2.1 List.mem_cons_self, hBuilt, _, rfl,
    hWritten _ hBuilt writer _ rfl⟩

end FieldSearch.Predicate
