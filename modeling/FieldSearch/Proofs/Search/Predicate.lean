import FieldSearch.Search.Predicate
import FieldSearch.Search.Render
import Mathlib

/-!
# Search conditions as trees

A condition is a tree with lists of subtrees, so an induction over it has to
know of every alternative of a choice at once.  `Predicate.induct` is that
induction, and every fact about all conditions is proved with it.

Not every tree can be written as a statement: a choice without alternatives
would leave empty parentheses.  `Predicate.Writable` says that there is none,
at any depth.  Which records meet a tree is settled by the clauses that they meet, which
`Predicate.Holds` says for any meaning of clauses.

A choice is simplified as it is made.  It comes to one of two things: to the condition that every
record meets, if that is an alternative, and else to a choice among the alternatives that have
solutions.  What is known of choices is read off from that.

## Main results

* `Predicate.induct`: induction over conditions.
* `renderAlternatives_eq_map`, `clausesOf_eq_flatMap`: the functions on lists
  of conditions are those on conditions, one by one.
* `anyOf_eq_always`, `anyOf_eq_choice`: what a choice comes to.
* `holds_anyOf`, `clauses_anyOf`: which records meet a choice, and what its clauses are.
* `anyOf_map_single`: what a search for terms as they stand looks like.
-/

namespace FieldSearch

namespace Predicate

/-- Induction over conditions, with all alternatives of a choice at once. -/
theorem induct {motive : Predicate → Prop} (always : motive .always) (never : motive .never)
    (single : ∀ clause, motive (.single clause))
    (any : ∀ alternatives, (∀ alternative ∈ alternatives, motive alternative) →
      motive (.any alternatives)) : ∀ predicate, motive predicate := by
  have hNil : ∀ alternative ∈ ([] : List Predicate), motive alternative := fun _ h =>
    absurd h List.not_mem_nil
  have hCons : ∀ first rest, motive first → (∀ alternative ∈ rest, motive alternative) →
      ∀ alternative ∈ first :: rest, motive alternative := by
    intro first rest hFirst hRest alternative h
    rcases List.mem_cons.mp h with rfl | hMem
    · exact hFirst
    · exact hRest alternative hMem
  -- The recursor has one motive for conditions and one for lists of them.
  exact fun predicate => @Predicate.rec motive
    (fun alternatives => ∀ alternative ∈ alternatives, motive alternative)
    always never single any hNil hCons predicate

/-- No choice in the condition is empty, at any depth. -/
inductive Writable : Predicate → Prop where
  | always : Writable .always
  | never : Writable .never
  | single (clause : Clause) : Writable (.single clause)
  | any {alternatives : List Predicate} (nonempty : alternatives ≠ [])
      (each : ∀ alternative ∈ alternatives, Writable alternative) : Writable (.any alternatives)

theorem writable_any_iff {alternatives : List Predicate} :
    Writable (.any alternatives) ↔
      alternatives ≠ [] ∧ ∀ alternative ∈ alternatives, Writable alternative := by
  constructor
  · intro h
    cases h with
    | any nonempty each => exact ⟨nonempty, each⟩
  · intro h
    exact .any h.1 h.2

theorem clausesOf_eq_flatMap (alternatives : List Predicate) :
    clausesOf alternatives = alternatives.flatMap clauses := by
  induction alternatives with
  | nil => rfl
  | cons first rest ih => rw [clausesOf, ih, List.flatMap_cons]

theorem clauses_any (alternatives : List Predicate) :
    clauses (.any alternatives) = alternatives.flatMap clauses := by
  rw [clauses, clausesOf_eq_flatMap]

/-! ## Records that meet a condition -/

/-- A record meets a condition, where `meaning` says which clauses it meets. -/
inductive Holds (meaning : Clause → Prop) : Predicate → Prop where
  | always : Holds meaning .always
  | single {clause : Clause} (holds : meaning clause) : Holds meaning (.single clause)
  | any {alternatives : List Predicate} {alternative : Predicate} (mem : alternative ∈ alternatives)
      (holds : Holds meaning alternative) : Holds meaning (.any alternatives)

theorem holds_single {meaning : Clause → Prop} {clause : Clause} :
    Holds meaning (.single clause) ↔ meaning clause := by
  constructor
  · intro h
    cases h with
    | single holds => exact holds
  · exact .single

theorem holds_any {meaning : Clause → Prop} {alternatives : List Predicate} :
    Holds meaning (.any alternatives) ↔
      ∃ alternative ∈ alternatives, Holds meaning alternative := by
  constructor
  · intro h
    cases h with
    | any mem holds => exact ⟨_, mem, holds⟩
  · rintro ⟨alternative, hMem, hHolds⟩
    exact .any hMem hHolds

/-! ## What a choice comes to -/

/-- The alternatives that have solutions. -/
def kept (alternatives : List Predicate) : List Predicate := alternatives.filter (!·.isNever)

/-- A choice among alternatives that are all kept. -/
def choice : List Predicate → Predicate
  | [] => .never
  | [alternative] => alternative
  | alternatives => .any alternatives

theorem isAlways_iff {predicate : Predicate} : predicate.isAlways = true ↔ predicate = .always := by
  cases predicate <;> simp [isAlways]

theorem isNever_iff {predicate : Predicate} : predicate.isNever = true ↔ predicate = .never := by
  cases predicate <;> simp [isNever]

theorem mem_kept_iff {alternatives : List Predicate} {alternative : Predicate} :
    alternative ∈ kept alternatives ↔ alternative ∈ alternatives ∧ alternative ≠ .never := by
  rw [kept, List.mem_filter, Bool.not_eq_true', Bool.eq_false_iff, Ne, isNever_iff]

theorem kept_eq_self {alternatives : List Predicate} (h : .never ∉ alternatives) :
    kept alternatives = alternatives := by
  rw [kept, List.filter_eq_self]
  intro alternative hMem
  rw [Bool.not_eq_true', Bool.eq_false_iff, Ne, isNever_iff]
  rintro rfl
  exact h hMem

theorem any_isAlways_kept_iff {alternatives : List Predicate} :
    (kept alternatives).any isAlways = true ↔ .always ∈ alternatives := by
  rw [List.any_eq_true]
  constructor
  · rintro ⟨alternative, hMem, hAlways⟩
    obtain rfl := isAlways_iff.mp hAlways
    exact (mem_kept_iff.mp hMem).1
  · intro hMem
    exact ⟨.always, mem_kept_iff.mpr ⟨hMem, nofun⟩, rfl⟩

/-- **A condition that every record meets decides the choice.** -/
theorem anyOf_eq_always {alternatives : List Predicate} (h : .always ∈ alternatives) :
    anyOf alternatives = .always :=
  if_pos (any_isAlways_kept_iff.mpr h)

/-- **Else it is a choice among the alternatives that have solutions.** -/
theorem anyOf_eq_choice {alternatives : List Predicate} (h : .always ∉ alternatives) :
    anyOf alternatives = choice (kept alternatives) := by
  have hNot : ¬ (kept alternatives).any isAlways = true := mt any_isAlways_kept_iff.mp h
  rw [anyOf]
  refine (if_neg hNot).trans ?_
  rw [← kept]
  cases kept alternatives with
  | nil => rfl
  | cons first rest => cases rest <;> rfl

theorem not_holds_never (meaning : Clause → Prop) : ¬ Holds meaning .never := nofun

theorem holds_choice {meaning : Clause → Prop} (alternatives : List Predicate) :
    (choice alternatives).Holds meaning ↔
      ∃ alternative ∈ alternatives, alternative.Holds meaning := by
  match alternatives with
  | [] => simp [choice, not_holds_never]
  | [_] => simp [choice]
  | _ :: _ :: _ => exact holds_any

/-- **A record meets a choice if it meets one of the alternatives.** -/
theorem holds_anyOf {meaning : Clause → Prop} (alternatives : List Predicate) :
    (anyOf alternatives).Holds meaning ↔
      ∃ alternative ∈ alternatives, alternative.Holds meaning := by
  by_cases hAlways : .always ∈ alternatives
  · rw [anyOf_eq_always hAlways]
    exact iff_of_true .always ⟨.always, hAlways, .always⟩
  · rw [anyOf_eq_choice hAlways, holds_choice]
    constructor
    · rintro ⟨alternative, hMem, hHolds⟩
      exact ⟨alternative, (mem_kept_iff.mp hMem).1, hHolds⟩
    · rintro ⟨alternative, hMem, hHolds⟩
      have hSolvable : alternative ≠ .never := by
        rintro rfl
        exact not_holds_never meaning hHolds
      exact ⟨alternative, mem_kept_iff.mpr ⟨hMem, hSolvable⟩, hHolds⟩

theorem clauses_choice (alternatives : List Predicate) :
    (choice alternatives).clauses = alternatives.flatMap clauses := by
  match alternatives with
  | [] => rfl
  | [_] => simp [choice]
  | _ :: _ :: _ => exact clauses_any _

/-- What is dropped has no clauses. -/
theorem flatMap_clauses_kept (alternatives : List Predicate) :
    (kept alternatives).flatMap clauses = alternatives.flatMap clauses := by
  rw [kept]
  induction alternatives with
  | nil => rfl
  | cons alternative rest ih =>
      by_cases hNever : alternative = .never
      · simpa [hNever, isNever, clauses] using ih
      · have hKept : alternative.isNever = false := by
          rw [Bool.eq_false_iff, Ne, isNever_iff]
          exact hNever
        simp [hKept, ih]

/-- **A choice has the clauses of its alternatives**, in order, unless it is decided. -/
theorem clauses_anyOf {alternatives : List Predicate} (h : .always ∉ alternatives) :
    (anyOf alternatives).clauses = alternatives.flatMap clauses := by
  rw [anyOf_eq_choice h, clauses_choice, flatMap_clauses_kept]

theorem mem_clauses_anyOf {alternatives : List Predicate} {clause : Clause}
    (h : clause ∈ (anyOf alternatives).clauses) :
    ∃ alternative ∈ alternatives, clause ∈ alternative.clauses := by
  by_cases hAlways : .always ∈ alternatives
  · rw [anyOf_eq_always hAlways] at h
    cases h
  · rw [clauses_anyOf hAlways] at h
    exact List.mem_flatMap.mp h

theorem writable_anyOf {alternatives : List Predicate}
    (h : ∀ alternative ∈ alternatives, alternative.Writable) : (anyOf alternatives).Writable := by
  by_cases hAlways : .always ∈ alternatives
  · rw [anyOf_eq_always hAlways]
    exact .always
  · have hKept : ∀ alternative ∈ kept alternatives, alternative.Writable :=
      fun alternative hMem => h alternative (mem_kept_iff.mp hMem).1
    rw [anyOf_eq_choice hAlways]
    match kept alternatives, hKept with
    | [], _ => exact .never
    | [alternative], hKept => exact hKept alternative (List.mem_singleton_self alternative)
    | first :: second :: rest, hKept => exact .any (List.cons_ne_nil first _) hKept

/-! ## Searches for terms as they stand -/

/-- The clauses of a search for terms as they stand. -/
def containing (fields : FieldSet) (terms : TermSet) : List Clause :=
  fields.fields.filterMap fun field => (terms.term? field).map (Clause.contains field)

theorem mem_containing {fields : FieldSet} {terms : TermSet} {clause : Clause} :
    clause ∈ containing fields terms ↔
      ∃ field ∈ fields.fields, ∃ term, terms.term? field = some term ∧
        clause = .contains field term := by
  rw [containing, List.mem_filterMap]
  refine exists_congr fun field => and_congr_right fun _ => ?_
  rw [Option.map_eq_some_iff]
  exact exists_congr fun term => and_congr_right fun _ => eq_comm

theorem searched_generic (fields : FieldSet) (terms : TermSet) :
    searched fields terms .generic = (containing fields terms).map .single := by
  rw [searched, containing, List.map_filterMap]
  refine congrFun (congrArg List.filterMap (funext fun field => ?_)) _
  rw [Option.map_map]
  rfl

/-- A choice among clauses is one of clauses, a single one standing alone. -/
theorem anyOf_map_single (clauses : List Clause) :
    anyOf (clauses.map .single) =
      match clauses with
      | [] => .never
      | [clause] => .single clause
      | clauses => .any (clauses.map .single) := by
  rw [anyOf_eq_choice (by simp), kept_eq_self (by simp)]
  match clauses with
  | [] => rfl
  | [_] => rfl
  | _ :: _ :: _ => rfl

theorem flatMap_clauses_map_single (among : List Clause) :
    (among.map Predicate.single).flatMap clauses = among := by
  rw [List.flatMap_map]
  exact List.flatMap_singleton' among

theorem clauses_anyOf_map_single (among : List Clause) :
    (anyOf (among.map .single)).clauses = among :=
  (clauses_anyOf (by simp)).trans (flatMap_clauses_map_single among)

theorem writable_anyOf_map_single (among : List Clause) :
    (anyOf (among.map .single)).Writable := by
  refine writable_anyOf fun alternative hMem => ?_
  obtain ⟨clause, -, rfl⟩ := List.mem_map.mp hMem
  exact .single clause

theorem holds_anyOf_map_single {meaning : Clause → Prop} (among : List Clause) :
    (anyOf (among.map .single)).Holds meaning ↔ ∃ clause ∈ among, meaning clause := by
  rw [holds_anyOf]
  simp [holds_single]

theorem isAlways_anyOf_map_single (among : List Clause) :
    (anyOf (among.map .single)).isAlways = false := by
  rw [anyOf_map_single]
  match among with
  | [] => rfl
  | [_] => rfl
  | _ :: _ :: _ => rfl

end Predicate

theorem Sql.renderAlternatives_eq_map (dialect : Sql.Dialect) (config : Option String)
    (alternatives : List Predicate) :
    Sql.renderAlternatives dialect config alternatives =
      alternatives.map (Sql.renderPredicate dialect config) := by
  induction alternatives with
  | nil => rfl
  | cons first rest ih => rw [Sql.renderAlternatives, ih, List.map_cons]

end FieldSearch
