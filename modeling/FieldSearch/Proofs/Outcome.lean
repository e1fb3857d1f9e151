import FieldSearch.Logged
import Mathlib

/-!
# Outcomes taken apart

An operation that has succeeded has succeeded in all its steps, and one that has
failed has failed in the first step that did.  These lemmas take an operation apart
into its steps, with and without events; proofs about checks and about requests
start with them.

Where the steps are checks, what an operation fails with is said without it: each check
refuses some things, with some fault, and the first check that refuses has the word.

## Main results

* `RefusedBy.append`, `RefusedBy.bind`: a step in front of others has the first word.
* `RefusedBy.exists_ok_iff`: an operation succeeds if none of its checks refuses.
-/

namespace FieldSearch

variable {ε δ α β : Type}

theorem bind_eq_ok {first : Except ε α} {next : α → Except ε β} {result : β} :
    first >>= next = .ok result ↔ ∃ value, first = .ok value ∧ next value = .ok result := by
  cases first with
  | error fault =>
      constructor
      · intro h
        cases h
      · rintro ⟨value, hValue, _⟩
        cases hValue
  | ok value =>
      constructor
      · intro h
        exact ⟨value, rfl, h⟩
      · rintro ⟨other, hOther, hNext⟩
        obtain rfl := Except.ok.inj hOther
        exact hNext

theorem bind_eq_error {first : Except ε α} {next : α → Except ε β} {fault : ε} :
    first >>= next = .error fault ↔
      first = .error fault ∨ ∃ value, first = .ok value ∧ next value = .error fault := by
  cases first with
  | error other =>
      constructor
      · intro h
        exact .inl (congrArg _ (Except.error.inj h))
      · rintro (h | ⟨value, hValue, _⟩)
        · exact congrArg _ (Except.error.inj h)
        · cases hValue
  | ok value =>
      constructor
      · intro h
        exact .inr ⟨value, rfl, h⟩
      · rintro (h | ⟨other, hOther, hNext⟩)
        · cases h
        · obtain rfl := Except.ok.inj hOther
          exact hNext

theorem mapError_eq_error {f : ε → δ} {outcome : Except ε α} {fault : δ} :
    outcome.mapError f = .error fault ↔ ∃ cause, outcome = .error cause ∧ f cause = fault := by
  cases outcome with
  | error cause =>
      constructor
      · intro h
        exact ⟨cause, rfl, Except.error.inj h⟩
      · rintro ⟨other, hOther, rfl⟩
        obtain rfl := Except.error.inj hOther
        rfl
  | ok value =>
      constructor
      · intro h
        cases h
      · rintro ⟨cause, hCause, _⟩
        cases hCause

theorem mapError_eq_ok {f : ε → δ} {outcome : Except ε α} {value : α} :
    outcome.mapError f = .ok value ↔ outcome = .ok value := by
  cases outcome with
  | error fault =>
      constructor <;> intro h <;> cases h
  | ok other =>
      constructor <;> intro h <;> exact congrArg _ (Except.ok.inj h)

theorem mapError_bind (f : ε → δ) (first : Except ε α) (next : α → Except ε β) :
    (first >>= next).mapError f = first.mapError f >>= fun value => (next value).mapError f := by
  cases first <;> rfl

/-- Steps succeed together if each of them does. -/
theorem mapM_eq_ok {step : α → Except ε β} {items : List α} :
    ∀ {results : List β}, items.mapM step = .ok results ↔
      List.Forall₂ (fun item result => step item = .ok result) items results := by
  induction items with
  | nil =>
      intro results
      constructor
      · intro h
        obtain rfl := Except.ok.inj h
        exact .nil
      · rintro ⟨⟩
        rfl
  | cons first rest ih =>
      intro results
      rw [List.mapM_cons]
      constructor
      · intro h
        obtain ⟨head, hHead, h⟩ := bind_eq_ok.mp h
        obtain ⟨tail, hTail, h⟩ := bind_eq_ok.mp h
        obtain rfl := Except.ok.inj h
        exact .cons hHead (ih.mp hTail)
      · rintro (_ | ⟨hHead, hTail⟩)
        exact bind_eq_ok.mpr ⟨_, hHead, bind_eq_ok.mpr ⟨_, ih.mpr hTail, rfl⟩⟩

/-- Steps that can only fail with one fault fail together if one of them does. -/
theorem mapM_eq_error_of_const {step : α → Except ε β} {blame : ε}
    (hBlame : ∀ item fault, step item = .error fault → fault = blame) {items : List α} :
    ∀ {fault : ε}, items.mapM step = .error fault ↔
      fault = blame ∧ ∃ item ∈ items, step item = .error blame := by
  induction items with
  | nil =>
      intro fault
      constructor
      · intro h
        cases h
      · rintro ⟨-, _, hMem, -⟩
        cases hMem
  | cons first rest ih =>
      intro fault
      rw [List.mapM_cons, bind_eq_error]
      constructor
      · rintro (hFirst | ⟨head, -, h⟩)
        · obtain rfl := hBlame first fault hFirst
          exact ⟨rfl, first, List.mem_cons_self, hFirst⟩
        · rcases bind_eq_error.mp h with hRest | ⟨tail, -, h⟩
          · obtain ⟨rfl, item, hMem, hItem⟩ := ih.mp hRest
            exact ⟨rfl, item, List.mem_cons_of_mem first hMem, hItem⟩
          · cases h
      · rintro ⟨rfl, item, hMem, hItem⟩
        cases hFirst : step first with
        | error other =>
            obtain rfl := hBlame first other hFirst
            exact .inl rfl
        | ok head =>
            refine .inr ⟨head, rfl, bind_eq_error.mpr (.inl (ih.mpr ⟨rfl, item, ?_, hItem⟩))⟩
            rcases List.mem_cons.mp hMem with rfl | hRest
            · rw [hFirst] at hItem
              cases hItem
            · exact hRest

/-- A check in front of what is done if it passes. -/
theorem ite_throw_eq_ok {condition : Prop} [Decidable condition] {fault : ε}
    {next : α → Except ε β} {others : Except ε β} {result : β} :
    (if condition then throw fault >>= next else others) = .ok result ↔
      ¬ condition ∧ others = .ok result := by
  by_cases hCondition : condition
  · rw [if_pos hCondition]
    constructor
    · intro h
      cases h
    · intro h
      exact absurd hCondition h.1
  · rw [if_neg hCondition]
    exact ⟨fun h => ⟨hCondition, h⟩, fun h => h.2⟩

/-! ## The first of several checks -/

section

variable {γ : Type} {refuses : γ → ε → Prop}

/-- One of the checks refuses with the fault, and none of those before it refuses at all. -/
inductive FirstRefusal (refuses : γ → ε → Prop) : List γ → ε → Prop where
  | here {check : γ} {rest : List γ} {fault : ε} (refused : refuses check fault) :
      FirstRefusal refuses (check :: rest) fault
  | later {check : γ} {rest : List γ} {fault : ε} (passed : ∀ other, ¬ refuses check other)
      (refused : FirstRefusal refuses rest fault) : FirstRefusal refuses (check :: rest) fault

theorem FirstRefusal.exists_refuses {checks : List γ} {fault : ε}
    (h : FirstRefusal refuses checks fault) : ∃ check ∈ checks, refuses check fault := by
  induction h with
  | here refused => exact ⟨_, List.mem_cons_self, refused⟩
  | later passed refused ih =>
      obtain ⟨check, hMem, hRefuses⟩ := ih
      exact ⟨check, List.mem_cons_of_mem _ hMem, hRefuses⟩

/-- Where a check refuses, one of them is the first to do so. -/
theorem exists_firstRefusal {checks : List γ} {check : γ} (hMem : check ∈ checks) {fault : ε}
    (hRefuses : refuses check fault) : ∃ first, FirstRefusal refuses checks first := by
  induction checks with
  | nil => cases hMem
  | cons head rest ih =>
      by_cases hHead : ∃ other, refuses head other
      · obtain ⟨other, hOther⟩ := hHead
        exact ⟨other, .here hOther⟩
      · rcases List.mem_cons.mp hMem with rfl | hRest
        · exact absurd ⟨fault, hRefuses⟩ hHead
        · obtain ⟨first, hFirst⟩ := ih hRest
          exact ⟨first, .later (not_exists.mp hHead) hFirst⟩

/-- Of two rows of checks the second has a word only where the first lets everything pass. -/
theorem firstRefusal_append_iff {checks rest : List γ} {fault : ε} :
    FirstRefusal refuses (checks ++ rest) fault ↔
      FirstRefusal refuses checks fault ∨
        (∀ check ∈ checks, ∀ other, ¬ refuses check other) ∧ FirstRefusal refuses rest fault := by
  induction checks with
  | nil =>
      constructor
      · exact fun h => .inr ⟨fun _ hMem => absurd hMem List.not_mem_nil, h⟩
      · rintro (h | ⟨-, h⟩)
        · cases h
        · exact h
  | cons check others ih =>
      rw [List.cons_append, List.forall_mem_cons]
      constructor
      · intro h
        cases h with
        | here refused => exact .inl (.here refused)
        | later passed refused =>
            rcases ih.mp refused with hFirst | ⟨hPassed, hRest⟩
            · exact .inl (.later passed hFirst)
            · exact .inr ⟨⟨passed, hPassed⟩, hRest⟩
      · rintro (h | ⟨⟨passed, hPassed⟩, hRest⟩)
        · cases h with
          | here refused => exact .here refused
          | later passed refused => exact .later passed (ih.mpr (.inl refused))
        · exact .later passed (ih.mpr (.inr ⟨hPassed, hRest⟩))

/-- The operation fails with the first refusal of the checks, and for nothing else. -/
def RefusedBy (refuses : γ → ε → Prop) (checks : List γ) (outcome : Except ε α) : Prop :=
  ∀ fault, outcome = .error fault ↔ FirstRefusal refuses checks fault

theorem RefusedBy.ok (value : α) : RefusedBy refuses [] (.ok value : Except ε α) := by
  intro fault
  constructor
  · intro h
    cases h
  · intro h
    cases h

theorem RefusedBy.single {outcome : Except ε α} {check : γ}
    (h : ∀ fault, outcome = .error fault ↔ refuses check fault) :
    RefusedBy refuses [check] outcome := by
  intro fault
  rw [h]
  constructor
  · exact .here
  · intro hFirst
    cases hFirst with
    | here refused => exact refused
    | later passed refused => cases refused

/-- An operation that is refused by checks succeeds if none of them refuses. -/
theorem RefusedBy.exists_ok_iff {checks : List γ} {outcome : Except ε α}
    (h : RefusedBy refuses checks outcome) :
    (∃ value, outcome = .ok value) ↔ ∀ check ∈ checks, ∀ fault, ¬ refuses check fault := by
  constructor
  · rintro ⟨value, rfl⟩ check hMem fault hRefuses
    obtain ⟨first, hFirst⟩ := exists_firstRefusal hMem hRefuses
    cases (h first).mpr hFirst
  · intro hNone
    cases outcome with
    | ok value => exact ⟨value, rfl⟩
    | error fault =>
        obtain ⟨check, hMem, hRefuses⟩ := ((h fault).mp rfl).exists_refuses
        exact absurd hRefuses (hNone check hMem fault)

/-- **Steps in front of others have the first word**, and these have theirs if they succeed. -/
theorem RefusedBy.append {first : Except ε α} {next : α → Except ε β} {checks rest : List γ}
    (hFirst : RefusedBy refuses checks first)
    (hNext : ∀ value, first = .ok value → RefusedBy refuses rest (next value)) :
    RefusedBy refuses (checks ++ rest) (first >>= next) := by
  intro fault
  rw [bind_eq_error, hFirst, firstRefusal_append_iff, ← hFirst.exists_ok_iff]
  refine or_congr_right ⟨?_, ?_⟩
  · rintro ⟨value, hValue, h⟩
    exact ⟨⟨value, hValue⟩, (hNext value hValue fault).mp h⟩
  · rintro ⟨⟨value, hValue⟩, h⟩
    exact ⟨value, hValue, (hNext value hValue fault).mpr h⟩

/-- **A step in front of others has the first word**, and they have theirs if it succeeds. -/
theorem RefusedBy.bind {first : Except ε α} {next : α → Except ε β} {check : γ} {rest : List γ}
    (hFirst : ∀ fault, first = .error fault ↔ refuses check fault)
    (hNext : ∀ value, first = .ok value → RefusedBy refuses rest (next value)) :
    RefusedBy refuses (check :: rest) (first >>= next) :=
  (RefusedBy.single hFirst).append hNext

/-- What is made of the result of an operation is refused for nothing else. -/
theorem RefusedBy.map {first : Except ε α} {checks : List γ} (f : α → β)
    (hFirst : RefusedBy refuses checks first) :
    RefusedBy refuses checks (first >>= fun value => pure (f value)) := by
  rw [← List.append_nil checks]
  exact hFirst.append fun value _ => .ok (f value)

/-- A check that refuses whatever comes after it. -/
theorem RefusedBy.fail {blame : ε} {check : γ} {rest : List γ}
    (hCheck : ∀ fault, refuses check fault ↔ fault = blame) :
    RefusedBy refuses (check :: rest) (.error blame : Except ε α) := by
  intro fault
  constructor
  · intro h
    exact .here ((hCheck fault).mpr (Except.error.inj h).symm)
  · intro h
    cases h with
    | here refused => exact congrArg _ ((hCheck fault).mp refused).symm
    | later passed refused => exact absurd ((hCheck blame).mpr rfl) (passed blame)

/-- A check that refuses nothing. -/
theorem RefusedBy.pass {outcome : Except ε α} {check : γ} {rest : List γ}
    (hPassed : ∀ other, ¬ refuses check other) (hRest : RefusedBy refuses rest outcome) :
    RefusedBy refuses (check :: rest) outcome := by
  intro fault
  rw [hRest]
  constructor
  · exact .later hPassed
  · intro h
    cases h with
    | here refused => exact absurd refused (hPassed fault)
    | later passed refused => exact refused

/-- A condition on which an operation gives up, in front of what it does otherwise. -/
theorem RefusedBy.ite_throw {condition : Prop} [Decidable condition] {blame : ε}
    {next : α → Except ε β} {others : Except ε β} {check : γ} {rest : List γ}
    (hCheck : ∀ fault, refuses check fault ↔ condition ∧ fault = blame)
    (hOthers : ¬ condition → RefusedBy refuses rest others) :
    RefusedBy refuses (check :: rest)
      (if condition then throw blame >>= next else others) := by
  by_cases hCondition : condition
  · rw [if_pos hCondition]
    exact .fail fun fault => (hCheck fault).trans (and_iff_right hCondition)
  · rw [if_neg hCondition]
    exact .pass (fun other h => hCondition ((hCheck other).mp h).1) (hOthers hCondition)

/-- Steps for one item after the other. -/
theorem RefusedBy.forM {step : α → Except ε Unit} {checks : α → List γ} {items : List α}
    (hStep : ∀ item ∈ items, RefusedBy refuses (checks item) (step item)) :
    RefusedBy refuses (items.flatMap checks) (items.forM step) := by
  induction items with
  | nil => exact .ok ()
  | cons item rest ih =>
      rw [List.flatMap_cons]
      obtain ⟨hItem, hRest⟩ := List.forall_mem_cons.mp hStep
      exact hItem.append fun _ _ => ih hRest

end

namespace Logged

theorem outcome_bind_eq_ok {first : Logged ε α} {next : α → Logged ε β} {result : β} :
    (first >>= next).outcome = .ok result ↔
      ∃ value, first.outcome = .ok value ∧ (next value).outcome = .ok result := by
  rw [outcome_bind, bind_eq_ok]

theorem outcome_bind_eq_error {first : Logged ε α} {next : α → Logged ε β} {fault : ε} :
    (first >>= next).outcome = .error fault ↔
      first.outcome = .error fault ∨
        ∃ value, first.outcome = .ok value ∧ (next value).outcome = .error fault := by
  rw [outcome_bind, bind_eq_error]

@[simp]
theorem outcome_mapError (f : ε → δ) (logged : Logged ε α) :
    (logged.mapError f).outcome = logged.outcome.mapError f := rfl

end Logged
end FieldSearch
