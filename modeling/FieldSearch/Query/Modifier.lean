import FieldSearch.Query.Select

/-!
# Modifiers

A modifier has the last word on every selection. It may confine all requests to the rows with one
value in a column, refuse them, or add a condition. A scope on a column that the record type does
not have refuses the request, unless it is lenient.

## Main results

* `run_revise`: a scope that refuses a selection leaves it as it was.
* `apply_of_none`, `apply_of_some`: the selection within a scope.
-/

namespace FieldSearch

/-- A confinement of requests to the rows with one value in a column. -/
structure Scope where
  column : String
  value : Json
  /-- Whether record types without the column are left alone. -/
  lenient : Bool := false

/-- What is done to a selection before it is carried out. -/
inductive Modifier where
  /-- Nothing. -/
  | keep
  /-- Confine it to a scope. -/
  | scope (scope : Scope)
  /-- Refuse it. -/
  | refuse (reason : String)
  /-- Add a condition. -/
  | narrow (predicate : Predicate)

/-- Confines a selection to a scope, in its place: the selection is the state. -/
def Scope.revise (scope : Scope) (schema : Schema) : ExceptT QueryError (StateM Select) Unit := do
  match schema.column? scope.column with
  | none =>
      if scope.lenient then pure ()
      else throw (.rejected schema.name ("not scoped by '" ++ scope.column ++ "'"))
  | some _ =>
      let value ← ExceptT.mk (pure (schema.columnValue scope.column scope.value))
      modify fun select => select.filter (.columnEquals scope.column value)

/-- The selection within a scope: what is left in its place, unless the scope refuses it. -/
def Scope.apply (scope : Scope) (schema : Schema) (select : Select) : Except QueryError Select :=
  let (answer, next) := (scope.revise schema).run.run select
  answer.map fun _ => next

section

variable {scope : Scope} {schema : Schema} {select : Select}

theorem Scope.apply_of_none (hColumn : schema.column? scope.column = none) :
    scope.apply schema select =
      if scope.lenient then .ok select
      else .error (.rejected schema.name ("not scoped by '" ++ scope.column ++ "'")) := by
  rw [apply, revise, hColumn]
  dsimp only
  cases scope.lenient <;> rfl

theorem Scope.apply_of_some {column : Column} (hColumn : schema.column? scope.column = some column) :
    scope.apply schema select =
      (schema.columnValue scope.column scope.value >>= fun value =>
        pure (select.filter (.columnEquals scope.column value))) := by
  rw [apply, revise, hColumn]
  dsimp only
  cases schema.columnValue scope.column scope.value <;> rfl

/-- **A scope leaves a selection within itself**, or as it was if it refuses it. -/
theorem Scope.run_revise (scope : Scope) (schema : Schema) (select : Select) :
    (scope.revise schema).run.run select =
      ((scope.apply schema select).map fun _ => (),
        (scope.apply schema select).toOption.getD select) := by
  cases hColumn : schema.column? scope.column with
  | none =>
      rw [apply_of_none hColumn, revise, hColumn]
      dsimp only
      cases scope.lenient <;> rfl
  | some column =>
      rw [apply_of_some hColumn, revise, hColumn]
      dsimp only
      cases schema.columnValue scope.column scope.value <;> rfl

end

/-- The modified selection. -/
def Modifier.modify (modifier : Modifier) (schema : Schema) (select : Select) :
    Except QueryError Select :=
  match modifier with
  | .keep => pure select
  | .scope confinement => confinement.apply schema select
  | .refuse reason => throw (.rejected schema.name reason)
  | .narrow predicate => pure (select.filter (.search predicate))

end FieldSearch
