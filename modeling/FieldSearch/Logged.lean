/-!
# Outcomes with events

An operation has an outcome, a value or a fault, and reports events on its way there. Events are
reported in order, and those before a fault are kept.

## Main results

* `outcome_bind`: the events have no influence on the outcome.
-/

namespace FieldSearch

/-- How important an event is. -/
inductive Level where
  | debug
  | info
  | warn
deriving DecidableEq, Repr

/-- A value that an event reports. -/
inductive EventValue where
  | integer (value : Int)
  | bool (value : Bool)
  | text (value : String)
deriving DecidableEq, Repr

/-- Something worth reporting. -/
structure Event where
  level : Level
  message : String
  fields : List (String × EventValue)
deriving DecidableEq, Repr

/-- A value or a fault, with the events on the way. -/
structure Logged (ε α : Type) where
  outcome : Except ε α
  events : List Event := []

namespace Logged

variable {ε δ α β : Type}

instance : Monad (Logged ε) where
  pure value := ⟨.ok value, []⟩
  bind first next :=
    match first.outcome with
    | .ok value => ⟨(next value).outcome, first.events ++ (next value).events⟩
    | .error fault => ⟨.error fault, first.events⟩

/-- An outcome without events. -/
def of (outcome : Except ε α) : Logged ε α := ⟨outcome, []⟩

/-- Gives up. -/
def fail (fault : ε) : Logged ε α := ⟨.error fault, []⟩

/-- Reports an event. -/
def report (level : Level) (message : String) (fields : List (String × EventValue)) :
    Logged ε Unit :=
  ⟨.ok (), [⟨level, message, fields⟩]⟩

/-- The same with another type of faults. -/
def mapError (f : ε → δ) (logged : Logged ε α) : Logged δ α :=
  ⟨logged.outcome.mapError f, logged.events⟩

@[simp]
theorem outcome_of (outcome : Except ε α) : (of outcome).outcome = outcome := rfl

theorem outcome_bind (first : Logged ε α) (next : α → Logged ε β) :
    (first >>= next).outcome = first.outcome >>= fun value => (next value).outcome := by
  obtain ⟨outcome, events⟩ := first
  cases outcome <;> rfl

end Logged
end FieldSearch
