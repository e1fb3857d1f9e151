import FieldSearch.Search.Backend
import FieldSearch.Search.Error

/-!
# Strategies

There are two ways of matching a term: as a literal substring on any backend, or word by word with
ranking where the backend has full text search. Which one is used is chosen, or left to what the
backend can do.
-/

namespace FieldSearch

/-- A way of matching terms. -/
inductive Strategy where
  /-- A literal substring, regardless of case. -/
  | generic
  /-- Every word of the term begins a word of the field. -/
  | fullTextPrefix
deriving DecidableEq, Repr, Inhabited

namespace Strategy

/-- The name of the strategy. -/
def name : Strategy → String
  | .generic => "generic"
  | .fullTextPrefix => "full-text-prefix"

/-- The best strategy that the capabilities allow. -/
def best (capabilities : SearchCapabilities) : Strategy :=
  if capabilities.isFull then .fullTextPrefix else .generic

/-- Whether the strategy ranks what it finds. -/
def ranks : Strategy → Bool
  | .generic => false
  | .fullTextPrefix => true

/-- Reads a strategy by its name. -/
def decoder : Json.Decoder Strategy :=
  .choice [("generic", .generic), ("full-text-prefix", .fullTextPrefix)]

end Strategy

/-- How the strategy is chosen. -/
inductive StrategyChoice where
  /-- By what the backend can do. -/
  | auto
  /-- In advance. -/
  | fixed (strategy : Strategy)
deriving DecidableEq, Repr, Inhabited

namespace StrategyChoice

/-- The name of the choice. -/
def name : StrategyChoice → String
  | .auto => "auto"
  | .fixed strategy => strategy.name

/-- The choices under their names. -/
def named : List (String × StrategyChoice) :=
  [.auto, .fixed .generic, .fixed .fullTextPrefix].map fun choice => (choice.name, choice)

/-- The choice of a name, or the reason why there is none. -/
def ofName (name : String) : Except String StrategyChoice :=
  match named.lookup name with
  | some choice => .ok choice
  | none => .error s!"unknown strategy '{name}': expected auto, generic or full-text-prefix"

/-- The strategy that a choice comes to on a backend with the given capabilities. -/
def resolve (choice : StrategyChoice) (capabilities : SearchCapabilities) (backend : Backend) :
    Except SearchError Strategy :=
  match choice with
  | .auto => .ok (Strategy.best capabilities)
  | .fixed .generic => .ok .generic
  | .fixed .fullTextPrefix =>
      if capabilities.isFull then .ok .fullTextPrefix
      else .error (.unsupportedStrategy Strategy.fullTextPrefix.name backend.name)

/-- Reads a choice by its name. -/
def decoder : Json.Decoder StrategyChoice := .choice named

end StrategyChoice
end FieldSearch
