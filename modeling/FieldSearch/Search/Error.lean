/-!
# Faults of a search

A search fails for naming a field that is not searchable. A strategy that a backend cannot carry out
is refused as well, though never because of what is searched.
-/

namespace FieldSearch

/-- Why a search is refused. -/
inductive SearchError where
  | invalidSearchField (record field : String)
  | unsupportedStrategy (strategy backend : String)
deriving DecidableEq, Repr

/-- The wording of the fault. -/
def SearchError.message : SearchError → String
  | .invalidSearchField record field => s!"field '{field}' is not searchable on {record}"
  | .unsupportedStrategy strategy backend =>
      s!"search strategy '{strategy}' is not supported by backend {backend}"

end FieldSearch
