import FieldSearch.Database.Fault
import FieldSearch.Json.Fault
import FieldSearch.Query.Error
import FieldSearch.Schema.Error
import FieldSearch.Search.Config
import FieldSearch.Search.Error

/-!
# Faults of a store

All that can go wrong between a request and its records: the request, the search or the
configuration may be at fault, or the database behind the store. A fault of the database carries
the chain of its causes. Only some faults are the fault of whoever made the request.
-/

namespace FieldSearch

/-- What goes wrong with a database. -/
inductive BackendError where
  | connectionFailed (backend reason : String)
  | poolExhausted (backend : String)
  | serialization (reason : String)
  | internal (backend reason : String) (causes : List String)
deriving DecidableEq, Repr

namespace BackendError

/-- The wording of the fault. -/
def message : BackendError → String
  | .connectionFailed backend reason => s!"connection failed to {backend}: {reason}"
  | .poolExhausted backend => s!"connection pool exhausted for {backend}"
  | .serialization reason => s!"serialization error: {reason}"
  | .internal backend reason _ => s!"internal error in {backend}: {reason}"

/-- The chain of causes. -/
def causes : BackendError → List String
  | .internal _ _ causes => causes
  | _ => []

/-- A fault of the database file. -/
def ofDatabase (fault : Database.Fault) : BackendError :=
  .internal "sqlite" fault.message fault.causes

/-- A fault of reading JSON. -/
def ofJson (fault : Json.Fault) : BackendError := .serialization fault.message

end BackendError

/-- What goes wrong with a store. -/
inductive StorageError where
  | schema (error : SchemaError)
  | search (error : SearchError)
  | query (error : QueryError)
  | config (error : ConfigError)
  | backend (error : BackendError)
deriving DecidableEq, Repr

namespace StorageError

/-- The wording of the fault. -/
def message : StorageError → String
  | .schema error => error.message
  | .search error => error.message
  | .query error => error.message
  | .config error => error.message
  | .backend error => error.message

/-- The chain of causes. -/
def causes : StorageError → List String
  | .backend error => error.causes
  | _ => []

/-- Whether the request is at fault, not the program or the database. -/
def isRequestError : StorageError → Bool
  | .search (.invalidSearchField _ _) => true
  | .query _ => true
  | _ => false

end StorageError
end FieldSearch
