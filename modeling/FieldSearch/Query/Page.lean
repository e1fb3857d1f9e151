import FieldSearch.Logged
import FieldSearch.Query.Error
import FieldSearch.RecordId
import FieldSearch.Search.Config
import FieldSearch.Search.TermSet

/-!
# List requests

A list request may name ids, a page and terms. Absent ids are no restriction, while an empty list of
ids lets nothing through. The page is settled by the configuration: a limit that was not asked for
is the default one, and one that is too great is cut, with a warning.
-/

namespace FieldSearch

/-- A request for a list of records. -/
structure ListRequest where
  ids : Option (List RecordId) := none
  limit : Option Int := none
  offset : Option Int := none
  terms : Option TermSet := none
deriving DecidableEq

/-- A settled page. -/
structure Page where
  limit : Int
  offset : Int
deriving DecidableEq, Repr

namespace ListRequest

/-- The limit of a request under a configuration. -/
def settleLimit (config : SearchConfig) : Option Int → Logged QueryError Int
  | none => pure config.defaultLimit
  | some limit =>
      if limit < 0 then .fail (.invalidPaging "limit" limit)
      else if (config.maxLimit : Int) < limit then do
        .report .warn "Clamping list limit"
          [("requested", .integer limit), ("max", .integer config.maxLimit)]
        pure config.maxLimit
      else pure limit

/-- The offset of a request. -/
def settleOffset : Option Int → Logged QueryError Int
  | none => pure 0
  | some offset => if offset < 0 then .fail (.invalidPaging "offset" offset) else pure offset

/-- The page of a request under a configuration. -/
def page (request : ListRequest) (config : SearchConfig) : Logged QueryError Page := do
  let limit ← settleLimit config request.limit
  let offset ← settleOffset request.offset
  pure ⟨limit, offset⟩

/-- Reads a request; nothing in it has to be given. -/
def decoder : Json.Decoder ListRequest :=
  .struct "struct ListQuery" {} [
    .defaulted "ids" (.optional (.list RecordId.decoder)) fun ids request =>
      { request with ids },
    .defaulted "limit" (.optional .int64) fun limit request => { request with limit },
    .defaulted "offset" (.optional .int64) fun offset request => { request with offset },
    .defaulted "query" (.optional TermSet.decoder) fun terms request =>
      { request with terms }]

/-- An optional integer as a value. -/
def optionalInteger : Option Int → Json
  | some value => .integer value
  | none => .null

/-- A request as an object. -/
def toJson (request : ListRequest) : Json :=
  .object [
    ("ids", match request.ids with
      | some ids => .list (ids.map RecordId.toJson)
      | none => .null),
    ("limit", optionalInteger request.limit),
    ("offset", optionalInteger request.offset),
    ("query", match request.terms with
      | some terms => terms.toJson
      | none => .null)]

end ListRequest
end FieldSearch
