import FieldSearch.Number.Digits
import FieldSearch.Search.Strategy
import FieldSearch.Text.Identifier

/-!
# Search configuration

How the strategy is chosen, which text search configuration full text conditions name, and the
limits of a page. A configuration is checked as a whole, and all that is wrong with it is reported.
-/

namespace FieldSearch

/-- Why a configuration is refused: every problem that was found. -/
structure ConfigError where
  problems : List String
deriving DecidableEq, Repr

/-- The wording of the fault. -/
def ConfigError.message (error : ConfigError) : String :=
  "invalid configuration: " ++ String.intercalate "; " error.problems

/-- How searches are carried out. -/
structure SearchConfig where
  strategy : StrategyChoice := .auto
  textSearchConfig : Option String := none
  /-- The size of a page when none is asked for. -/
  defaultLimit : Nat := 10
  /-- The size to which pages are cut. -/
  maxLimit : Nat := 1000
deriving DecidableEq, Repr

namespace SearchConfig

/-- All that is wrong with a configuration, in a fixed order. -/
def problems (config : SearchConfig) : List String :=
  (if config.defaultLimit = 0 then ["default limit cannot be 0"] else []) ++
  (if config.maxLimit = 0 then ["max limit cannot be 0"] else []) ++
  (if config.maxLimit < config.defaultLimit then ["default limit cannot exceed max limit"]
    else []) ++
  (match config.textSearchConfig with
    | some name =>
        if Text.isQualifiedIdentifier name then []
        else ["invalid text search config '" ++ name ++ "'"]
    | none => [])

/-- Refuses a configuration with problems. -/
def validate (config : SearchConfig) : Except ConfigError Unit :=
  if config.problems.isEmpty then .ok () else .error ⟨config.problems⟩

/-- A limit as it is written in a configuration. -/
def limitDecoder : Json.Decoder Nat := .natural Number.maxNat32 "u32"

/-- Reads a configuration; nothing in it has to be given. -/
def decoder : Json.Decoder SearchConfig :=
  .struct "struct SearchConfig" {} [
    .defaulted "strategy" StrategyChoice.decoder fun strategy config =>
      { config with strategy },
    .defaulted "text_search_config" (.optional .text) fun textSearchConfig config =>
      { config with textSearchConfig },
    .defaulted "default_limit" limitDecoder fun defaultLimit config =>
      { config with defaultLimit },
    .defaulted "max_limit" limitDecoder fun maxLimit config => { config with maxLimit }]

/-- A configuration as an object. -/
def toJson (config : SearchConfig) : Json :=
  .object [("default_limit", .integer config.defaultLimit),
    ("max_limit", .integer config.maxLimit),
    ("strategy", .text config.strategy.name),
    ("text_search_config", Json.ofText? config.textSearchConfig)]

end SearchConfig
end FieldSearch
