import FieldSearch.Cli.Error
import FieldSearch.Query.Page
import FieldSearch.Text.Split

/-!
# Options of a run

What one run of the program is asked to do, and how the value of each option is read. An option is
given once, terms and ids any number of times. The options together describe a search
configuration and a request; the log level and the search configuration are checked at the end, so
that all their problems are reported at once.
-/

namespace FieldSearch.Cli

/-- The options of the command line. -/
inductive Flag where
  | schema
  | backend
  | databaseUrl
  | strategy
  | textSearchConfig
  | defaultLimit
  | maxLimit
  | term
  | id
  | get
  | limit
  | offset
  | seed
  | explain
  | logLevel
  | help
deriving DecidableEq, Repr

namespace Flag

/-- All options with their names. -/
def named : List (String × Flag) :=
  [("schema", .schema), ("backend", .backend), ("database-url", .databaseUrl),
    ("strategy", .strategy), ("text-search-config", .textSearchConfig),
    ("default-limit", .defaultLimit), ("max-limit", .maxLimit), ("term", .term), ("id", .id),
    ("get", .get), ("limit", .limit), ("offset", .offset), ("seed", .seed),
    ("explain", .explain), ("log-level", .logLevel), ("help", .help)]

/-- What an option is for. -/
def purpose : Flag → String
  | .schema => "file of the record schema"
  | .backend => "sqlite or postgres"
  | .databaseUrl => "file or address of the database"
  | .strategy => "auto, generic or full-text-prefix"
  | .textSearchConfig => "configuration of text search in the database"
  | .defaultLimit => "size of a page when none is asked for"
  | .maxLimit => "greatest size of a page"
  | .term => "field=value to search for, any number of times"
  | .id => "id of a record to list, any number of times"
  | .get => "id of the one record to look up"
  | .limit => "size of the page"
  | .offset => "number of records to skip"
  | .seed => "file of records to insert first"
  | .explain => "show the statement instead of running it"
  | .logLevel => "error, warn, info, debug or trace"
  | .help => "show this list"

/-- The list of all options. -/
def usage : List String :=
  "Options:" :: named.map fun (name, flag) => s!"  --{name}: {flag.purpose}"

/-- The option of a name. -/
def ofName? (name : String) : Option Flag := named.lookup name

/-- Whether the option takes no value. -/
def isSwitch : Flag → Bool
  | .explain | .help => true
  | _ => false

/-- Whether a negative number may follow the option as its value. -/
def takesNegative : Flag → Bool
  | .limit | .offset => true
  | _ => false

/-- The options that environment variables may give, with the variables. -/
def environment : List (Flag × String) :=
  [(.schema, "QUARRY_SCHEMA"), (.backend, "QUARRY_BACKEND"),
    (.databaseUrl, "QUARRY_DATABASE_URL"), (.strategy, "QUARRY_SEARCH_STRATEGY"),
    (.textSearchConfig, "QUARRY_TEXT_SEARCH_CONFIG"), (.defaultLimit, "QUARRY_DEFAULT_LIMIT"),
    (.maxLimit, "QUARRY_MAX_LIMIT"), (.logLevel, "QUARRY_LOG_LEVEL")]

end Flag

/-- The options that have been given so far. -/
structure Given where
  schema : Option String := none
  backend : Option Backend := none
  databaseUrl : Option String := none
  strategy : Option StrategyChoice := none
  textSearchConfig : Option String := none
  defaultLimit : Option Nat := none
  maxLimit : Option Nat := none
  terms : List (String × String) := []
  ids : List String := []
  get : Option String := none
  limit : Option Int := none
  offset : Option Int := none
  seed : Option String := none
  explain : Bool := false
  logLevel : Option String := none
deriving DecidableEq, Repr

namespace Given

/-- Whether an option has been given. -/
def has (given : Given) : Flag → Bool
  | .schema => given.schema.isSome
  | .backend => given.backend.isSome
  | .databaseUrl => given.databaseUrl.isSome
  | .strategy => given.strategy.isSome
  | .textSearchConfig => given.textSearchConfig.isSome
  | .defaultLimit => given.defaultLimit.isSome
  | .maxLimit => given.maxLimit.isSome
  | .term => !given.terms.isEmpty
  | .id => !given.ids.isEmpty
  | .get => given.get.isSome
  | .limit => given.limit.isSome
  | .offset => given.offset.isSome
  | .seed => given.seed.isSome
  | .explain => given.explain
  | .logLevel => given.logLevel.isSome
  | .help => false

/-! ## Values -/

/-- A path, which must not be empty. -/
def readPath (value : String) : Except UsageError String :=
  if value.isEmpty then throw .invalidValue else pure value

/-- A value with a reader that gives its reason for refusing one. -/
def readWith {α : Type} (reader : String → Except String α) (value : String) :
    Except UsageError α :=
  (reader value).mapError .valueValidation

/-- An integer of 64 bits. -/
def readInt (value : String) : Except String Int :=
  (Number.readInteger 64 value.toList).mapError Number.IntegerFault.message

/-- The size of a page. -/
def readSize (value : String) : Except String Nat := do
  let n ← readInt value
  if 0 ≤ n ∧ n ≤ Number.maxNat32 then pure n.toNat
  else throw s!"{n} is not in 0..=4294967295"

/-- A search term with its field. -/
def readTerm (value : String) : Except String (String × String) :=
  match Text.cut? value '=' with
  | some (field, term) =>
      if field.isEmpty then throw s!"expected field=value, got '{value}'" else pure (field, term)
  | none => throw s!"expected field=value, got '{value}'"

/-- The given options with one more value. -/
def write (given : Given) (flag : Flag) (value : String) : Except UsageError Given := do
  match flag with
  | .schema => pure { given with schema := some (← readPath value) }
  | .backend => pure { given with backend := some (← readWith Backend.ofName value) }
  | .databaseUrl => pure { given with databaseUrl := some value }
  | .strategy => pure { given with strategy := some (← readWith StrategyChoice.ofName value) }
  | .textSearchConfig => pure { given with textSearchConfig := some value }
  | .defaultLimit => pure { given with defaultLimit := some (← readWith readSize value) }
  | .maxLimit => pure { given with maxLimit := some (← readWith readSize value) }
  | .term => pure { given with terms := given.terms ++ [← readWith readTerm value] }
  | .id => pure { given with ids := given.ids ++ [value] }
  | .get => pure { given with get := some value }
  | .limit => pure { given with limit := some (← readWith readInt value) }
  | .offset => pure { given with offset := some (← readWith readInt value) }
  | .seed => pure { given with seed := some (← readPath value) }
  | .explain => pure { given with explain := true }
  | .logLevel => pure { given with logLevel := some value }
  | .help => throw .displayHelp

/-- Whether an option may be given once only. -/
def isSingle (flag : Flag) : Bool := flag != .term && flag != .id

/-- Accepts a value for an option; repeating one that is given once only is a conflict. -/
def accept (given : Given) (flag : Flag) (value : String) : Except UsageError Given :=
  if isSingle flag && given.has flag then throw .argumentConflict else given.write flag value

end Given

/-- The options of a run. -/
structure Options where
  schema : String := "schema.json"
  backend : Backend := .sqlite
  databaseUrl : Option String := none
  strategy : StrategyChoice := .auto
  textSearchConfig : Option String := none
  defaultLimit : Nat := 10
  maxLimit : Nat := 1000
  terms : List (String × String) := []
  ids : List String := []
  get : Option String := none
  limit : Option Int := none
  offset : Option Int := none
  seed : Option String := none
  explain : Bool := false
  logLevel : String := "info"
deriving DecidableEq, Repr

namespace Options

/-- The options of a run once all have been given; the schema has to be among them. -/
def ofGiven (given : Given) : Except UsageError Options := do
  let excluded : List Flag := [.term, .id, .limit, .offset]
  if given.has .get && excluded.any given.has then throw .argumentConflict
  let defaults : Options := {}
  match given.schema with
  | none => throw .missingRequiredArgument
  | some schema =>
      pure {
        schema
        backend := given.backend.getD defaults.backend
        databaseUrl := given.databaseUrl
        strategy := given.strategy.getD defaults.strategy
        textSearchConfig := given.textSearchConfig
        defaultLimit := given.defaultLimit.getD defaults.defaultLimit
        maxLimit := given.maxLimit.getD defaults.maxLimit
        terms := given.terms
        ids := given.ids
        get := given.get
        limit := given.limit
        offset := given.offset
        seed := given.seed
        explain := given.explain
        logLevel := given.logLevel.getD defaults.logLevel }

/-- The search configuration of a run. -/
def searchConfig (options : Options) : SearchConfig where
  strategy := options.strategy
  textSearchConfig := options.textSearchConfig
  defaultLimit := options.defaultLimit
  maxLimit := options.maxLimit

/-- The path of the database file. -/
def databasePath (options : Options) : String := options.databaseUrl.getD "quarry.db"

/-- The search terms of a run; of several for one field the last counts. -/
def termSet (options : Options) : TermSet :=
  .ofList (options.terms.map fun term => (term.1, some term.2))

/-- The list request of a run. -/
def listRequest (options : Options) : ListRequest where
  ids := if options.ids.isEmpty then none else some (options.ids.map RecordId.text)
  limit := options.limit
  offset := options.offset
  terms := if options.terms.isEmpty then none else some options.termSet

/-- The id to look up, if the run is for a single record. -/
def lookupId (options : Options) : Option RecordId := options.get.map RecordId.text

/-- Whether a text names a log level: by a number from one to five, or by a word in any ASCII
case. -/
def isLogLevel (level : String) : Bool :=
  match Number.readNatural Number.maxNat64 level.toList with
  | .ok number => decide (1 ≤ number) && decide (number ≤ 5)
  | .error _ =>
      ["error", "warn", "info", "debug", "trace"].contains (Text.asciiLowercase level)

/-- All that is wrong with the options of a run. -/
def problems (options : Options) : List String :=
  options.searchConfig.problems ++
    (if isLogLevel options.logLevel then []
      else ["Unknown log level '" ++ options.logLevel ++ "'"])

end Options
end FieldSearch.Cli
