import FieldSearch.Cli.Arguments
import FieldSearch.Cli.Folder
import FieldSearch.Json.Printer
import FieldSearch.Query.Resolver
import FieldSearch.Schema.Codec

/-!
# The program

A run reads a record type from a file, opens a database, inserts seed records if there are any,
and prints the records that a request selects, or the statement that would select them. What a run
can see and change is a folder of text files and databases. A run that fails reports its failure
with the causes, and what it had inserted until then stays inserted.
-/

namespace FieldSearch.Cli

/-- A fault of a store as the failure of a run. -/
def Failure.ofStorage (error : StorageError) : Failure := ⟨error.message, error.causes⟩

/-- Reads a file and what it holds. -/
def readFile {α : Type} (folder : Folder) (decoder : Json.Decoder α)
    (path unreadable invalid : String) : Except Failure α := do
  let text ← (folder.read path).mapError fun fault => ⟨unreadable, [fault.message]⟩
  (decoder.parse text).mapError fun fault => ⟨invalid, [fault.message]⟩

/-- Reads the record type of a run. -/
def loadSchema (folder : Folder) (path : String) : Except Failure Schema :=
  readFile folder Schema.decoder path ("Failed to read schema file " ++ path)
    ("Invalid record schema in " ++ path)

/-- Reads the seed records of a run. -/
def loadSeed (folder : Folder) (path : String) : Except Failure (List Record) :=
  readFile folder (.list Record.decoder) path ("Failed to read seed file " ++ path)
    ("Seed file " ++ path ++ " is not a JSON array of records")

/-- Opens the store of a run. -/
def openStore (folder : Folder) (options : Options) : Except Failure FileStore :=
  match options.backend with
  | .sqlite => (folder.store options.databasePath).open?.outcome.mapError .ofStorage
  | .postgres =>
      throw ⟨"The postgres backend requires the 'postgres' feature. " ++
        "Build with: cargo build -p quarry-cli --features postgres", []⟩

/-- Inserts records one by one until one fails. -/
def insertAll (schema : Schema) : Store → List Record → Except StorageError Unit × Store
  | store, [] => (pure (), store)
  | store, record :: rest =>
      match store.insert schema record with
      | (.ok (), next) => insertAll schema next rest
      | (.error error, next) => (throw error, next)

/-- Creates the table and inserts the seed records of a run. -/
def seed (folder : Folder) (options : Options) (schema : Schema) (store : Store) :
    Except Failure Unit × Store :=
  match options.seed with
  | none => (pure (), store)
  | some path =>
      match loadSeed folder path with
      | .error failure => (throw failure, store)
      | .ok records =>
          match store.ensureTable schema with
          | (.error error, next) => (throw (.ofStorage error), next)
          | (.ok (), next) =>
              let (inserted, last) := insertAll schema next records
              (inserted.mapError .ofStorage, last)

/-- The lines that explain a request: the statement, and what the terms came to. -/
def explain (options : Options) (schema : Schema) (resolver : Resolver) :
    Except StorageError (List String) := do
  let prepared ←
    match options.lookupId with
    | some id => (resolver.prepareLookup schema id).outcome
    | none => (resolver.prepareList schema options.listRequest).outcome
  let head :=
    [prepared.fragment.sql, s!"-- {prepared.fragment.params.length} parameter(s)"]
  if options.get.isNone && !options.terms.isEmpty then
    let compiled ← (resolver.compiler.compileTerms schema options.termSet).mapError .search
    pure (head ++ ["-- strategy: " ++ resolver.compiler.strategy.name,
      "-- predicate: " ++ compiled.predicate.toJson.print])
  else pure head

/-- The records of a request, a line for each. -/
def answer (options : Options) (schema : Schema) (resolver : Resolver) (store : Store) :
    Except StorageError (List String) := do
  let records ←
    match options.lookupId with
    | some id => (resolver.lookup store schema id).1.outcome.map fun record => [record]
    | none => (resolver.list store schema options.listRequest).1.outcome
  pure (records.map fun record => record.toJson.print)

/-- What a run prints once its store is filled. -/
def respond (options : Options) (schema : Schema) (store : Store) :
    Except StorageError (List String) := do
  let resolver ← (Resolver.create store options.searchConfig).outcome
  if options.explain then explain options schema resolver
  else answer options schema resolver store

/-- A run with options that have been checked. -/
def execute (folder : Folder) (options : Options) : Except Failure (List String) × Folder :=
  match loadSchema folder options.schema with
  | .error failure => (throw failure, folder)
  | .ok schema =>
      match openStore folder options with
      | .error failure => (throw failure, folder)
      | .ok files =>
          let (seeded, store) := seed folder options schema (.file files)
          let folder := match store with
            | .file files => folder.save files
            | .recorder _ => folder
          match seeded with
          | .error failure => (throw failure, folder)
          | .ok () => ((respond options schema store).mapError .ofStorage, folder)

/-! ## Reporting -/

/-- A text whose lines after the first are indented. -/
def indented (first others text : String) : List String :=
  match (Text.splitAll (· = '\n') text.toList).map String.ofList with
  | [] => [first]
  | line :: lines => (first ++ line) :: lines.map (others ++ ·)

/-- The causes of a failure, numbered when there are several. -/
def causeLines (causes : List String) : List String :=
  match causes with
  | [cause] => indented "    " "    " cause
  | causes => (causes.zipIdx.map fun (cause, number) =>
      let digits := toString number
      let pad := String.ofList (List.replicate (5 - digits.length) ' ')
      indented (pad ++ digits ++ ": ") "       " cause).flatten

/-- A failure as it is reported. -/
def Failure.report (failure : Failure) : List String :=
  indented "Error: " "" failure.message ++
    (if failure.causes.isEmpty then [] else ["", "Caused by:"] ++ causeLines failure.causes)

/-- What a run comes to. -/
structure RunResult where
  code : Nat
  output : List String := []
  errors : List String := []

/-- A run with its arguments and its environment. -/
def run (folder : Folder) (environment : String → Option String) (arguments : List String) :
    RunResult × Folder :=
  match Options.parse environment arguments with
  | .error .displayHelp => ({ code := 0, output := Flag.usage }, folder)
  | .error error => ({ code := 2, errors := ["error: " ++ error.message] }, folder)
  | .ok options =>
      match options.problems with
      | [] =>
          match execute folder options with
          | (.ok output, next) => ({ code := 0, output }, next)
          | (.error failure, next) => ({ code := 1, errors := failure.report }, next)
      | problems =>
          ({ code := 1, errors := problems.map ("Configuration error: " ++ ·) }, folder)

end FieldSearch.Cli
