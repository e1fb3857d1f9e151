import FieldSearch.Cli.Program
import FieldSearch.Database.Codec

/-!
# Running the program

The arguments and the environment are taken as they are, the files that the options name are read
before the run, and what the run comes to is printed: the output on one stream, the errors on the
other. A database file holds the database in JSON; a file that is missing or empty holds the
database without tables, and it is written after the run if the run has changed it.
-/

namespace FieldSearch.Cli

/-- The variables of the environment that options are taken from. -/
def readEnvironment : IO (List (String × String)) :=
  Flag.environment.filterMapM fun entry => do
    let value ← IO.getEnv entry.2
    return value.map fun value => (entry.2, value)

/-- The text of a file, if it can be read. -/
def readText? (path : String) : IO (Option String) := do
  try
    let text ← IO.FS.readFile path
    return some text
  catch _ => return none

/-- The directory of a file, with a slash at the end, so that no other file is taken for one. -/
def directoryOf (path : String) : String :=
  match (path.toList.reverse.dropWhile (· ≠ '/')).reverse with
  | [] => "./"
  | directory => String.ofList directory

/-- Whether there is a directory under a path. -/
def isDirectory (path : String) : IO Bool := do
  try
    IO.FS.withFile path .read fun _ => return true
  catch _ => return false

/-- The database that a text holds. -/
def databaseOf? (text : String) : Option Database :=
  if text.isEmpty then some .empty
  else
    match Json.Decoder.value.parse text with
    | .ok value => Database.ofJson? value
    | .error _ => none

/-- The file of a database under a path, if there is one. -/
def databaseFile? (path : String) : Option String :=
  match Location.ofPath path with
  | .ok location => location.file
  | .error _ => none

/-- The files that the options name. A database is held only where its directory is, and a file that
holds no database stays a text. -/
def readFolder (options : Options) : IO Folder := do
  let texts ← (options.schema :: options.seed.toList).filterMapM fun path => do
    let text ← readText? path
    return text.map fun text => (path, text)
  match if options.backend == .sqlite then databaseFile? options.databasePath else none with
  | none => return { texts }
  | some file =>
      let name := Path.plain file
      let hasDirectory ← isDirectory (directoryOf file)
      let folder : Folder := { texts, holds := fun _ => hasDirectory }
      match ← readText? file with
      | none => return folder
      | some text =>
          match databaseOf? text with
          | some database =>
              return { folder with databases := [(name, database)], logged := [name] }
          | none => return { folder with texts := (name, text) :: texts }

/-- Writes the databases of a folder that differ from those that were there before. -/
def writeDatabases (before after : Folder) : IO Unit :=
  for (path, database) in after.databases do
    if before.databases.lookup path != some database then
      IO.FS.writeFile path database.toJson.print

end FieldSearch.Cli

/-- Runs the program; the result is its exit code. -/
def main (arguments : List String) : IO UInt32 := do
  let values ← FieldSearch.Cli.readEnvironment
  let environment (name : String) := values.lookup name
  let folder ←
    match FieldSearch.Cli.Options.parse environment arguments with
    | .ok options => FieldSearch.Cli.readFolder options
    | .error _ => pure {}
  let (result, after) := FieldSearch.Cli.run folder environment arguments
  result.output.forM IO.println
  result.errors.forM IO.eprintln
  FieldSearch.Cli.writeDatabases folder after
  return result.code.toUInt32
