import FieldSearch.Cli.Path
import FieldSearch.Store.Basic

/-!
# Folders

What a run can see and change of the files of a machine: a folder of texts and databases, which is
where relative paths begin. Of the directories around the folder no more is known than that they
are there, and of those at the root what every machine has.

A path is walked part by part, and the first part that cannot be walked decides the fault.

## Main results

* `save_transient`: a database that goes with its store leaves no trace in the folder.
-/

namespace FieldSearch.Cli

/-- Why a file cannot be read. -/
inductive FileFault where
  | notFound
  | notDirectory
  | isDirectory
  | nameTooLong
  | notText
deriving DecidableEq, Repr

/-- The wording of the fault. -/
def FileFault.message : FileFault → String
  | .notFound => "No such file or directory (os error 2)"
  | .notDirectory => "Not a directory (os error 20)"
  | .isDirectory => "Is a directory (os error 21)"
  | .nameTooLong => "File name too long (os error 36)"
  | .notText => "stream did not contain valid UTF-8"

/-- What a file holds. -/
inductive Contents where
  | text (text : String)
  | database (database : Database)

/-- Where a walk along a path has come to. -/
inductive Place where
  | folder
  /-- A directory around the folder. -/
  | around
  /-- A directory that is reached from the root. -/
  | system (names : List String)
  | file (contents : Contents)

/-- The greatest number of bytes in the name of a file. -/
def maxFileName : Nat := 255

/-- The number of bytes for which a path has room, the closing zero included. -/
def maxPath : Nat := 4096

/-- The greatest number of bytes in the name of a database that leaves room for its log. -/
def maxLoggedName : Nat := maxFileName - "-journal".utf8ByteSize

/-- The file that keeps nothing. -/
def nullDevice : String := "/dev/null"

/-- The directories at the root. -/
def systemDirectories : List String :=
  ["bin", "boot", "dev", "etc", "home", "lib", "media", "mnt", "opt", "proc", "root", "run",
    "sbin", "srv", "sys", "tmp", "usr", "var"]

/-- The files that a run can see. -/
structure Folder where
  texts : List (String × String) := []
  databases : List (String × Database) := []
  /-- The databases that have a log of changes. -/
  logged : List String := []
  /-- Whether a database can be kept under a path in plain form. -/
  holds : String → Bool := fun path =>
    !path.toList.contains '/' && path != "" && path != ".." && path.utf8ByteSize ≤ maxFileName

namespace Folder

/-- The file of a name. -/
def file? (folder : Folder) (name : String) : Option Contents :=
  ((folder.databases.lookup name).map .database).or ((folder.texts.lookup name).map .text)

/-! ## Reading -/

/-- One step of a walk. -/
def step (folder : Folder) (place : Place) (part : String) : Except FileFault Place :=
  if let .file _ := place then throw .notDirectory
  else if part == "" || part == "." then pure place
  else if part == ".." then
    pure (match place with
      | .system names => .system names.dropLast
      | _ => .around)
  else if maxFileName < part.utf8ByteSize then throw .nameTooLong
  else
    match place with
    | .folder =>
        match folder.file? part with
        | some contents => pure (.file contents)
        | none => throw .notFound
    | .system [] =>
        if systemDirectories.contains part then pure (.system [part]) else throw .notFound
    | .system ["dev"] => if part == "null" then pure (.file (.text "")) else throw .notFound
    | _ => throw .notFound

/-- The place that a path leads to. -/
def walk (folder : Folder) (path : String) : Except FileFault Place :=
  if path.isEmpty then throw .notFound
  else if maxPath ≤ path.utf8ByteSize then throw .nameTooLong
  else
    (Path.parts path).foldlM folder.step
      (if Path.isAbsolute path then .system [] else .folder)

/-- Whether a path in plain form leads to a directory. -/
def isDirectory (folder : Folder) (name : String) : Bool :=
  match folder.walk (if name.isEmpty then "." else name) with
  | .ok (.file _) | .error _ => false
  | .ok _ => true

/-- The text of a file, or the reason why it cannot be read. -/
def read (folder : Folder) (path : String) : Except FileFault String := do
  let place ←
    match folder.file? path with
    | some contents => pure (.file contents)
    | none => folder.walk path
  match place with
  | .file (.text text) => pure text
  | .file (.database _) => throw .notText
  | _ => throw .isDirectory

/-! ## Databases -/

/-- The database in a file; `path` is how the file was asked for. An empty file holds the database
without tables. -/
def contents (folder : Folder) (path name : String) (access : Access) :
    Except OpeningFault Database :=
  if name == nullDevice then pure .empty
  else if folder.isDirectory name && access = .readOnly then throw .inputOutput
  else if !folder.holds name then throw (.unreachable path)
  else
    match folder.file? name with
    | some (.database database) => pure database
    | some (.text text) => if text.isEmpty then pure .empty else throw .noDatabase
    | none => if access = .create then pure .empty else throw (.unreachable path)

/-- Why a file cannot be opened for its log of changes, if it cannot: a log is begun by a change and
takes room, and it cannot be passed over unless nobody changes the file. -/
def logFault? (folder : Folder) (name : String) (location : Location) : Option OpeningFault :=
  let isLogged := folder.logged.contains name
  if location.keepsLog then
    if maxLoggedName < name.utf8ByteSize then some .noLog
    else if isLogged then none
    else if location.readOnly then some .readOnly
    else if name == nullDevice then some .inputOutput
    else none
  else if isLogged && !location.isFrozen then some .noLog
  else none

/-- The store of a path: with the database that is there, or a new one. -/
def store (folder : Folder) (path : String) : FileStore :=
  let store := FileStore.ofPath path {}
  match store.location.file with
  | none => store
  | some file =>
      let name := Path.plain file
      match folder.contents path name store.location.access,
        folder.logFault? name store.location with
      | .error fault, _ | .ok _, some fault => { store with refusal := some fault }
      | .ok database, none => { store with database }

/-- The folder with the database of a store put under its path. Without tables and without a log it
is an empty file. -/
def save (folder : Folder) (store : FileStore) : Folder :=
  match store.location.file, store.refusal with
  | some file, none =>
      let name := Path.plain file
      let logged :=
        if store.location.keepsLog then name :: folder.logged else folder.logged
      if store.database.tables.isEmpty && !logged.contains name then
        { folder with texts := (name, "") :: folder.texts }
      else
        { folder with
          logged
          databases := (name, store.database) ::
            folder.databases.filter fun entry => entry.1 != name }
  | _, _ => folder

theorem save_transient (folder : Folder) (store : FileStore) (h : store.location.file = none) :
    folder.save store = folder := by
  simp [save, h]

end Folder
end FieldSearch.Cli
