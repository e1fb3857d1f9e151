import FieldSearch.Number.Digits
import FieldSearch.Text.Lowercase
import FieldSearch.Text.PercentCode
import FieldSearch.Text.Split
import FieldSearch.Text.Utf8

/-!
# Where a database is kept

A store is opened under a path, which is the path of a file, stands for a database in memory, or is
an address: `file:`, the path with percent codes, and parameters that say how the file is used. Of
an address all behind a number sign is left out. A database without a file goes with its store.

Parameters are taken one after the other. A later one may narrow how a file is used, and only a
database in memory may be turned into a file again.
-/

namespace FieldSearch

/-- How a database file is used. -/
inductive Access where
  | readOnly
  | readWrite
  /-- For reading and writing, and the file is created if it is not there. -/
  | create
deriving DecidableEq, Repr

namespace Access

/-- The ways under their names. -/
def named : List (String × Access) := [("ro", .readOnly), ("rw", .readWrite), ("rwc", .create)]

/-- The place of a way among all of them; a greater one allows more. -/
def rank : Access → Nat
  | .readOnly => 0
  | .readWrite => 1
  | .create => 2

end Access

/-- Why a database cannot be opened. -/
inductive OpeningFault where
  /-- An address on another machine. -/
  | authority (name : String)
  | unknownMode (mode : String)
  | widerMode (mode : String)
  | unknownCache (mode : String)
  | unknownSystem (name : String)
  /-- The file is not there and is not to be created, or cannot be. -/
  | unreachable (path : String)
  /-- The file holds something else. -/
  | noDatabase
  /-- The log of changes cannot be begun without a change. -/
  | readOnly
  /-- There is no room for a log of changes, or no way to the one that there is. -/
  | noLog
  /-- What is there cannot be read or written like a file. -/
  | inputOutput
deriving DecidableEq, Repr

/-- The wording of the fault. -/
def OpeningFault.message : OpeningFault → String
  | .authority name => "invalid uri authority: " ++ name
  | .unknownMode mode => "no such access mode: " ++ mode
  | .widerMode mode => "access mode not allowed: " ++ mode
  | .unknownCache mode => "no such cache mode: " ++ mode
  | .unknownSystem name => "no such vfs: " ++ name
  | .unreachable path => "unable to open database file: " ++ path
  | .noDatabase => "file is not a database"
  | .readOnly => "attempt to write a readonly database"
  | .noLog => "unable to open database file"
  | .inputOutput => "disk I/O error"

/-- Whether the fault is found on a connection, and not in opening one. -/
def OpeningFault.isOfConnection : OpeningFault → Bool
  | .noDatabase | .readOnly | .noLog | .inputOutput => true
  | _ => false

/-- Where a database is kept, and how. -/
structure Location where
  /-- The file of the database; without one it goes with its store. -/
  file : Option String := none
  access : Access := .create
  /-- Whether the file is taken for one that nobody changes, whatever log there is. -/
  isFrozen : Bool := false
  /-- Whether a log of changes can be kept beside the file. -/
  canLog : Bool := true
deriving DecidableEq, Repr

namespace Location

/-- Whether a log of changes is kept. -/
def keepsLog (location : Location) : Bool := location.canLog && !location.isFrozen

/-- Whether the database must not be changed. -/
def readOnly (location : Location) : Bool := location.access = .readOnly || location.isFrozen

/-- The path that stands for a database in memory. -/
def memoryPath : String := ":memory:"

/-! ## Addresses -/

/-- The text of a part of an address, which a zero byte ends. -/
def partText (part : List Char) : String :=
  let bytes := Text.PercentCode.decode (Text.Utf8.encode part)
  String.ofList (Text.Utf8.decodeLossy (bytes.takeWhile (· != 0)))

/-- A parameter of an address; it has no value without an equals sign. -/
def parameter (part : List Char) : String × String :=
  let (name, value) := (Text.splitOnce '=' part).getD (part, [])
  (partText name, partText value)

/-- Whether a value says yes: by a word, or by a number whose last byte is not zero. -/
def saysYes (value : String) : Bool :=
  match Number.readNatural Number.maxInt32 (value.toList.takeWhile Char.isDigit) with
  | .ok number => number % 256 != 0
  | .error _ => ["on", "yes", "true"].contains (Text.asciiLowercase value)

/-- Whether parameters switch something on; the first that names it decides. -/
def switchedOn (parameters : List (String × String)) (name : String) : Bool :=
  (parameters.lookup name).any saysYes

/-- What the parameters of an address ask for. -/
structure Demand where
  /-- How the file is used, if it is one. -/
  access : Option Access := some .create
  /-- The way to a file system, the usual one if none is named. -/
  system : String := "unix"

/-- The way to a file system that is in memory. -/
def memorySystem : String := "memdb"

/-- The ways to a file system that have no room for a log of changes. -/
def plainSystems : List String := ["unix-none", "unix-dotfile"]

/-- The ways to a file system that there are. -/
def systems : List String := ["unix", "unix-excl", memorySystem] ++ plainSystems

/-- What a parameter makes of a demand; parameters without a meaning here are let pass. -/
def Demand.apply (demand : Demand) (name value : String) : Except OpeningFault Demand :=
  match name with
  | "vfs" => pure { demand with system := value }
  | "cache" =>
      if value == "shared" || value == "private" then pure demand
      else throw (.unknownCache value)
  | "mode" =>
      if value == "memory" then pure { demand with access := none }
      else
        match Access.named.lookup value, demand.access with
        | none, _ => throw (.unknownMode value)
        | some access, some earlier =>
            if earlier.rank < access.rank then throw (.widerMode value)
            else pure { demand with access := some access }
        | some access, none => pure { demand with access := some access }
  | _ => pure demand

/-- The location of a path for a demand and the switches beside it. -/
def Demand.locate (demand : Demand) (name : String) (isFrozen isUnlocked : Bool) : Location :=
  let access := demand.access.getD .create
  if demand.access.isNone || demand.system == memorySystem || name == memoryPath || name.isEmpty
  then { access }
  else
    { file := some name, access, isFrozen,
      canLog := !isUnlocked && !plainSystems.contains demand.system }

/-- What follows the machine in an address. Behind two slashes the machine is named, which has to be
this one. -/
def afterMachine (address : List Char) : Except OpeningFault (List Char) :=
  match address with
  | '/' :: '/' :: rest =>
      let machine := String.ofList (rest.takeWhile (· != '/'))
      if machine.isEmpty || machine == "localhost" then pure (rest.dropWhile (· != '/'))
      else throw (.authority machine)
  | other => pure other

/-- The location of an address whose scheme has been read. -/
def ofAddress (address : List Char) : Except OpeningFault Location := do
  let address := (← afterMachine address).takeWhile (· != '#')
  let (path, query) := (Text.splitOnce '?' address).getD (address, [])
  let parameters := ((Text.splitAll (· = '&') query).map parameter).filter (!·.1.isEmpty)
  let demand ← parameters.foldlM (fun demand (name, value) => demand.apply name value)
    ({} : Demand)
  if !systems.contains demand.system then throw (.unknownSystem demand.system)
  pure (demand.locate (partText path) (switchedOn parameters "immutable")
    (switchedOn parameters "nolock"))

/-- The location of a path. -/
def ofPath (path : String) : Except OpeningFault Location :=
  match Text.withoutStart? "file:".toList path.toList with
  | some address => ofAddress address
  | none => pure (({} : Demand).locate path false false)

end Location
end FieldSearch
