import FieldSearch.Cli.Options

/-!
# Reading a command line

Arguments are taken from left to right. An option is a name behind two dashes; its value follows
behind an equals sign or as the next argument. A value is held until the next option is met, and
only then read: an unknown argument is therefore reported before a bad value that precedes it.
Behind two dashes alone nothing more is expected. Options that were not given are taken from the
environment.
-/

namespace FieldSearch.Cli

/-- How an argument looks. -/
inductive Argument where
  /-- Two dashes. -/
  | terminator
  /-- A name behind two dashes, and what follows an equals sign. -/
  | long (name : List Char) (value : Option (List Char))
  /-- Letters behind one dash. -/
  | short (letters : List Char)
  /-- Anything else. -/
  | plain (text : List Char)
deriving DecidableEq, Repr

namespace Argument

/-- Takes an argument for what it looks like; a dash alone is plain. -/
def ofList : List Char → Argument
  | ['-', '-'] => .terminator
  | '-' :: '-' :: rest =>
      match Text.splitOnce '=' rest with
      | some (name, value) => .long name (some value)
      | none => .long rest none
  | '-' :: c :: rest => .short (c :: rest)
  | text => .plain text

/-- Whether characters, seen behind a minus sign, go on as a number: digits, a point among them
unless it comes first, and an `e` of either case that is neither first nor last. -/
def continuesNumber : (first pointAllowed expAllowed : Bool) → List Char → Bool
  | _, _, _, [] => true
  | first, pointAllowed, expAllowed, c :: rest =>
      if c.isDigit then continuesNumber false pointAllowed expAllowed rest
      else if c = '.' ∧ pointAllowed ∧ !first then continuesNumber false false expAllowed rest
      else if (c = 'e' ∨ c = 'E') ∧ expAllowed ∧ !first ∧ !rest.isEmpty then
        continuesNumber false false false rest
      else false

/-- Whether the letters behind a dash make it a negative number. -/
def isNumber (letters : List Char) : Bool := continuesNumber true true true letters

end Argument

/-- The state between two arguments: an option may be waiting for its value, or hold one that has
not been read yet. -/
structure Reading where
  given : Given := {}
  waiting : Option (Flag × Option String) := none
deriving DecidableEq, Repr

namespace Reading

/-- Reads the value that is held; an option still waiting for one is a fault. -/
def settle (reading : Reading) : Except UsageError Reading :=
  match reading.waiting with
  | none => pure reading
  | some (_, none) => throw .invalidValue
  | some (flag, some value) => do
      let given ← reading.given.accept flag value
      pure { given }

/-- Takes an option by its name. -/
def takeLong (reading : Reading) (name : List Char) (value : Option (List Char)) :
    Except UsageError Reading :=
  match Flag.ofName? (String.ofList name) with
  | none => throw .unknownArgument
  | some flag =>
      match flag.isSwitch, value with
      | true, some _ => throw .tooManyValues
      | true, none => do
          let reading ← reading.settle
          let given ← reading.given.accept flag ""
          pure { given }
      | false, some value => do
          let reading ← reading.settle
          let given ← reading.given.accept flag (String.ofList value)
          pure { given }
      | false, none => do
          let reading ← reading.settle
          pure { reading with waiting := some (flag, none) }

/-- Takes a value for the option that waits for one. -/
def takePlain (reading : Reading) (text : List Char) : Except UsageError Reading :=
  match reading.waiting with
  | some (flag, none) => pure { reading with waiting := some (flag, some (String.ofList text)) }
  | _ => throw .unknownArgument

/-- Whether letters behind a dash are a negative number that the waiting option takes. -/
def expectsNegative (reading : Reading) (letters : List Char) : Bool :=
  match reading.waiting with
  | some (flag, none) => flag.takesNegative && Argument.isNumber letters
  | _ => false

/-- Takes letters behind a dash: a negative number, or the request for help. -/
def takeShort (reading : Reading) (letters : List Char) : Except UsageError Reading :=
  if reading.expectsNegative letters then reading.takePlain ('-' :: letters)
  else if letters.head? = some 'h' then do
    discard reading.settle
    throw .displayHelp
  else throw .unknownArgument

/-- Takes all arguments. -/
def takeAll (reading : Reading) : List String → Except UsageError Reading
  | [] => pure reading
  | argument :: rest =>
      match Argument.ofList argument.toList with
      | .terminator => if rest.isEmpty then pure reading else throw .unknownArgument
      | .long name value => do
          let next ← reading.takeLong name value
          next.takeAll rest
      | .short letters => do
          let next ← reading.takeShort letters
          next.takeAll rest
      | .plain text => do
          let next ← reading.takePlain text
          next.takeAll rest

end Reading

/-- Adds what the environment gives for options that have not been given. -/
def Given.withEnvironment (environment : String → Option String) (given : Given) :
    Except UsageError Given :=
  Flag.environment.foldlM (fun (given : Given) entry =>
    match environment entry.2 with
    | some value => if given.has entry.1 then pure given else given.accept entry.1 value
    | none => pure given) given

/-- The options of a run from its arguments and its environment. -/
def Options.parse (environment : String → Option String) (arguments : List String) :
    Except UsageError Options := do
  let reading ← ({} : Reading).takeAll arguments
  let reading ← reading.settle
  let given ← reading.given.withEnvironment environment
  Options.ofGiven given

end FieldSearch.Cli
