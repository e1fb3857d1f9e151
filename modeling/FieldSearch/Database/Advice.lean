import FieldSearch.Database.Setting

/-!
# Advice on what should be known

A database tells which tables should be looked at, or looks at them itself: tables with an
index of which nothing is known, and, if all tables are meant, those that have changed much since
they were looked at. What is asked for is a number, given as the text of an argument.
-/

namespace FieldSearch.Database.Setting

/-! ## What is asked for -/

/-- The digits at the beginning of a text as a number of 32 bits, if they are one. -/
def digits32? (base : Nat) (isDigit : Char → Bool) (limit : Nat) (input : List Char) :
    Option Nat :=
  let digits := (input.dropWhile (· = '0')).takeWhile isDigit
  let n := digits.foldl (fun n c => n * base + (Number.hexValue? c).getD 0) 0
  if (input.head?.any isDigit) && decide (digits.length ≤ 10) && decide (n ≤ limit) then some n
  else none

/-- The number of 32 bits that an argument begins with, if it does. -/
def number32? (argument : String) : Option Int :=
  let limit := Number.maxInt32
  match argument.toList with
  | '-' :: rest => (digits32? 10 Char.isDigit (limit + 1) rest).map fun n => -n
  | '+' :: rest => (digits32? 10 Char.isDigit limit rest).map fun n => n
  | '0' :: x :: rest =>
      let isHexDigit (c : Char) : Bool := (Number.hexValue? c).isSome
      if (x = 'x' ∨ x = 'X') ∧ rest.head?.any isHexDigit then
        (digits32? 16 isHexDigit limit rest).map fun n => n
      else (digits32? 10 Char.isDigit limit ('0' :: x :: rest)).map fun n => n
  | all => (digits32? 10 Char.isDigit limit all).map fun n => n

/-- What an argument asks for, as the sum of `0x2` if tables are to be looked at, `0x1` if it is
only to be told which, `0x10` if only part of each is, and `0x10000` if all tables are meant. -/
def adviceAsked (argument : Option String) : Nat :=
  match argument with
  | none => 0xfffe
  | some argument => ((number32? argument).getD 0 % 0x100000000).toNat

/-- Whether a number has a power of two in it. -/
def hasFlag (flags flag : Nat) : Bool := flags / flag % 2 == 1

/-! ## Which tables -/

/-- The logarithm of a number to the base two in tenths, roughly. -/
def logarithm (n : Nat) : Nat :=
  let tenths := [0, 2, 3, 5, 6, 7, 8, 9]
  if n < 2 then 0
  else if n < 8 then
    let shift := 3 - n.log2
    tenths.getD (n * Number.twoPow shift % 8) 0 + 30 - 10 * shift
  else
    let shift := n.log2 - 3
    tenths.getD (n / Number.twoPow shift % 8) 0 + 30 + 10 * shift

/-- The logarithm of the number of rows that a table is taken to have as long as nothing is known of
it. -/
def unknownSize : Nat := 200

/-- The difference of logarithms at which what is known is out of date. -/
def greatChange : Nat := 33

/-- Whether it is of interest what is known of a table: of all tables if they are meant, and else of
those with an index of which nothing is known. -/
def isOfInterest (database : Database) (flags : Nat) (table : Table) : Bool :=
  hasFlag flags 0x10000 || (table.hasIndex && (Statistics.known? database table).isNone)

/-- The tables of which it is of interest what is known. -/
def ofInterest (database : Database) (flags : Nat) : List Table :=
  if !hasFlag flags 2 then []
  else
    (tableOrder database).filterMap fun name => do
      let table ← database.table? name
      if !isReserved name && isOfInterest database flags table then some table else none

/-- Whether a table should be looked at: one with an index of which nothing is known, unless it is
empty, and another when it has grown or shrunk to a tenth. -/
def isOutdated (database : Database) (table : Table) : Bool :=
  let known := Statistics.known? database table
  if table.hasIndex && known.isNone then !table.rows.isEmpty
  else
    let known := (known.map logarithm).getD unknownSize
    let size := logarithm table.rows.length
    if table.rows.isEmpty then greatChange ≤ known
    else size + greatChange < known || known + greatChange < size

/-- The tables that should be looked at. -/
def outdated (database : Database) (flags : Nat) : List Table :=
  (ofInterest database flags).filter (isOutdated database)

/-! ## Telling and looking -/

/-- Whether tables are only told, and not looked at. -/
def isAdvice (flags : Nat) : Bool := hasFlag flags 1

/-- Whether the database is made ready to be changed: at once where several tables are of interest,
and otherwise when one is looked at. -/
def needsChange (database : Database) (flags : Nat) : Bool :=
  decide (2 ≤ (ofInterest database flags).length) ||
    (!isAdvice flags && !(outdated database flags).isEmpty)

/-- The statements that look at the tables that should be looked at. Where these are carried out at
once there is nothing to tell. -/
def advice (knowledge : Knowledge) (flags : Nat) : Except Fault (List (List Cell)) :=
  if knowledge.settings.isReadOnly && needsChange knowledge.database flags then
    throw .readOnlyDatabase
  else if isAdvice flags then
    pure ((outdated knowledge.database flags).map fun table =>
      [.text ("ANALYZE \"main\"." ++ Text.quoteIdentifier table.name)])
  else pure []

/-- The database when the tables that should be looked at have been. Samples are taken unless only
part of each table is looked at. -/
def optimized (flags : Nat) (database : Database) : Database :=
  if isAdvice flags then database
  else
    (outdated database flags).foldl (fun database table =>
      database.analyze table.name !(hasFlag flags 0x10)) database

/-- The setting that gives advice, or follows it. -/
def optimize : Setting where
  name := "optimize"
  columns := ["optimize"]
  takesArgument := true
  effect settings argument database :=
    if settings.isReadOnly then database else optimized (adviceAsked argument) database
  answer _ knowledge _ argument := advice knowledge (adviceAsked argument)

end FieldSearch.Database.Setting
