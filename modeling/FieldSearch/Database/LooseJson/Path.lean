import FieldSearch.Database.LooseJson.Basic

/-!
# Paths into JSON

A path leads from a value to a part of it, step by step: a point and a name lead to the entry of an
object, a number between brackets leads to an item of a list, and a number behind `#-` counts from
the end. A name may stand between double quotes. A step that leads nowhere ends the walk, and what
is behind it is not read.
-/

namespace FieldSearch.Database.LooseJson

/-- A part of a value with its place, counted in bytes. -/
structure Spot where
  value : LooseJson
  /-- Where the value begins. -/
  offset : Nat := 0
  /-- Where its label begins, if it stands in an object. -/
  labelOffset : Option Nat := none

namespace Spot

/-- Where the part begins, its label included; this is the number by which it is known. -/
def place (spot : Spot) : Nat := spot.labelOffset.getD spot.offset

/-- Where the first part of the part begins. -/
def inside (spot : Spot) : Nat := spot.offset + spot.value.ownHeader

end Spot

/-- What a path leads to. -/
inductive Finding where
  | found (spot : Spot)
  | missing
  /-- The path cannot be read. -/
  | unreadable

/-! ## Steps -/

/-- The name of a step behind its point as code points, and what follows; a backslash counts as
an escape only between quotes. -/
def nameStep? : List Char → Option (List Nat × List Char)
  | '"' :: rest =>
      match rest.dropWhile (· ≠ '"') with
      | [] => none
      | _ :: others =>
          let written := rest.takeWhile (· ≠ '"')
          let spelling : Spelling := if written.contains '\\' then .escaped else .plain
          some (Literal.codes { spelling, written := String.ofList written }, others)
  | rest =>
      let goesOn (c : Char) : Bool := c ≠ '.' && c ≠ '['
      match rest.takeWhile goesOn with
      | [] => none
      | name => some (name.map Char.toNat, rest.dropWhile goesOn)

/-- The number of digits, which wraps around. -/
def wrapped (digits : List Char) : Nat :=
  digits.foldl (fun n c => (n * 10 + (c.toNat - '0'.toNat)) % 0x100000000) 0

/-- The index of a step behind its bracket, and what follows, in a list of `count` items; no index
if it lies in front of the list. -/
def indexStep? (count : Nat) (input : List Char) : Option (Option Nat × List Char) :=
  match input.takeWhile Char.isDigit, input.dropWhile Char.isDigit with
  | first :: digits, ']' :: rest => some (some (wrapped (first :: digits)), rest)
  | [], '#' :: ']' :: rest => some (some count, rest)
  | [], '#' :: '-' :: rest =>
      match rest.takeWhile Char.isDigit, rest.dropWhile Char.isDigit with
      | [], _ => none
      | digits, others =>
          let back := wrapped digits
          if count < back then some (none, others)
          else
            match others with
            | ']' :: others => some (some (count - back), others)
            | _ => none
  | _, _ => none

/-- Whether names are the same, as far as they go in front of a NUL. -/
def sameName (left right : List Nat) : Bool :=
  left.takeWhile (· ≠ 0) == right.takeWhile (· ≠ 0)

/-- The entry of a name among entries that begin at an offset. -/
def entry? (name : List Nat) : (offset : Nat) → List (Literal × LooseJson) → Option Spot
  | _, [] => none
  | offset, (label, value) :: rest =>
      let next := offset + literalBytes label
      if sameName label.codes name then
        some { value, offset := next, labelOffset := some offset }
      else entry? name (next + value.bytes) rest

/-- The item of an index among items that begin at an offset. -/
def item? : (index offset : Nat) → List LooseJson → Option Spot
  | _, _, [] => none
  | 0, offset, value :: _ => some { value, offset }
  | index + 1, offset, value :: rest => item? index (offset + value.bytes) rest

/-! ## Walks -/

/-- What the steps of a path lead to from a part, at most `fuel` of them. -/
def lookup : (fuel : Nat) → Spot → List Char → Finding
  | _, spot, [] => .found spot
  | 0, _, _ :: _ => .unreadable
  | fuel + 1, spot, '.' :: rest =>
      match nameStep? rest, spot.value with
      | none, _ => .unreadable
      | some (name, others), .object entries =>
          match entry? name spot.inside entries with
          | some next => lookup fuel next others
          | none => .missing
      | some _, _ => .missing
  | fuel + 1, spot, '[' :: rest =>
      match spot.value with
      | .list items =>
          match indexStep? items.length rest with
          | none => .unreadable
          | some (none, _) => .missing
          | some (some index, others) =>
              match item? index spot.inside items with
              | some next => lookup fuel next others
              | none => .missing
      | _ => .missing
  | _ + 1, _, _ :: _ => .unreadable

/-- What a path leads to from a value. A path begins with a dollar sign. -/
def find (value : LooseJson) : (path : List Char) → Finding
  | '$' :: steps => lookup steps.length { value } steps
  | _ => .unreadable

/-- Whether a part is the first one of another. -/
def Spot.isFirstIn (spot : Spot) : Finding → Bool
  | .found whole => whole.inside == spot.place
  | _ => false

/-- The number of characters in front of the last step of a path to a part, which is told only of
the first part of a value; for others it is one. -/
def beforeLastStep (value : LooseJson) (spot : Spot) (path : List Char) : Nat → Nat
  | 0 | 1 => 1
  | count + 1 =>
      let isStep := match path.drop count with
        | c :: _ => c = '[' || c = '.'
        | [] => false
      if isStep && spot.isFirstIn (value.find (path.take count)) then count
      else beforeLastStep value spot path count

/-- The key that a step shows: the number at the beginning of an index, or a name. -/
def stepKey : List Char → Cell
  | '[' :: rest =>
      .integer (min (Number.maxInt64) ((rest.takeWhile Char.isDigit).foldl
        (fun n c => n * 10 + ((c.toNat : Int) - '0'.toNat)) 0))
  | _ :: '"' :: rest => .text (String.ofList rest.dropLast)
  | _ :: rest => .text (String.ofList rest)
  | [] => .null

end FieldSearch.Database.LooseJson
