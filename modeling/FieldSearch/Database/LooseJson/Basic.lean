import FieldSearch.Database.Cell

/-!
# JSON taken loosely

JSON as a database takes it: beside what the standard allows, names without quotes, texts between
single quotes, hexadecimal numbers, numbers that begin or end with a point, and some more. A value
keeps the digits and characters with which it was written. It is stored as a header, which holds its
kind and the size of what follows, and its parts behind it.
-/

namespace FieldSearch.Database

open Number (Binary64 hexValue?)

/-- How the characters of a text are written. -/
inductive Spelling where
  /-- As they are. -/
  | plain
  /-- With escapes of the standard. -/
  | escaped
  /-- With escapes beyond the standard, or characters that should be escaped. -/
  | loose
deriving DecidableEq, Repr

/-- A text as it is written between its quotes. -/
structure Literal where
  spelling : Spelling := .plain
  written : String
deriving DecidableEq, Repr

/-- A value as it is written. -/
inductive LooseJson where
  | null
  | bool (value : Bool)
  | integer (digits : String) (isHex : Bool)
  /-- A number with a point or an exponent; `isPartial` tells that digits beside the point lack. -/
  | real (digits : String) (isPartial : Bool)
  | text (literal : Literal)
  | list (items : List LooseJson)
  | object (entries : List (Literal × LooseJson))

/-! ## Characters of a text -/

namespace Literal

/-- The code point of four hexadecimal digits. -/
def codeUnit? (a b c d : Char) : Option Nat :=
  match hexValue? a, hexValue? b, hexValue? c, hexValue? d with
  | some a, some b, some c, some d => some (((a * 16 + b) * 16 + c) * 16 + d)
  | _, _, _, _ => none

/-- Characters behind the line breaks in front of them that are escaped. -/
def skipBreaks : List Char → List Char
  | '\\' :: '\r' :: '\n' :: rest => skipBreaks rest
  | '\\' :: '\n' :: rest => skipBreaks rest
  | '\\' :: '\r' :: rest => skipBreaks rest
  | '\\' :: '\u2028' :: rest => skipBreaks rest
  | '\\' :: '\u2029' :: rest => skipBreaks rest
  | rest => rest

/-- The characters that a single letter behind a backslash stands for, if it is one. -/
def ofLetter? : Char → Option Char
  | 'b' => some '\x08'
  | 'f' => some '\x0c'
  | 'n' => some '\n'
  | 'r' => some '\r'
  | 't' => some '\t'
  | 'v' => some '\x0b'
  | '0' => some '\x00'
  | '\'' => some '\''
  | '"' => some '"'
  | '/' => some '/'
  | '\\' => some '\\'
  | _ => none

/-- The code points that written characters stand for, at most `fuel` of them. Two halves of a pair
come together, and a break at the end stands for a NUL. -/
def unescape : (fuel : Nat) → List Char → List Nat
  | 0, _ => []
  | _, [] => []
  | fuel + 1, '\\' :: rest =>
      match rest with
      | 'u' :: a :: b :: c :: d :: rest =>
          let code := (codeUnit? a b c d).getD 0
          let low := match rest with
            | '\\' :: 'u' :: e :: f :: g :: h :: _ => (codeUnit? e f g h).getD 0
            | _ => 0
          if 0xd800 ≤ code ∧ code < 0xdc00 ∧ 0xdc00 ≤ low ∧ low < 0xe000 then
            ((code - 0xd800) * 0x400 + (low - 0xdc00) + 0x10000) :: unescape fuel (rest.drop 6)
          else code :: unescape fuel rest
      | 'x' :: a :: b :: rest => (codeUnit? '0' '0' a b).getD 0 :: unescape fuel rest
      | c :: rest =>
          match ofLetter? c with
          | some c => c.toNat :: unescape fuel rest
          | none =>
              match skipBreaks ('\\' :: c :: rest) with
              | [] => [0]
              | others => unescape fuel others
      | [] => []
  | fuel + 1, c :: rest => c.toNat :: unescape fuel rest

/-- The code points that a literal stands for. -/
def codes (literal : Literal) : List Nat :=
  let written := literal.written.toList
  match literal.spelling with
  | .plain => written.map Char.toNat
  | _ => unescape (written.length + 1) written

/-- The text that a literal stands for, as a cell. -/
def cell (literal : Literal) : Cell :=
  match literal.spelling with
  | .plain => .text literal.written
  | _ => .ofCodes literal.codes

/-- A control character as an escape of the standard. -/
def controlEscape (c : Char) : List Char :=
  if c.toNat = 8 then ['\\', 'b']
  else if c.toNat = 9 then ['\\', 't']
  else if c.toNat = 10 then ['\\', 'n']
  else if c.toNat = 12 then ['\\', 'f']
  else if c.toNat = 13 then ['\\', 'r']
  else
    ['\\', 'u', '0', '0', if c.toNat < 16 then '0' else '1',
      (Nat.toDigits 16 (c.toNat % 16)).headD '0']

/-- Written characters with the escapes of the standard only. -/
def standardize : List Char → List Char
  | '\\' :: '\'' :: rest => '\'' :: standardize rest
  | '\\' :: 'v' :: rest => ['\\', 'u', '0', '0', '0', '9'] ++ standardize rest
  | '\\' :: 'x' :: a :: b :: rest => ['\\', 'u', '0', '0', a, b] ++ standardize rest
  | '\\' :: '0' :: rest => ['\\', 'u', '0', '0', '0', '0'] ++ standardize rest
  | '\\' :: '\r' :: '\n' :: rest => standardize rest
  | '\\' :: '\r' :: rest => standardize rest
  | '\\' :: '\n' :: rest => standardize rest
  | '\\' :: '\u2028' :: rest => standardize rest
  | '\\' :: '\u2029' :: rest => standardize rest
  | '\\' :: c :: rest => '\\' :: c :: standardize rest
  | '"' :: rest => '\\' :: '"' :: standardize rest
  | c :: rest => (if c.toNat < 32 then controlEscape c else [c]) ++ standardize rest
  | [] => []

/-- A literal between double quotes. -/
def print (literal : Literal) : List Char :=
  let written := literal.written.toList
  '"' :: (if literal.spelling = .loose then standardize written else written) ++ ['"']

end Literal

namespace LooseJson

/-! ## Sizes -/

/-- The number of bytes of the header of a value. -/
def headerBytes (payload : Nat) : Nat :=
  if payload ≤ 11 then 1 else if payload ≤ 0xff then 2 else if payload ≤ 0xffff then 3 else 5

/-- The number of bytes of something with its header. -/
def withHeader (payload : Nat) : Nat := headerBytes payload + payload

/-- The number of bytes of a literal with its header. -/
def literalBytes (literal : Literal) : Nat := withHeader literal.written.utf8ByteSize

mutual

/-- The number of bytes of a value behind its header. -/
def payloadBytes : LooseJson → Nat
  | .null | .bool _ => 0
  | .integer digits _ | .real digits _ => digits.utf8ByteSize
  | .text literal => literal.written.utf8ByteSize
  | .list items => itemsBytes items
  | .object entries => entriesBytes entries

/-- The number of bytes of items. -/
def itemsBytes : List LooseJson → Nat
  | [] => 0
  | item :: rest => withHeader (payloadBytes item) + itemsBytes rest

/-- The number of bytes of entries. -/
def entriesBytes : List (Literal × LooseJson) → Nat
  | [] => 0
  | (label, value) :: rest =>
      literalBytes label + withHeader (payloadBytes value) + entriesBytes rest

end

/-- The number of bytes of a value. -/
def bytes (value : LooseJson) : Nat := withHeader (payloadBytes value)

/-- The number of bytes in front of the parts of a value. -/
def ownHeader (value : LooseJson) : Nat := headerBytes (payloadBytes value)

/-! ## Printing -/

/-- The value of hexadecimal digits, if it has at most sixteen digits that count. -/
def hexNumber? (digits : List Char) : Option Nat :=
  let digits := digits.dropWhile (· = '0')
  if 16 < digits.length then none
  else some (digits.foldl (fun n c => n * 16 + (hexValue? c).getD 0) 0)

/-- The sign of a hexadecimal number and the digits behind its mark. -/
def hexParts (digits : String) : Bool × List Char :=
  match digits.toList with
  | '-' :: rest => (true, rest.drop 2)
  | rest => (false, rest.drop 2)

/-- A number with digits on both sides of its point. -/
def completeDigits : (isFirst : Bool) → List Char → List Char
  | _, [] => []
  | isFirst, '.' :: rest =>
      (if isFirst then ['0'] else []) ++
        '.' :: (if rest.head?.any Char.isDigit then [] else ['0']) ++ completeDigits false rest
  | isFirst, c :: rest => c :: completeDigits (isFirst && c = '-') rest

mutual

/-- A value in the standard form, without blanks. -/
def print : LooseJson → List Char
  | .null => "null".toList
  | .bool true => "true".toList
  | .bool false => "false".toList
  | .integer digits false | .real digits false => digits.toList
  | .integer digits true =>
      let (isNegative, hex) := hexParts digits
      (if isNegative then ['-'] else []) ++ match hexNumber? hex with
        | some n => (toString n).toList
        | none => "9.0e999".toList
  | .real digits true => completeDigits true digits.toList
  | .text literal => literal.print
  | .list items => '[' :: printItems true items ++ [']']
  | .object entries => '\x7b' :: printEntries true entries ++ ['\x7d']

/-- Items with commas between them. -/
def printItems (isFirst : Bool) : List LooseJson → List Char
  | [] => []
  | item :: rest => (if isFirst then [] else [',']) ++ print item ++ printItems false rest

/-- Entries with commas between them. -/
def printEntries (isFirst : Bool) : List (Literal × LooseJson) → List Char
  | [] => []
  | (label, value) :: rest =>
      (if isFirst then [] else [',']) ++ label.print ++ ':' :: print value ++
        printEntries false rest

end

/-! ## Values -/

/-- The kind of a value. -/
def kind : LooseJson → String
  | .null => "null"
  | .bool true => "true"
  | .bool false => "false"
  | .integer _ _ => "integer"
  | .real _ _ => "real"
  | .text _ => "text"
  | .list _ => "array"
  | .object _ => "object"

/-- Whether a value has parts. -/
def hasParts : LooseJson → Bool
  | .list _ | .object _ => true
  | _ => false

/-- The number that digits stand for; too large an integer is a real number. -/
def decimalCell (digits : String) : Cell :=
  match Number.Numeral.ofText? digits.toList with
  | some (.integer n) => .integer n
  | some (.real x) => .real x
  | none => .null

/-- The cell of a hexadecimal number: an integer, or a real number if it does not fit. -/
def hexCell? (digits : String) : Option Cell :=
  let (isNegative, hex) := hexParts digits
  (hexNumber? hex).map fun n =>
    let signed : Int := if isNegative then -n else n
    if (n : Int) ≤ Number.maxInt64 then .integer signed else .real (Binary64.ofInt signed)

/-- A value as a cell; one with parts is a text. None if it cannot be read. -/
def cell? : LooseJson → Option Cell
  | .null => some .null
  | .bool value => some (.integer (if value then 1 else 0))
  | .integer digits true => hexCell? digits
  | .integer digits false | .real digits _ => some (decimalCell digits)
  | .text literal => some literal.cell
  | value => some (.text (String.ofList value.print))

end LooseJson
end FieldSearch.Database
