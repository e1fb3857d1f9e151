import FieldSearch.Json.Fault

/-!
# Writing JSON texts

The compact text of a value: no blanks, the entries of an object in the order in which they stand,
real numbers in their shortest compact form. Quotes, backslashes and control characters are escaped,
by a letter where there is one; all other characters stand for themselves.
-/

namespace FieldSearch.Json

/-- Two lower-case hexadecimal digits. -/
def twoHex (n : Nat) : List Char := [Nat.digitChar (n / 16), Nat.digitChar (n % 16)]

/-- One character between quotes. -/
def escapeChar (c : Char) : List Char :=
  if c = '"' then ['\\', '"']
  else if c = '\\' then ['\\', '\\']
  else if c.toNat = 8 then ['\\', 'b']
  else if c.toNat = 12 then ['\\', 'f']
  else if c = '\n' then ['\\', 'n']
  else if c = '\r' then ['\\', 'r']
  else if c = '\t' then ['\\', 't']
  else if c.toNat < 0x20 then ['\\', 'u', '0', '0'] ++ twoHex c.toNat
  else [c]

/-- A text between quotes. -/
def printText (value : String) : String :=
  String.ofList ('"' :: value.toList.flatMap escapeChar ++ ['"'])

mutual

/-- The compact text of a value. -/
def print : Json → String
  | .null => "null"
  | .bool true => "true"
  | .bool false => "false"
  | .integer value => toString value
  | .real value => value.compactText
  | .text value => printText value
  | .list items => "[" ++ String.intercalate "," (printItems items) ++ "]"
  | .object entries => "\x7b" ++ String.intercalate "," (printEntries entries) ++ "\x7d"

/-- The texts of the items of a list. -/
def printItems : List Json → List String
  | [] => []
  | item :: items => print item :: printItems items

/-- The texts of the entries of an object. -/
def printEntries : List (String × Json) → List String
  | [] => []
  | (key, value) :: entries => (printText key ++ ":" ++ print value) :: printEntries entries

end

end FieldSearch.Json
