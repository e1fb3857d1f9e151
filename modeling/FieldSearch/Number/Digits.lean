import FieldSearch.Number.Power

/-!
# Reading integers

A decimal integer is an optional sign and one or more ASCII digits, and nothing else. It is read
from left to right within given bounds; what goes wrong first decides the fault: a character that is
no digit, or a value that has left the bounds.
-/

namespace FieldSearch.Number

/-- Why a text is no integer within the bounds. -/
inductive IntegerFault where
  | empty
  | invalidDigit
  | tooLarge
  | tooSmall
deriving DecidableEq, Repr

/-- The wording of the fault. -/
def IntegerFault.message : IntegerFault → String
  | .empty => "cannot parse integer from empty string"
  | .invalidDigit => "invalid digit found in string"
  | .tooLarge => "number too large to fit in target type"
  | .tooSmall => "number too small to fit in target type"

/-- The value of an ASCII digit. -/
def digitValue? (c : Char) : Option Nat :=
  if c.isDigit then some (c.toNat - '0'.toNat) else none

/-- The value of a hexadecimal digit of either case. -/
def hexValue? (c : Char) : Option Nat :=
  if c.isDigit then some (c.toNat - '0'.toNat)
  else if 'a' ≤ c ∧ c ≤ 'f' then some (c.toNat - 'a'.toNat + 10)
  else if 'A' ≤ c ∧ c ≤ 'F' then some (c.toNat - 'A'.toNat + 10)
  else none

/-- The number that digits make when they follow the digits of `value`, none above `limit`. -/
def readDigits (limit : Nat) (beyond : IntegerFault) : Nat → List Char → Except IntegerFault Nat
  | value, [] => .ok value
  | value, c :: rest =>
      match digitValue? c with
      | none => .error .invalidDigit
      | some digit =>
          if limit < value * 10 + digit then .error beyond
          else readDigits limit beyond (value * 10 + digit) rest

/-- An unsigned integer up to `limit`; a plus sign may precede it. -/
def readNatural (limit : Nat) (text : List Char) : Except IntegerFault Nat :=
  match text with
  | [] => .error .empty
  | ['+'] => .error .invalidDigit
  | '+' :: digits => readDigits limit .tooLarge 0 digits
  | digits => readDigits limit .tooLarge 0 digits

/-- A signed integer of `width` bits in two's complement. -/
def readInteger (width : Nat) (text : List Char) : Except IntegerFault Int :=
  match text with
  | [] => .error .empty
  | ['+'] | ['-'] => .error .invalidDigit
  | '-' :: digits =>
      (readDigits (twoPow (width - 1)) .tooSmall 0 digits).map fun value => -(value : Int)
  | '+' :: digits => (readDigits (twoPow (width - 1) - 1) .tooLarge 0 digits).map Int.ofNat
  | digits => (readDigits (twoPow (width - 1) - 1) .tooLarge 0 digits).map Int.ofNat

/-- A signed 64-bit integer, if the text is one. -/
def readInt64? (text : String) : Option Int := (readInteger 64 text.toList).toOption

/-! ## Fixed widths as bounds -/

/-- The least signed integer of 64 bits. -/
def minInt64 : Int := -0x8000000000000000

/-- The greatest signed integer of 64 bits. -/
def maxInt64 : Int := 0x7fffffffffffffff

/-- Whether an integer fits a signed 64-bit word. -/
def fitsInt64 (n : Int) : Bool := minInt64 ≤ n && n ≤ maxInt64

/-- The greatest signed integer of 32 bits. -/
def maxInt32 : Nat := 0x7fffffff

/-- The largest unsigned integer of 16 bits. -/
def maxNat16 : Nat := 0xffff

/-- The largest unsigned integer of 32 bits. -/
def maxNat32 : Nat := 0xffffffff

/-- The largest unsigned integer of 64 bits. -/
def maxNat64 : Nat := 0xffffffffffffffff

end FieldSearch.Number
