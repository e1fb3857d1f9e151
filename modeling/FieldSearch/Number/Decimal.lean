import FieldSearch.Number.DoubleDouble

/-!
# Decimal forms of binary numbers

The shortest form of a number has the fewest significant digits that read back as the number; of
several such forms it is the one nearest to the number. Candidates on a decimal grid are only the
two neighbours of the number, and whether a candidate reads back is decided by exact comparison with
the halfway points to the neighbouring numbers, which belong to the number when its significand is
even.

Three ways of writing a form are used: positional, positional near one and exponential elsewhere,
and rounded to fifteen digits.
-/

namespace FieldSearch.Number

/-- The number `digits · 10 ^ exponent`. -/
structure Decimal where
  digits : Nat
  exponent : Int
deriving DecidableEq, Repr

namespace Decimal

/-- Moves the zeros at the end of the digits into the exponent, at most `fuel` of them. -/
def dropZeros : Nat → Nat → Int → Decimal
  | 0, digits, exponent => ⟨digits, exponent⟩
  | fuel + 1, digits, exponent =>
      if digits % 10 = 0 ∧ digits ≠ 0 then dropZeros fuel (digits / 10) (exponent + 1)
      else ⟨digits, exponent⟩

/-- The digits as characters. -/
def digitList (d : Decimal) : List Char := Nat.toDigits 10 d.digits

/-- The position of the point, counted from the first digit. -/
def point (d : Decimal) : Int := d.digitList.length + d.exponent

end Decimal

namespace Binary64

/-- The number of decimal digits of a natural number, none for zero. -/
def decimalLength (n : Nat) : Nat := if n = 0 then 0 else (Nat.toDigits 10 n).length

/-- The greatest power of ten not above a positive ratio, as its exponent. -/
def floorLog10 (num den : Nat) : Int :=
  if den ≤ num then (decimalLength (num / den) : Int) - 1
  else -(decimalLength ((den + num - 1) / num - 1) : Int)

/-- A ratio as a quotient of naturals after division by a power of ten. -/
def overPowerOfTen (num den : Nat) (exponent : Int) : Nat × Nat :=
  if 0 ≤ exponent then (num, den * tenPow exponent.toNat) else (num * tenPow (-exponent).toNat, den)

/-- The halfway points below and above a number, over four times the denominator of its ratio. -/
def halfways (x : Binary64) : Nat × Nat :=
  let unit := x.ratio.1 / x.significand
  let below := if x.magnitude % leadingBit = 0 ∧ 1 < x.biased then unit else 2 * unit
  (4 * x.ratio.1 - below, 4 * x.ratio.1 + 2 * unit)

/-- Whether a decimal reads back as the given finite number. -/
def readsBack (x : Binary64) (digits : Nat) (exponent : Int) : Bool :=
  let left := (if 0 ≤ exponent then digits * tenPow exponent.toNat else digits) * (4 * x.ratio.2)
  let unit := if 0 ≤ exponent then 1 else tenPow (-exponent).toNat
  let (low, high) := x.halfways
  if x.significand % 2 = 0 then low * unit ≤ left && left ≤ high * unit
  else low * unit < left && left < high * unit

/-- The best candidate with the given unit place, if one of the two neighbours reads back. -/
def neighbour? (x : Binary64) (tie : Tie) (exponent : Int) : Option Nat :=
  let (num, den) := overPowerOfTen x.ratio.1 x.ratio.2 exponent
  let low := num / den
  match x.readsBack low exponent, x.readsBack (low + 1) exponent with
  | false, false => none
  | true, false => some low
  | false, true => some (low + 1)
  | true, true => some (roundDiv tie num den)

/-- The first grid, from coarse to fine, on which a candidate reads back. -/
def findShortest (x : Binary64) (tie : Tie) : Nat → Int → Decimal
  | 0, exponent => ⟨(overPowerOfTen x.ratio.1 x.ratio.2 exponent).1, exponent⟩
  | fuel + 1, exponent =>
      match x.neighbour? tie exponent with
      | some digits => Decimal.dropZeros 18 digits exponent
      | none => findShortest x tie fuel (exponent - 1)

/-- The shortest decimal that reads back as the absolute value of a finite number; of two that are
equally near to it, the one that `tie` prefers. -/
def shortest (x : Binary64) (tie : Tie) : Decimal :=
  if x.isZero then ⟨0, 0⟩ else findShortest x tie 17 (floorLog10 x.ratio.1 x.ratio.2)

/-- The absolute value of a finite number rounded to at most seventeen significant digits. The
number is first scaled to a word of eighteen or nineteen digits; a half of that word goes up. -/
def rounded (x : Binary64) (places : Nat) : Decimal :=
  if x.isZero then ⟨0, 0⟩
  else
    let (word, exponent) := DoubleDouble.toWord { x with negative := false }
    let excess := decimalLength word - places
    Decimal.dropZeros (places + 1) (roundDiv .up word (tenPow excess)) (exponent + excess)

end Binary64

namespace Decimal

/-- As many zeros. -/
def zeros (n : Nat) : List Char := List.replicate n '0'

/-- Positional notation; a whole number has no point. -/
def positional (d : Decimal) : List Char :=
  let digits := d.digitList
  if 0 ≤ d.exponent then digits ++ zeros d.exponent.toNat
  else if 0 < d.point then digits.take d.point.toNat ++ '.' :: digits.drop d.point.toNat
  else ['0', '.'] ++ zeros (-d.point).toNat ++ digits

/-- Digits with a point after the first. -/
def leading (digits : List Char) : List Char :=
  match digits with
  | [] => []
  | [digit] => [digit]
  | digit :: rest => digit :: '.' :: rest

/-- Positional notation with the point up to sixteen places right or five left of the first digit,
a whole number ending in `.0`; exponential notation elsewhere. -/
def compact (d : Decimal) : List Char :=
  if d.digits = 0 then ['0', '.', '0']
  else if -5 < d.point ∧ d.point ≤ 16 then
    if 0 ≤ d.exponent then d.positional ++ ['.', '0'] else d.positional
  else leading d.digitList ++ 'e' :: (toString (d.point - 1)).toList

/-- Positional notation with the point up to fifteen places right or four left of the first digit,
a whole number ending in `.0`; elsewhere exponential notation with a fraction and a signed exponent
of at least two digits. -/
def general (d : Decimal) : List Char :=
  if d.digits = 0 then ['0', '.', '0']
  else
    let exponent := d.point - 1
    if -4 ≤ exponent ∧ exponent < 15 then
      if 0 ≤ d.exponent then d.positional ++ ['.', '0'] else d.positional
    else
      let mantissa := match leading d.digitList with
        | [digit] => [digit, '.', '0']
        | digits => digits
      let size := (toString exponent.natAbs).toList
      let padded := if size.length < 2 then '0' :: size else size
      mantissa ++ ['e', if exponent < 0 then '-' else '+'] ++ padded

end Decimal

namespace Binary64

/-- The sign of a number before its absolute value. -/
def signed (x : Binary64) (size : List Char) : String :=
  String.ofList (if x.negative then '-' :: size else size)

/-- The shortest positional text of a number, a half going up. -/
def positionalText (x : Binary64) : String :=
  if x.isFinite then x.signed (x.shortest .up).positional else x.signed ['i', 'n', 'f']

/-- The shortest compact text of a finite number, a half going to the even digit. -/
def compactText (x : Binary64) : String := x.signed (x.shortest .toEven).compact

/-- The text of a number with fifteen significant digits; zero has no sign. -/
def generalText (x : Binary64) : String :=
  if x.isZero then String.ofList (x.rounded 15).general
  else if x.isFinite then x.signed (x.rounded 15).general
  else x.signed ['I', 'n', 'f']

/-- The word of a number as sixteen lower-case hexadecimal digits. -/
def hexText (x : Binary64) : String :=
  let digits := Nat.toDigits 16 x.bits
  String.ofList (List.replicate (16 - digits.length) '0' ++ digits)

end Binary64
end FieldSearch.Number
