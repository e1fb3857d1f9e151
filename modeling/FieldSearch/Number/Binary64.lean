import FieldSearch.Number.Power

/-!
# Binary floating point numbers

A binary64 number is a sign and a magnitude word of 63 bits: eleven bits of exponent above 52 bits
of fraction. The words are ordered as the absolute values that they stand for, so that comparison is
comparison of signed words. All arithmetic is exact arithmetic of natural numbers followed by one
rounding to the nearest number, a tie going to the even word.

## Main results

* `ofBits_bits`: a number is determined by its 64 bits.
-/

namespace FieldSearch.Number

/-- The highest of 64 bits, which is the sign. -/
def signBit : Nat := 0x8000000000000000

/-- A binary64 number, infinities and undefined values included. -/
structure Binary64 where
  /-- The sign bit. -/
  negative : Bool
  /-- The other 63 bits. -/
  magnitude : Nat
  magnitude_lt : magnitude < signBit := by decide
deriving DecidableEq, Repr

namespace Binary64

/-- The bit above the fraction: one in the exponent, and the leading bit that the fractions of
normal numbers leave out. -/
def leadingBit : Nat := 0x10000000000000

/-- The magnitude word of infinity. -/
def infinityWord : Nat := 0x7ff0000000000000

/-- Positive zero. -/
def zero : Binary64 := ⟨false, 0, by decide⟩

/-- All 64 bits as one word, the sign bit highest. -/
def bits (x : Binary64) : Nat := (if x.negative then signBit else 0) + x.magnitude

/-- The number of a word of 64 bits. -/
def ofBits (word : Nat) : Binary64 :=
  ⟨signBit ≤ word, word % signBit, Nat.mod_lt _ (by decide)⟩

@[simp]
theorem ofBits_bits (x : Binary64) : ofBits x.bits = x := by
  obtain ⟨negative, magnitude, h⟩ := x
  cases negative <;> simp [ofBits, bits, Nat.mod_eq_of_lt h, h]

/-- The number whose magnitude word is given, words beyond infinity taken as infinity. -/
def ofWord (negative : Bool) (word : Nat) : Binary64 :=
  ⟨negative, min word infinityWord, by
    have h : min word infinityWord ≤ infinityWord := Nat.min_le_right _ _
    have hInfinity : infinityWord < signBit := by decide
    omega⟩

/-- Neither infinite nor undefined. -/
def isFinite (x : Binary64) : Bool := x.magnitude < infinityWord

/-- Whether the number is an infinity of either sign. -/
def isInfinite (x : Binary64) : Bool := x.magnitude == infinityWord

/-- Whether the number stands for no value at all. -/
def isUndefined (x : Binary64) : Bool := infinityWord < x.magnitude

/-- The result of arithmetic without a value. -/
def undefined : Binary64 := ⟨true, 0x7ff8000000000000, by decide⟩

/-- Whether the number is a zero of either sign. -/
def isZero (x : Binary64) : Bool := x.magnitude == 0

/-- The number with the other sign. -/
def neg (x : Binary64) : Binary64 := { x with negative := !x.negative }

/-- The exponent field. -/
def biased (x : Binary64) : Nat := x.magnitude / leadingBit

/-- The fraction with the leading bit that normal numbers leave out. -/
def significand (x : Binary64) : Nat :=
  if x.biased = 0 then x.magnitude else x.magnitude % leadingBit + leadingBit

/-- The power of two by which the significand is scaled. -/
def scale (x : Binary64) : Int := (max x.biased 1 : Nat) - 1075

/-- The absolute value of a finite number as a ratio. -/
def ratio (x : Binary64) : Nat × Nat :=
  if 0 ≤ x.scale then (x.significand * twoPow x.scale.toNat, 1)
  else (x.significand, twoPow (-x.scale).toNat)

/-! ## Rounding -/

/-- Where a half goes in rounding. -/
inductive Tie where
  | toEven
  | up
deriving DecidableEq, Repr

/-- A quotient rounded to the nearest natural number. -/
def roundDiv (tie : Tie) (num den : Nat) : Nat :=
  let quotient := num / den
  let twice := 2 * (num % den)
  if twice < den then quotient
  else if den < twice then quotient + 1
  else
    match tie with
    | .toEven => quotient + quotient % 2
    | .up => quotient + 1

/-- The greatest power of two not above a ratio, as its exponent. -/
def floorLog2 (num den : Nat) : Int :=
  let guess : Int := (Nat.log2 num : Int) - (Nat.log2 den : Int)
  let below :=
    if 0 ≤ guess then decide (num < den * twoPow guess.toNat)
    else decide (num * twoPow (-guess).toNat < den)
  if below then guess - 1 else guess

/-- The number nearest to a ratio. -/
def ofRatio (negative : Bool) (num den : Nat) : Binary64 :=
  if num = 0 then ofWord negative 0
  else
    let unit : Int := max (floorLog2 num den - 52) (-1074)
    let rounded :=
      if 0 ≤ unit then roundDiv .toEven num (den * twoPow unit.toNat)
      else roundDiv .toEven (num * twoPow (-unit).toNat) den
    ofWord negative ((unit + 1074).toNat * leadingBit + rounded)

/-- The number nearest to an integer. -/
def ofInt (n : Int) : Binary64 := ofRatio (n < 0) n.natAbs 1

/-- The numerator of the ratio with the sign of the number. -/
def numerator (x : Binary64) : Int := if x.negative then -(x.ratio.1 : Int) else x.ratio.1

/-- The sum of two numbers. A sum that vanishes is negative only when both numbers are; infinities
of both signs have no sum. -/
def add (x y : Binary64) : Binary64 :=
  if x.isUndefined || y.isUndefined then undefined
  else if x.isInfinite then
    if y.isInfinite && x.negative != y.negative then undefined else x
  else if y.isInfinite then y
  else
    let sum := x.numerator * y.ratio.2 + y.numerator * x.ratio.2
    let negative := if sum = 0 then x.negative && y.negative else decide (sum < 0)
    ofRatio negative sum.natAbs (x.ratio.2 * y.ratio.2)

/-- The difference of two numbers. -/
def sub (x y : Binary64) : Binary64 := x.add y.neg

/-- The product of two numbers. Zero and an infinity have none. -/
def mul (x y : Binary64) : Binary64 :=
  let negative := x.negative != y.negative
  if x.isUndefined || y.isUndefined then undefined
  else if x.isInfinite || y.isInfinite then
    if x.isZero || y.isZero then undefined else ofWord negative infinityWord
  else ofRatio negative (x.ratio.1 * y.ratio.1) (x.ratio.2 * y.ratio.2)

/-- The quotient of a finite number and one that is neither zero nor infinite. -/
def div (x y : Binary64) : Binary64 :=
  ofRatio (x.negative != y.negative) (x.ratio.1 * y.ratio.2) (x.ratio.2 * y.ratio.1)

/-- The number nearest to a power of ten. -/
def powerOfTen (exponent : Nat) : Binary64 := ofRatio false (tenPow exponent) 1

/-! ## Comparison and integers -/

/-- An integer that is ordered as the number is. -/
def orderKey (x : Binary64) : Int := if x.negative then -(x.magnitude : Int) else x.magnitude

/-- The order of two numbers, the zeros being equal. -/
def cmp (x y : Binary64) : Ordering := compare x.orderKey y.orderKey

/-- The integer that a finite number is, if it is one. -/
def toInt? (x : Binary64) : Option Int :=
  if !x.isFinite then none
  else if x.ratio.1 % x.ratio.2 = 0 then
    let size : Int := (x.ratio.1 / x.ratio.2 : Nat)
    some (if x.negative then -size else size)
  else none

/-- The order of an integer and a number. -/
def cmpInt (n : Int) (x : Binary64) : Ordering :=
  if !x.isFinite then (if x.negative then .gt else .lt)
  else compare (n * x.ratio.2) x.numerator

end Binary64
end FieldSearch.Number
