import FieldSearch.Number.Binary64

/-!
# Sums of two binary numbers

A number that needs more than the 53 bits of one binary number is kept as a sum of two that is not
worked out: the first is the sum rounded, the second what the rounding left over. The product of two
such sums is formed with rounded operations only. Each first summand is cut into an upper and a
lower half, whose products are exact, and what the rounding of their sum loses goes into the second
summand. About 106 bits of the product are right, so that a chain of products by powers of ten gives
the nearest binary number nearly always, though not always; what it gives is the result.
-/

namespace FieldSearch.Number

namespace Binary64

/-- One more than the lower half of a fraction, its 26 lowest bits. -/
def halfFraction : Nat := 0x4000000

/-- The number without the lower half of its fraction. -/
def coarse (x : Binary64) : Binary64 :=
  ⟨x.negative, x.magnitude - x.magnitude % halfFraction,
    Nat.lt_of_le_of_lt (Nat.sub_le _ _) x.magnitude_lt⟩

/-- The greatest number below `2 ^ 64`. -/
def greatestWord : Binary64 := ofRatio false 0xfffffffffffff800 1

end Binary64

/-- The sum of two binary numbers, not worked out. -/
structure DoubleDouble where
  high : Binary64
  low : Binary64
deriving DecidableEq, Repr

namespace DoubleDouble

/-- A binary number as a sum. -/
def ofBinary64 (x : Binary64) : DoubleDouble := ⟨x, Binary64.zero⟩

/-- A ratio as a sum: the number nearest to it, and the number nearest to what that one lacks. -/
def ofRatio (num den : Nat) : DoubleDouble :=
  let high := Binary64.ofRatio false num den
  let lacking := (num : Int) * high.ratio.2 - high.numerator * den
  ⟨high, Binary64.ofRatio (lacking < 0) lacking.natAbs (den * high.ratio.2)⟩

/-- A word of 64 bits as a sum; what is left of a word that rounds to `2 ^ 64` is dropped. -/
def ofNat (n : Nat) : DoubleDouble :=
  let sum := ofRatio n 1
  if sum.high.cmp Binary64.greatestWord == .gt then ofBinary64 sum.high else sum

/-- The sum worked out. -/
def sum (x : DoubleDouble) : Binary64 := x.high.add x.low

/-- The product of two sums. -/
def mul (x y : DoubleDouble) : DoubleDouble :=
  let xUpper := x.high.coarse
  let xLower := x.high.sub xUpper
  let yUpper := y.high.coarse
  let yLower := y.high.sub yUpper
  let upper := xUpper.mul yUpper
  let middle := (xUpper.mul yLower).add (xLower.mul yUpper)
  let product := upper.add middle
  let lost := ((upper.sub product).add middle).add (xLower.mul yLower)
  let rest := ((x.high.mul y.low).add (x.low.mul y.high)).add lost
  let high := product.add rest
  ⟨high, (product.sub high).add rest⟩

/-- A power of ten as a sum. -/
def powerOfTen (exponent : Int) : DoubleDouble :=
  ofRatio (tenPow exponent.toNat) (tenPow (-exponent).toNat)

/-- The product with a power of ten, taken as often as given. -/
def scaleBy (exponent : Int) (count : Nat) (x : DoubleDouble) : DoubleDouble :=
  Nat.repeat (mul · (powerOfTen exponent)) count x

/-- The product with `10 ^ exponent`, by hundreds of digits, then by tens, then one by one. -/
def scale (x : DoubleDouble) (exponent : Int) : DoubleDouble :=
  let size := exponent.natAbs
  let direction := exponent.sign
  x |> scaleBy (100 * direction) (size / 100)
    |> scaleBy (10 * direction) (size % 100 / 10)
    |> scaleBy direction (size % 10)

/-- The product with a power of ten, taken as long as the first summand passes a test, at most
`fuel` times; beside it the exponent that makes up for it. -/
def scaleWhile (test : Binary64 → Bool) (step : Int) :
    Nat → DoubleDouble × Int → DoubleDouble × Int
  | 0, state => state
  | fuel + 1, (x, exponent) =>
      if test x.high then
        scaleWhile test step fuel (x.mul (powerOfTen step), exponent - step)
      else (x, exponent)

/-- The number nearest to `greatest · 10 ^ exponent`, where `greatest` is the greatest number below
`2 ^ 63`. -/
def wordBound (exponent : Int) : Binary64 :=
  Binary64.ofRatio false (0x7ffffffffffffc00 * tenPow exponent.toNat) (tenPow (-exponent).toNat)

/-- A positive finite number as a whole number of eighteen or nineteen digits and a power of ten. No
scaling takes more than ten steps: a number has at most 309 digits before its point and no more than
323 zeros behind it. -/
def toWord (x : Binary64) : Nat × Int :=
  let above (bound : Int) (y : Binary64) : Bool := y.cmp (wordBound bound) == .gt
  let below (bound : Int) (y : Binary64) : Bool := y.cmp (wordBound bound) == .lt
  let (scaled, exponent) :=
    if above 0 x then
      (ofBinary64 x, 0) |> scaleWhile (above 100) (-100) 10
        |> scaleWhile (above 10) (-10) 10 |> scaleWhile (above 0) (-1) 10
    else
      (ofBinary64 x, 0) |> scaleWhile (below (-101)) 100 10
        |> scaleWhile (below (-11)) 10 10 |> scaleWhile (below (-1)) 1 10
  let whole (y : Binary64) : Nat := y.ratio.1 / y.ratio.2
  if scaled.low.negative then (whole scaled.high - whole scaled.low, exponent)
  else (whole scaled.high + whole scaled.low, exponent)

end DoubleDouble
end FieldSearch.Number
