import FieldSearch.Number.Binary64

/-!
# Numbers written with a power of ten

A significand and a power of ten make a number in two roundings: the significand is rounded first,
then multiplied or divided by the nearest number to the power. Powers beyond the range of one such
factor are divided out in several steps; a product that overflows is refused.
-/

namespace FieldSearch.Number

/-- The greatest exponent whose power of ten is a finite number. -/
def maxPower : Nat := 308

/-- A number divided by `10 ^ power`, in steps of at most `10 ^ 308`. -/
def scaleDown (x : Binary64) (power : Nat) : Binary64 :=
  if power ≤ maxPower then x.div (Binary64.powerOfTen power)
  else if x.isZero then x
  else scaleDown (x.div (Binary64.powerOfTen maxPower)) (power - maxPower)
termination_by power
decreasing_by
  have hMax : maxPower = 308 := rfl
  omega

/-- The number `significand · 10 ^ exponent`, or nothing when it is out of range. -/
def scaled? (significand : Nat) (exponent : Int) : Option Binary64 :=
  let x := Binary64.ofRatio false significand 1
  if exponent < 0 then some (scaleDown x (-exponent).toNat)
  else if maxPower < exponent then (if x.isZero then some x else none)
  else
    let product := x.mul (Binary64.powerOfTen exponent.toNat)
    if product.isFinite then some product else none

end FieldSearch.Number
