/-!
# Powers of two and ten

Numbers are scaled by powers of two in their binary form and by powers of ten in their decimal form.
A power of two is a shifted bit.

## Main results

* `twoPow_succ`: the next power of two.
* `twoPow_pos`: no power of two is zero, so it can be divided by.
-/

namespace FieldSearch.Number

/-- The power of two with the given exponent. -/
def twoPow (exponent : Nat) : Nat := 1 <<< exponent

/-- The power of ten with the given exponent. -/
def tenPow (exponent : Nat) : Nat := Nat.pow 10 exponent

theorem twoPow_succ (exponent : Nat) : twoPow (exponent + 1) = 2 * twoPow exponent := by
  simp [twoPow, Nat.shiftLeft_succ]

theorem twoPow_pos (exponent : Nat) : 0 < twoPow exponent := by
  induction exponent with
  | zero => decide
  | succ exponent ih =>
      rw [twoPow_succ]
      omega

end FieldSearch.Number
