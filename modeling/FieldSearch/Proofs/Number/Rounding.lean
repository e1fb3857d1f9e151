import FieldSearch.Number.Binary64
import Mathlib

/-!
# Integers that are numbers

Rounding is exact where there is nothing to round: the number nearest to an
integer that is a number is that number.  Only the sign of a zero is lost, since
an integer has none.

A finite number is its significand times a power of two.  If it is an integer,
either the power is a factor of it or the significand is a multiple of the power;
in both cases the leading bit of the integer is the leading bit of the
significand, so that the unit of rounding is the power itself and the significand
comes out as it is.

## Main results

* `ofInt_of_toInt?`: rounding an integer that is a number gives the number.
* `toInt?_plain`: a zero is the same integer with and without its sign.
-/

namespace FieldSearch.Number

theorem twoPow_eq (exponent : Nat) : twoPow exponent = 2 ^ exponent := by
  rw [twoPow, Nat.shiftLeft_eq, Nat.one_mul]

namespace Binary64

/-- The number, a zero taken without its sign. -/
def plain (x : Binary64) : Binary64 := if x.isZero then zero else x

theorem plain_of_not_isZero {x : Binary64} (h : x.isZero = false) : x.plain = x := by
  rw [plain, h, if_neg Bool.false_ne_true]

theorem plain_of_isZero {x : Binary64} (h : x.isZero = true) : x.plain = zero := if_pos h

/-! ## The parts of a number -/

/-- The magnitude word is put together of the exponent and the significand. -/
theorem magnitude_eq (x : Binary64) :
    x.magnitude = (max x.biased 1 - 1) * leadingBit + x.significand := by
  have hParts := Nat.div_add_mod x.magnitude leadingBit
  unfold significand
  by_cases hBiased : x.biased = 0
  · rw [if_pos hBiased, hBiased]
    simp
  · rw [if_neg hBiased, Nat.max_eq_left (Nat.one_le_iff_ne_zero.mpr hBiased), Nat.sub_mul,
      Nat.one_mul]
    have hLe : leadingBit ≤ x.biased * leadingBit :=
      Nat.le_mul_of_pos_left _ (Nat.pos_of_ne_zero hBiased)
    rw [biased] at hLe ⊢
    rw [Nat.mul_comm] at hParts
    omega

theorem significand_lt (x : Binary64) : x.significand < 2 * leadingBit := by
  unfold significand
  split
  next hBiased =>
    have hLt := (Nat.div_eq_zero_iff_lt (by decide)).mp hBiased
    omega
  · have hLt : x.magnitude % leadingBit < leadingBit := Nat.mod_lt _ (by decide)
    omega

theorem leadingBit_le_significand {x : Binary64} (h : x.biased ≠ 0) :
    leadingBit ≤ x.significand := by
  rw [significand, if_neg h]
  exact Nat.le_add_left _ _

theorem leadingBit_le_twoPow {exponent : Nat} (h : 52 ≤ exponent) :
    leadingBit ≤ twoPow exponent := by
  rw [twoPow_eq, show leadingBit = 2 ^ 52 from rfl]
  exact Nat.pow_le_pow_right Nat.two_pos h

/-- A significand with its leading bit has 53 bits. -/
theorem log2_significand {x : Binary64} (h : x.biased ≠ 0) : Nat.log2 x.significand = 52 := by
  have hLow := leadingBit_le_significand h
  have hHigh := x.significand_lt
  rw [leadingBit] at hLow hHigh
  rw [Nat.log2_eq_iff (by omega)]
  omega

/-! ## Rounding without a rest -/

theorem roundDiv_mul (tie : Tie) (quotient : Nat) {den : Nat} (hDen : 0 < den) :
    roundDiv tie (quotient * den) den = quotient := by
  unfold roundDiv
  simp [Nat.mul_div_cancel _ hDen, hDen]

theorem floorLog2_one {num : Nat} (h : num ≠ 0) : floorLog2 num 1 = Nat.log2 num := by
  have hLe : ¬ num < 2 ^ Nat.log2 num := Nat.not_lt.mpr (Nat.log2_self_le h)
  have hOne : Nat.log2 1 = 0 := by decide
  simp [floorLog2, twoPow_eq, hLe, hOne]

theorem log2_mul_twoPow {num : Nat} (h : num ≠ 0) (exponent : Nat) :
    Nat.log2 (num * twoPow exponent) = Nat.log2 num + exponent := by
  have hLow := Nat.log2_self_le h
  have hHigh := Nat.lt_log2_self (n := num)
  have hPos : 0 < 2 ^ exponent := Nat.two_pow_pos exponent
  rw [twoPow_eq, Nat.log2_eq_iff (Nat.mul_ne_zero h hPos.ne'), Nat.add_right_comm, Nat.pow_add,
    Nat.pow_add 2 (Nat.log2 num + 1)]
  exact ⟨Nat.mul_le_mul_right _ hLow, Nat.mul_lt_mul_of_pos_right hHigh hPos⟩

/-- What rounding makes of an integer that is a significand, up to a power of two. -/
theorem ofRatio_of_scaled (negative : Bool) (significand : Nat) {size word : Nat} {unit : Int}
    (hSize : size ≠ 0) (hLog : (Nat.log2 size : Int) = unit + 52)
    (hScaled : if 0 ≤ unit then size = significand * twoPow unit.toNat
      else size * twoPow (-unit).toNat = significand)
    (hWord : word = (unit + 1074).toNat * leadingBit + significand) :
    ofRatio negative size 1 = ofWord negative word := by
  have hUnit : max (floorLog2 size 1 - 52) (-1074) = unit := by
    rw [floorLog2_one hSize, hLog]
    omega
  have hRounded : (if 0 ≤ unit then roundDiv .toEven size (1 * twoPow unit.toNat)
      else roundDiv .toEven (size * twoPow (-unit).toNat) 1) = significand := by
    by_cases hNonneg : 0 ≤ unit
    · rw [if_pos hNonneg] at hScaled
      rw [if_pos hNonneg, hScaled, Nat.one_mul, roundDiv_mul _ _ (twoPow_pos _)]
    · rw [if_neg hNonneg] at hScaled
      have hWhole := roundDiv_mul .toEven significand Nat.one_pos
      rw [Nat.mul_one] at hWhole
      rw [if_neg hNonneg, hScaled, hWhole]
  unfold ofRatio
  rw [if_neg hSize, hUnit]
  dsimp only
  rw [hRounded, hWord]

/-! ## Integers -/

theorem toInt?_eq_some {x : Binary64} {n : Int} :
    x.toInt? = some n ↔ x.isFinite = true ∧ x.ratio.1 % x.ratio.2 = 0 ∧
      n = if x.negative then -((x.ratio.1 / x.ratio.2 : Nat) : Int)
        else (x.ratio.1 / x.ratio.2 : Nat) := by
  unfold toInt?
  cases hFinite : x.isFinite with
  | false => simp
  | true =>
      simp only [Bool.not_true, Bool.false_eq_true, if_false, true_and]
      by_cases hWhole : x.ratio.1 % x.ratio.2 = 0
      · rw [if_pos hWhole, Option.some.injEq]
        exact ⟨fun h => ⟨hWhole, h.symm⟩, fun h => h.2.symm⟩
      · rw [if_neg hWhole]
        exact iff_of_false nofun fun h => hWhole h.1

/-- **Rounding the size of a number that is a positive integer gives its word.** -/
theorem ofRatio_of_whole {x : Binary64} (negative : Bool) {size : Nat} (hSize : size ≠ 0)
    (hFinite : x.isFinite = true) (hWhole : x.ratio.1 = size * x.ratio.2) :
    ofRatio negative size 1 = ⟨negative, x.magnitude, x.magnitude_lt⟩ := by
  have hMagnitude := x.magnitude_eq
  have hScale : x.scale = (max x.biased 1 : Nat) - 1075 := rfl
  have hLow : 1 ≤ max x.biased 1 := Nat.le_max_right _ _
  have hWord : ofWord negative x.magnitude = ⟨negative, x.magnitude, x.magnitude_lt⟩ := by
    have hLt : x.magnitude < infinityWord := of_decide_eq_true hFinite
    simp [ofWord, Nat.min_eq_left (Nat.le_of_lt hLt)]
  have hUnit : (x.scale + 1074).toNat = max x.biased 1 - 1 := by omega
  rw [← hWord]
  by_cases hNonneg : 0 ≤ x.scale
  · have hRatio : x.ratio = (x.significand * twoPow x.scale.toNat, 1) := if_pos hNonneg
    rw [hRatio, Nat.mul_one] at hWhole
    have hBiased : x.biased ≠ 0 := by omega
    have hSignificand : x.significand ≠ 0 := by
      have hLeading := leadingBit_le_significand hBiased
      rw [leadingBit] at hLeading
      omega
    refine ofRatio_of_scaled negative _ hSize ?_ (by rw [if_pos hNonneg]; exact hWhole.symm)
      (by rw [hUnit]; exact hMagnitude)
    rw [← hWhole, log2_mul_twoPow hSignificand, log2_significand hBiased]
    omega
  · have hRatio : x.ratio = (x.significand, twoPow (-x.scale).toNat) := if_neg hNonneg
    rw [hRatio] at hWhole
    have hSignificand : x.significand = size * twoPow (-x.scale).toNat := hWhole
    -- Without the leading bit the significand would be less than the power that divides it.
    have hBiased : x.biased ≠ 0 := by
      intro hZero
      have hLess := (Nat.div_eq_zero_iff_lt (by decide)).mp hZero
      have hSame : x.significand = x.magnitude := if_pos hZero
      have hPower : leadingBit ≤ twoPow (-x.scale).toNat := leadingBit_le_twoPow (by omega)
      have hMultiple : twoPow (-x.scale).toNat ≤ x.significand := by
        rw [hSignificand]
        exact Nat.le_mul_of_pos_left _ (Nat.pos_of_ne_zero hSize)
      omega
    refine ofRatio_of_scaled negative x.significand hSize ?_
      (by rw [if_neg hNonneg, hSignificand]) (by rw [hUnit]; exact hMagnitude)
    have hLog := log2_mul_twoPow hSize (-x.scale).toNat
    rw [← hSignificand, log2_significand hBiased] at hLog
    omega

theorem significand_eq_zero {x : Binary64} : x.significand = 0 ↔ x.isZero = true := by
  rw [isZero, beq_iff_eq]
  constructor
  · intro h
    have hBiased : x.biased = 0 := by
      by_contra hNe
      have hLow := leadingBit_le_significand hNe
      rw [leadingBit] at hLow
      omega
    rwa [significand, if_pos hBiased] at h
  · intro h
    have hBiased : x.biased = 0 := by rw [biased, h, Nat.zero_div]
    rw [significand, if_pos hBiased, h]

theorem ratio_eq_zero {x : Binary64} : x.ratio.1 = 0 ↔ x.isZero = true := by
  rw [← significand_eq_zero]
  unfold ratio
  split
  · simp [(twoPow_pos _).ne']
  · rfl

theorem toInt?_of_isZero {x : Binary64} (h : x.isZero = true) : x.toInt? = some 0 := by
  have hMagnitude : x.magnitude = 0 := by simpa [isZero] using h
  have hRatio : x.ratio.1 = 0 := ratio_eq_zero.mpr h
  refine toInt?_eq_some.mpr ⟨by simp [isFinite, hMagnitude, infinityWord], ?_, ?_⟩
  · rw [hRatio, Nat.zero_mod]
  · rw [hRatio, Nat.zero_div]
    simp

/-- **Rounding an integer that is a number gives the number**, without the sign of a zero. -/
theorem ofInt_of_toInt? {x : Binary64} {n : Int} (h : x.toInt? = some n) : ofInt n = x.plain := by
  by_cases hZero : x.isZero = true
  · obtain rfl := Option.some.inj (h.symm.trans (toInt?_of_isZero hZero))
    rw [plain_of_isZero hZero]
    rfl
  · obtain ⟨hFinite, hMod, hValue⟩ := toInt?_eq_some.mp h
    rw [plain_of_not_isZero (Bool.not_eq_true _ ▸ hZero)]
    have hWhole : x.ratio.1 = x.ratio.1 / x.ratio.2 * x.ratio.2 :=
      (Nat.div_mul_cancel (Nat.dvd_of_mod_eq_zero hMod)).symm
    generalize x.ratio.1 / x.ratio.2 = size at hValue hWhole
    have hSize : size ≠ 0 := by
      rintro rfl
      rw [Nat.zero_mul] at hWhole
      exact hZero (ratio_eq_zero.mp hWhole)
    have hAbs : n.natAbs = size := by
      rw [hValue]
      split <;> simp
    have hSign : decide (n < 0) = x.negative := by
      rw [hValue]
      cases x.negative
      · simp
      · simp [Nat.pos_of_ne_zero hSize]
    rw [ofInt, hAbs, hSign, ofRatio_of_whole x.negative hSize hFinite hWhole]

/-- A zero is the same integer with and without its sign. -/
theorem toInt?_plain (x : Binary64) : x.plain.toInt? = x.toInt? := by
  by_cases hZero : x.isZero = true
  · rw [plain_of_isZero hZero, toInt?_of_isZero hZero, toInt?_of_isZero rfl]
  · rw [plain_of_not_isZero (Bool.not_eq_true _ ▸ hZero)]

@[simp]
theorem plain_plain (x : Binary64) : x.plain.plain = x.plain := by
  by_cases hZero : x.isZero = true
  · rw [plain_of_isZero hZero]
    rfl
  · have hSame := plain_of_not_isZero (Bool.not_eq_true _ ▸ hZero)
    rw [hSame, hSame]

@[simp]
theorem isFinite_plain (x : Binary64) : x.plain.isFinite = x.isFinite := by
  by_cases hZero : x.isZero = true
  · have hMagnitude : x.magnitude = 0 := by simpa [isZero] using hZero
    rw [plain_of_isZero hZero, isFinite, isFinite, hMagnitude]
    rfl
  · rw [plain_of_not_isZero (Bool.not_eq_true _ ▸ hZero)]

end Binary64
end FieldSearch.Number
