import FieldSearch.Number.Digits
import Mathlib

/-!
# Numbers that are written in digits

Digits are read from left to right, and the value may only grow on the way.  So it
stays within a bound all along if it does so in the end, and what is read is the number
that the digits stand for.

## Main results

* `readDigits_eq_ok_iff`: which digits are read, and as what.
* `readNatural_toString`: a number that is written out is read again.
-/

namespace FieldSearch.Number

/-- More digits make no smaller number. -/
theorem le_ofDigitChars (digits : List Char) :
    ∀ value, value ≤ Nat.ofDigitChars 10 digits value := by
  induction digits with
  | nil => exact fun value => le_refl value
  | cons c rest ih =>
      intro value
      rw [Nat.ofDigitChars_cons]
      exact le_trans (by omega) (ih _)

/-- **Digits are read as the number that they stand for**, unless it is beyond the limit. -/
theorem readDigits_eq_ok_iff {limit : Nat} {beyond : IntegerFault} {digits : List Char}
    {result : Nat} : ∀ {value : Nat}, value ≤ limit →
      (readDigits limit beyond value digits = .ok result ↔
        (∀ c ∈ digits, c.isDigit = true) ∧ Nat.ofDigitChars 10 digits value = result ∧
          result ≤ limit) := by
  induction digits with
  | nil =>
      intro value hValue
      rw [readDigits, Nat.ofDigitChars_nil]
      constructor
      · intro h
        obtain rfl := Except.ok.inj h
        exact ⟨fun _ hMem => absurd hMem List.not_mem_nil, rfl, hValue⟩
      · rintro ⟨-, rfl, -⟩
        rfl
  | cons c rest ih =>
      intro value hValue
      rw [readDigits, digitValue?, List.forall_mem_cons, Nat.ofDigitChars_cons,
        Nat.mul_comm 10 value]
      by_cases hDigit : c.isDigit = true
      · rw [if_pos hDigit]
        dsimp only
        by_cases hBeyond : limit < value * 10 + (c.toNat - '0'.toNat)
        · rw [if_pos hBeyond]
          constructor
          · intro h
            cases h
          · rintro ⟨-, rfl, hLimit⟩
            exact absurd (le_trans (le_ofDigitChars rest _) hLimit) (Nat.not_le.mpr hBeyond)
        · rw [if_neg hBeyond, ih (by omega), and_iff_right hDigit]
      · rw [if_neg hDigit]
        constructor
        · intro h
          cases h
        · rintro ⟨⟨hHead, -⟩, -⟩
          exact absurd hHead hDigit

/-- The digits of a number are read as the number. -/
theorem readDigits_toDigits {limit n : Nat} (beyond : IntegerFault) (h : n ≤ limit) :
    readDigits limit beyond 0 (Nat.toDigits 10 n) = .ok n := by
  refine (readDigits_eq_ok_iff (Nat.zero_le limit)).mpr ⟨fun c hc => ?_, ?_, h⟩
  · exact Nat.isDigit_of_mem_toDigits (by decide) (by decide) hc
  · exact Nat.ofDigitChars_ten_toDigits

/-- **A number that is written out is read again.** -/
theorem readNatural_toString {limit n : Nat} (h : n ≤ limit) :
    readNatural limit (toString n).toList = .ok n := by
  have hDigits : (toString n).toList = Nat.toDigits 10 n := by
    rw [Nat.toString_eq_ofList_toDigits, String.toList_ofList]
  rw [hDigits]
  cases hText : Nat.toDigits 10 n with
  | nil => exact absurd hText Nat.toDigits_ne_nil
  | cons c rest =>
      have hDigit : c.isDigit = true :=
        Nat.isDigit_of_mem_toDigits (by decide) (by decide) (hText ▸ List.mem_cons_self)
      have hSign : c ≠ '+' := by
        rintro rfl
        cases hDigit
      have hRead := readDigits_toDigits .tooLarge h
      rw [hText] at hRead
      unfold readNatural
      split <;> simp_all

end FieldSearch.Number
