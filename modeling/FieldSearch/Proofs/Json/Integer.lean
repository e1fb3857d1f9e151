import FieldSearch.Proofs.Json.Decoding
import FieldSearch.Proofs.Number.Integer
import Mathlib

/-!
# Integers in JSON texts

A number is taken as far as its digits go, so an integer is read again only where
something else stands behind it: the end of the text, or what delimits a value.  Its digits
are collected as long as they fit 64 bits, which those of every signed integer do, and no zero
stands in front of them, which the reader would not take.

## Main results

* `takes_readNumber`: the digits of a number are read as the number.
* `reads_int64`, `reads_value_integer`: an integer is read again, as an integer and as a
  value of any kind.
-/

namespace FieldSearch.Json

open Number (digitValue? maxNat64 fitsInt64 fitsInt64_iff)

variable {rest : List Char}

theorem Delimits.startsWithDigit (h : Delimits rest) : startsWithDigit rest = false := by
  cases rest with
  | nil => rfl
  | cons c rest =>
      have hMark : c ∈ [',', ']', '\x7d'] := h c rfl
      fin_cases hMark <;> rfl

/-- Digits that fit 64 bits are all collected. -/
theorem takeSignificand_append (hRest : startsWithDigit rest = false) {digits : List Char}
    (hDigits : ∀ c ∈ digits, c.isDigit = true) : ∀ value count,
      Nat.ofDigitChars 10 digits value ≤ maxNat64 →
        takeSignificand value count (digits ++ rest) =
          (Nat.ofDigitChars 10 digits value, count + digits.length, rest) := by
  induction digits with
  | nil =>
      intro value count _
      cases rest with
      | nil => rfl
      | cons c rest =>
          have hNone : digitValue? c = none := by
            change c.isDigit = false at hRest
            rw [digitValue?, hRest]
            rfl
          rw [List.nil_append, takeSignificand, hNone]
          rfl
  | cons c digits ih =>
      intro value count hFits
      obtain ⟨hDigit, hOthers⟩ := List.forall_mem_cons.mp hDigits
      rw [Nat.ofDigitChars_cons, Nat.mul_comm 10 value] at hFits ⊢
      have hValue : digitValue? c = some (c.toNat - '0'.toNat) := by
        rw [digitValue?, if_pos hDigit]
      have hStep : ¬ maxNat64 < value * 10 + (c.toNat - '0'.toNat) :=
        not_lt.mpr (le_trans (Number.le_ofDigitChars digits _) hFits)
      rw [List.cons_append, takeSignificand, hValue]
      dsimp only
      rw [if_neg hStep, ih hOthers _ _ hFits, List.length_cons]
      congr 2
      omega

theorem takes_readAfterInteger (hRest : Delimits rest) (negative : Bool) (n : Nat) :
    Takes (readAfterInteger negative n) rest (integerValue negative n) rest := by
  cases rest with
  | nil => rfl
  | cons c rest =>
      have hMark : c ∈ [',', ']', '\x7d'] := hRest c rfl
      fin_cases hMark <;> rfl

/-- **The digits of a number are read as the number.** -/
theorem takes_readNumber {n : Nat} (hFits : n ≤ maxNat64) (hRest : Delimits rest)
    (negative : Bool) :
    Takes (readNumber negative) (Nat.toDigits 10 n ++ rest) (integerValue negative n) rest := by
  have hAfter := takes_readAfterInteger hRest negative n
  have hSpelled := Number.spelled_toDigits n
  cases hText : Nat.toDigits 10 n with
  | nil => exact absurd hText hSpelled.nonempty
  | cons c digits =>
      by_cases hZero : c = '0'
      · subst hZero
        obtain rfl := Number.eq_zero_of_toDigits_eq_cons hText
        obtain rfl : digits = [] := (List.cons.inj hText).2.symm
        refine takes_get.bind ?_
        change Takes (do
          set rest
          if startsWithDigit rest then malformed .invalidNumber
          else readAfterInteger negative 0) ('0' :: rest) _ rest
        rw [hRest.startsWithDigit]
        exact hAfter
      · rw [hText] at hSpelled
        have hTake : takeSignificand 0 0 (c :: (digits ++ rest)) =
            (n, 0 + (c :: digits).length, rest) := by
          have hAll := takeSignificand_append hRest.startsWithDigit hSpelled.isDigit 0 0
            (hSpelled.value.le.trans hFits)
          rwa [hSpelled.value] at hAll
        refine takes_get.bind ?_
        dsimp only [List.cons_append]
        split
        · next hEq => cases hEq
        · next hEq => exact absurd (List.cons.inj hEq).1 hZero
        · next d others _ hEq =>
            obtain ⟨rfl, rfl⟩ := List.cons.inj hEq
            rw [hSpelled.isDigit_head, hTake]
            dsimp only
            rw [hRest.startsWithDigit]
            exact hAfter

theorem isBlank_of_isDigit {c : Char} (h : c.isDigit = true) : isBlank c = false := by
  rw [isBlank, Bool.or_eq_false_iff, Bool.or_eq_false_iff, Bool.or_eq_false_iff]
  refine ⟨⟨⟨?_, ?_⟩, ?_⟩, ?_⟩ <;> refine decide_eq_false ?_ <;> rintro rfl <;> cases h

theorem Decoder.integerOf_of_fits {value : Int} (h : fitsInt64 value = true) :
    integerOf Number.minInt64 Number.maxInt64 "i64" (.integer value) = .ok value := by
  have hBounds : Number.minInt64 ≤ value ∧ value ≤ Number.maxInt64 := by
    simpa [fitsInt64] using h
  rw [integerOf, if_pos hBounds]
  rfl

/-- How the text of an integer is read: by its first character, which is a minus sign or a digit. -/
theorem exists_takes_toString {value : Int} (h : fitsInt64 value = true) :
    ∃ c text, (toString value).toList = c :: text ∧
      (c = '-' ∧ (∀ rest, Delimits rest →
          Takes (readNumber true) (text ++ rest) (.integer value) rest) ∨
        c.isDigit = true ∧ ∀ rest, Delimits rest →
          Takes (readNumber false) (c :: text ++ rest) (.integer value) rest) := by
  obtain ⟨hLow, hHigh⟩ := fitsInt64_iff.mp h
  have hFits : value.natAbs ≤ maxNat64 := by
    rw [maxNat64]
    omega
  rw [Number.toList_toString]
  by_cases hSign : value < 0
  · refine ⟨'-', Nat.toDigits 10 value.natAbs, by rw [if_pos hSign]; rfl, .inl ⟨rfl, ?_⟩⟩
    intro rest hRest
    have hValue : integerValue true value.natAbs = .integer value := by
      have hMinus : -(value.natAbs : Int) = value := by omega
      have hNot : ¬ (value.natAbs = 0 ∨ -(value.natAbs : Int) < Number.minInt64) := by
        rw [Number.minInt64]
        omega
      rw [integerValue, if_neg (by decide), if_neg hNot, hMinus]
    exact hValue ▸ takes_readNumber hFits hRest true
  · have hSpelled := Number.spelled_toDigits value.natAbs
    rw [if_neg hSign, List.nil_append]
    cases hText : Nat.toDigits 10 value.natAbs with
    | nil => exact absurd hText hSpelled.nonempty
    | cons c text =>
        rw [hText] at hSpelled
        refine ⟨c, text, rfl, .inr ⟨hSpelled.isDigit_head, fun rest hRest => ?_⟩⟩
        have hValue : integerValue false value.natAbs = .integer value := by
          have hPlus : (value.natAbs : Int) = value := by omega
          rw [integerValue, if_pos (by decide), hPlus]
        rw [← hText]
        exact hValue ▸ takes_readNumber hFits hRest false

namespace Decoder

/-- The text of an integer is not taken for a blank, the end of a list or null. -/
theorem opens_integer {value : Int} (h : fitsInt64 value = true) :
    ∃ c text, (print (.integer value)).toList = c :: text ∧ isBlank c = false ∧ c ≠ ']' ∧
      (c = 'n' → Json.integer value = .null) := by
  obtain ⟨c, text, hText, hFirst⟩ := exists_takes_toString h
  refine ⟨c, text, hText, ?_⟩
  rcases hFirst with ⟨rfl, -⟩ | ⟨hDigit, -⟩
  · exact ⟨rfl, by decide, nofun⟩
  · refine ⟨isBlank_of_isDigit hDigit, ?_, ?_⟩
    · rintro rfl
      cases hDigit
    · rintro rfl
      cases hDigit

/-- **An integer of 64 bits is read again.** -/
theorem reads_int64 {value : Int} (h : fitsInt64 value = true) (depth : Nat) :
    int64.Reads depth (.integer value) value where
  opens := opens_integer h
  ofJson := integerOf_of_fits h
  ofText rest hRest := by
    obtain ⟨c, text, hText, hFirst⟩ := exists_takes_toString h
    have hInteger : Takes (liftM (integerOf Number.minInt64 Number.maxInt64 "i64" (.integer value)))
        rest value rest := takes_lift (integerOf_of_fits h)
    rw [print, hText]
    rcases hFirst with ⟨rfl, hNumber⟩ | ⟨hDigit, hNumber⟩
    · exact (takes_peek rfl _).bind (takes_advance.bind ((hNumber rest hRest).bind hInteger))
    · have hMinus : c ≠ '-' := by
        rintro rfl
        cases hDigit
      refine (takes_peek (isBlank_of_isDigit hDigit) _).bind ?_
      rw [if_neg hMinus, if_pos hDigit]
      exact (hNumber rest hRest).bind hInteger

/-- An integer is read again as a value of any kind. -/
theorem reads_value_integer {value : Int} (h : fitsInt64 value = true) (depth : Nat) :
    Decoder.value.Reads depth (.integer value) (.integer value) where
  opens := opens_integer h
  ofJson := rfl
  ofText rest hRest := by
    obtain ⟨c, text, hText, hFirst⟩ := exists_takes_toString h
    rw [print, hText]
    refine takes_get.bind ?_
    rcases hFirst with ⟨rfl, hNumber⟩ | ⟨hDigit, hNumber⟩
    · exact (takes_peek rfl _).bind (takes_advance.bind (hNumber rest hRest))
    · refine (takes_peek (isBlank_of_isDigit hDigit) _).bind ?_
      have hRead := hNumber rest hRest
      split <;> first | cases hDigit | rwa [if_pos hDigit]

end Decoder
end FieldSearch.Json
