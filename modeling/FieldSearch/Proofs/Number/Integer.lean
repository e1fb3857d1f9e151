import FieldSearch.Proofs.Number.Digits
import Mathlib

/-!
# Integers that are written in digits

An integer is spelled by digits with or without a sign in front, and by nothing else.  The
reader accepts exactly these spellings as long as the integer fits the width; the least
integer of a width has no positive counterpart, so a minus sign has a limit of its own.

An integer that is written out is one of its spellings: the one without a plus sign and
without zeros in front.

## Main results

* `readInteger_eq_ok_iff`: what is read, and as what.
* `readInt64?_toString`: an integer that is written out is read again.
* `eq_zero_of_toDigits_eq_cons`: no zero stands in front of the digits of another number.
-/

namespace FieldSearch.Number

theorem fitsInt64_iff {n : Int} : fitsInt64 n = true ↔ -2 ^ 63 ≤ n ∧ n < 2 ^ 63 := by
  rw [fitsInt64, Bool.and_eq_true, decide_eq_true_eq, decide_eq_true_eq, minInt64, maxInt64]
  omega

/-! ## Spellings -/

/-- ASCII digits, at least one, that stand for the number. -/
structure Spelled (digits : List Char) (n : Nat) : Prop where
  nonempty : digits ≠ []
  isDigit : ∀ c ∈ digits, c.isDigit = true
  value : Nat.ofDigitChars 10 digits 0 = n

/-- Digits that stand for the integer, with or without a sign in front. -/
inductive Spells : List Char → Int → Prop where
  | bare {digits : List Char} {n : Nat} (spelled : Spelled digits n) : Spells digits n
  | plus {digits : List Char} {n : Nat} (spelled : Spelled digits n) : Spells ('+' :: digits) n
  | minus {digits : List Char} {n : Nat} (spelled : Spelled digits n) :
      Spells ('-' :: digits) (-(n : Int))

theorem spelled_toDigits (n : Nat) : Spelled (Nat.toDigits 10 n) n where
  nonempty := Nat.toDigits_ne_nil
  isDigit _ hc := Nat.isDigit_of_mem_toDigits (by decide) (by decide) hc
  value := Nat.ofDigitChars_ten_toDigits

section

variable {digits : List Char} {value : Int}

theorem not_spelled_nil (n : Nat) : ¬ Spelled [] n := fun h => h.nonempty rfl

theorem Spelled.isDigit_head {c : Char} {n : Nat} (h : Spelled (c :: digits) n) :
    c.isDigit = true :=
  h.isDigit c List.mem_cons_self

theorem spells_plus_iff :
    Spells ('+' :: digits) value ↔ ∃ n : Nat, Spelled digits n ∧ (n : Int) = value := by
  constructor
  · intro h
    cases h with
    | bare spelled => cases spelled.isDigit_head
    | plus spelled => exact ⟨_, spelled, rfl⟩
  · rintro ⟨n, hSpelled, rfl⟩
    exact .plus hSpelled

theorem spells_minus_iff :
    Spells ('-' :: digits) value ↔ ∃ n : Nat, Spelled digits n ∧ -(n : Int) = value := by
  constructor
  · intro h
    cases h with
    | bare spelled => cases spelled.isDigit_head
    | minus spelled => exact ⟨_, spelled, rfl⟩
  · rintro ⟨n, hSpelled, rfl⟩
    exact .minus hSpelled

theorem spells_bare_iff {c : Char} (hPlus : c ≠ '+') (hMinus : c ≠ '-') :
    Spells (c :: digits) value ↔ ∃ n : Nat, Spelled (c :: digits) n ∧ (n : Int) = value := by
  constructor
  · intro h
    cases h with
    | bare spelled => exact ⟨_, spelled, rfl⟩
    | plus => exact absurd rfl hPlus
    | minus => exact absurd rfl hMinus
  · rintro ⟨n, hSpelled, rfl⟩
    exact .bare hSpelled

/-! ## Reading -/

/-- Digits that are read one by one, and what is made of their number. -/
theorem map_readDigits_eq_ok_iff {limit : Nat} {beyond : IntegerFault} {c : Char}
    (sign : Nat → Int) :
    (readDigits limit beyond 0 (c :: digits)).map sign = .ok value ↔
      ∃ n : Nat, Spelled (c :: digits) n ∧ n ≤ limit ∧ sign n = value := by
  constructor
  · intro h
    cases hRead : readDigits limit beyond 0 (c :: digits) with
    | error fault =>
        rw [hRead] at h
        cases h
    | ok n =>
        rw [hRead] at h
        obtain ⟨hDigits, hValue, hLimit⟩ := (readDigits_eq_ok_iff (Nat.zero_le limit)).mp hRead
        exact ⟨n, ⟨List.cons_ne_nil c digits, hDigits, hValue⟩, hLimit, Except.ok.inj h⟩
  · rintro ⟨n, hSpelled, hLimit, rfl⟩
    have hRead : readDigits limit beyond 0 (c :: digits) = .ok n :=
      (readDigits_eq_ok_iff (Nat.zero_le limit)).mpr ⟨hSpelled.isDigit, hSpelled.value, hLimit⟩
    rw [hRead]
    rfl

theorem readInteger_plus_eq_ok_iff {width : Nat} :
    readInteger width ('+' :: digits) = .ok value ↔
      ∃ n : Nat, Spelled digits n ∧ n ≤ twoPow (width - 1) - 1 ∧ (n : Int) = value := by
  cases digits with
  | nil => exact iff_of_false nofun fun ⟨n, hSpelled, _⟩ => not_spelled_nil n hSpelled
  | cons c digits => exact map_readDigits_eq_ok_iff Int.ofNat

theorem readInteger_minus_eq_ok_iff {width : Nat} :
    readInteger width ('-' :: digits) = .ok value ↔
      ∃ n : Nat, Spelled digits n ∧ n ≤ twoPow (width - 1) ∧ -(n : Int) = value := by
  cases digits with
  | nil => exact iff_of_false nofun fun ⟨n, hSpelled, _⟩ => not_spelled_nil n hSpelled
  | cons c digits =>
      have hRead : readInteger width ('-' :: c :: digits) =
          Except.map (fun n : Nat => -(n : Int))
            (readDigits (twoPow (width - 1)) .tooSmall 0 (c :: digits)) := by
        rw [readInteger]
        · cases readDigits (twoPow (width - 1)) .tooSmall 0 (c :: digits) <;> rfl
        · exact List.cons_ne_nil c digits
      rw [hRead]
      exact map_readDigits_eq_ok_iff fun n => -(n : Int)

theorem readInteger_bare_eq_ok_iff {width : Nat} {c : Char} (hPlus : c ≠ '+') (hMinus : c ≠ '-') :
    readInteger width (c :: digits) = .ok value ↔
      ∃ n : Nat, Spelled (c :: digits) n ∧ n ≤ twoPow (width - 1) - 1 ∧ (n : Int) = value := by
  have hRead : readInteger width (c :: digits) =
      (readDigits (twoPow (width - 1) - 1) .tooLarge 0 (c :: digits)).map Int.ofNat := by
    unfold readInteger
    split <;> simp_all
  rw [hRead]
  exact map_readDigits_eq_ok_iff Int.ofNat

/-- A limit on the digits bounds the integer that is made of their number. -/
theorem exists_spelled_iff {limit : Nat} {sign : Nat → Int} {low high : Int}
    (hLimit : ∀ n, n ≤ limit ↔ low ≤ sign n ∧ sign n < high) :
    (∃ n, Spelled digits n ∧ n ≤ limit ∧ sign n = value) ↔
      (∃ n, Spelled digits n ∧ sign n = value) ∧ low ≤ value ∧ value < high := by
  constructor
  · rintro ⟨n, hSpelled, hWithin, rfl⟩
    exact ⟨⟨n, hSpelled, rfl⟩, (hLimit n).mp hWithin⟩
  · rintro ⟨⟨n, hSpelled, rfl⟩, hBounds⟩
    exact ⟨n, hSpelled, (hLimit n).mpr hBounds, rfl⟩

/-- **The reader accepts the spellings of the integers that fit the width**, and gives these. -/
theorem readInteger_eq_ok_iff {width : Nat} {text : List Char} :
    readInteger width text = .ok value ↔
      Spells text value ∧ -(twoPow (width - 1) : Int) ≤ value ∧ value < twoPow (width - 1) := by
  have hPos : 0 < twoPow (width - 1) := twoPow_pos (width - 1)
  cases text with
  | nil =>
      constructor
      · intro h
        cases h
      · rintro ⟨h, -⟩
        cases h with
        | bare spelled => exact absurd spelled (not_spelled_nil _)
  | cons c digits =>
      by_cases hPlus : c = '+'
      · rw [hPlus, readInteger_plus_eq_ok_iff, spells_plus_iff]
        exact exists_spelled_iff fun n => by omega
      · by_cases hMinus : c = '-'
        · rw [hMinus, readInteger_minus_eq_ok_iff, spells_minus_iff]
          exact exists_spelled_iff fun n => by omega
        · rw [readInteger_bare_eq_ok_iff hPlus hMinus, spells_bare_iff hPlus hMinus]
          exact exists_spelled_iff fun n => by omega

theorem readInt64?_eq_some_iff {text : String} :
    readInt64? text = some value ↔ Spells text.toList value ∧ fitsInt64 value = true := by
  have hBound : (twoPow (64 - 1) : Int) = 2 ^ 63 := by rw [twoPow, Nat.shiftLeft_eq]; rfl
  rw [fitsInt64_iff, ← hBound, ← readInteger_eq_ok_iff, readInt64?]
  cases readInteger 64 text.toList <;> simp [Except.toOption]

end

/-! ## Writing -/

/-- An integer is written as its digits, behind a minus sign if it is negative. -/
theorem toList_toString (value : Int) :
    (toString value).toList =
      (if value < 0 then ['-'] else []) ++ Nat.toDigits 10 value.natAbs := by
  cases value with
  | ofNat n => simp [ToString.toString, Int.repr, Nat.toList_repr]
  | negSucc n => simp [ToString.toString, Int.repr, Nat.toList_repr, Int.negSucc_lt_zero]

/-- An integer that is written out is spelled by what is written. -/
theorem spells_toString (value : Int) : Spells (toString value).toList value := by
  rw [toList_toString]
  by_cases hSign : value < 0
  · have hValue : value = -(value.natAbs : Int) := by omega
    rw [if_pos hSign, List.singleton_append, spells_minus_iff]
    exact ⟨_, spelled_toDigits _, hValue.symm⟩
  · have hValue : (value.natAbs : Int) = value := by omega
    rw [if_neg hSign, List.nil_append]
    exact hValue ▸ .bare (spelled_toDigits _)

/-- **An integer that is written out is read again**, in the whole range. -/
theorem readInt64?_toString {value : Int} (h : fitsInt64 value = true) :
    readInt64? (toString value) = some value :=
  readInt64?_eq_some_iff.mpr ⟨spells_toString value, h⟩

/-- No zero stands in front of the digits of a number, unless it is zero itself. -/
theorem eq_zero_of_toDigits_eq_cons {n : Nat} :
    ∀ {rest : List Char}, Nat.toDigits 10 n = '0' :: rest → n = 0 := by
  induction n using Nat.strongRecOn with
  | _ n ih =>
      intro rest h
      by_cases hSmall : n < 10
      · rw [Nat.toDigits_of_lt_base hSmall] at h
        have hOnly : ∀ n < 10, n.digitChar = '0' → n = 0 := by decide
        exact hOnly n hSmall (List.cons.inj h).1
      · rw [Nat.toDigits_of_base_le (by decide) (by omega)] at h
        cases hFront : Nat.toDigits 10 (n / 10) with
        | nil => exact absurd hFront Nat.toDigits_ne_nil
        | cons c front =>
            rw [hFront, List.cons_append] at h
            obtain rfl := (List.cons.inj h).1
            have hZero := ih (n / 10) (by omega) hFront
            omega

end FieldSearch.Number
