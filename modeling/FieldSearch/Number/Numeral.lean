import FieldSearch.Number.DoubleDouble
import FieldSearch.Number.Digits

/-!
# Numerals in texts

A numeral is an optional sign, digits with at most one point among them and at least one digit, and
an optional exponent; blanks may stand around it. It is an integer when it has neither point nor
exponent and fits 64 bits, and otherwise a binary number. For that the first nineteen or twenty
digits are taken and scaled by the exponent in arithmetic of about 106 bits.
-/

namespace FieldSearch.Number

/-- What a numeral stands for. -/
inductive Numeral where
  | integer (value : Int)
  | real (value : Binary64)
deriving DecidableEq, Repr

namespace Numeral

/-- The blanks around a numeral. -/
def isBlank (c : Char) : Bool := c = ' ' || (9 ≤ c.toNat && c.toNat ≤ 13)

/-- A text without the blanks around it. -/
def trim (text : List Char) : List Char :=
  ((text.dropWhile isBlank).reverse.dropWhile isBlank).reverse

/-- The sign in front, and the rest. -/
def takeSign : List Char → Bool × List Char
  | '-' :: rest => (true, rest)
  | '+' :: rest => (false, rest)
  | text => (false, text)

/-- The value of digits. -/
def digitsValue (digits : List Char) : Nat :=
  digits.foldl (fun value c => value * 10 + (c.toNat - '0'.toNat)) 0

/-- The least significand that takes no further digit. -/
def fullSignificand : Nat := 1844674407370955160

/-- Digits taken into a significand until it is full; beside it the number of digits left out. -/
def takeDigits : Nat → List Char → Nat × Nat
  | significand, [] => (significand, 0)
  | significand, c :: rest =>
      if significand < fullSignificand then
        takeDigits (significand * 10 + (c.toNat - '0'.toNat)) rest
      else (significand, rest.length + 1)

/-- The least significand that is not multiplied by ten. -/
def wideSignificand : Nat := 1844674407370954956

/-- A positive exponent moved into the significand as far as 64 bits allow. -/
def absorb : Nat → Nat → Nat × Nat
  | significand, 0 => (significand, 0)
  | significand, exponent + 1 =>
      if significand < wideSignificand then absorb (significand * 10) exponent
      else (significand, exponent + 1)

/-- Zeros at the end of a significand moved into a negative exponent, given by its size. -/
def release : Nat → Nat → Nat × Nat
  | significand, 0 => (significand, 0)
  | significand, exponent + 1 =>
      if significand % 10 = 0 then release (significand / 10) exponent
      else (significand, exponent + 1)

/-- The number `significand · 10 ^ exponent`, worked out as a sum of two binary numbers; what leaves
the range on the way is infinite. -/
def scaledReal (negative : Bool) (significand : Nat) (exponent : Int) : Binary64 :=
  if significand = 0 then Binary64.ofWord negative 0
  else
    let (significand, exponent) :=
      if 0 ≤ exponent then
        let (significand, rest) := absorb significand exponent.toNat
        (significand, (rest : Int))
      else
        let (significand, rest) := release significand (-exponent).toNat
        (significand, -(rest : Int))
    let size := ((DoubleDouble.ofNat significand).scale exponent).sum
    let size := if size.isUndefined then Binary64.ofWord false Binary64.infinityWord else size
    if negative then size.neg else size

/-- The size of an exponent in digits; beyond 9999 a further digit makes it 10000. -/
def exponentSize (digits : List Char) : Nat :=
  digits.foldl
    (fun size c => if size < 10000 then size * 10 + (c.toNat - '0'.toNat) else 10000) 0

/-- The exponent that follows the digits, zero when nothing follows; none when what follows is no
exponent. -/
def exponent? : List Char → Option Int
  | [] => some 0
  | e :: rest =>
      if e = 'e' ∨ e = 'E' then
        let (negative, digits) := takeSign rest
        if digits.isEmpty ∨ !digits.all Char.isDigit then none
        else
          let size : Int := exponentSize digits
          some (if negative then -size else size)
      else none

/-- The numeral that a text is, if it is one. -/
def ofText? (text : List Char) : Option Numeral :=
  let (negative, body) := takeSign (trim text)
  let whole := body.takeWhile Char.isDigit
  let rest := body.dropWhile Char.isDigit
  let (fraction, rest, isPlain) := match rest with
    | '.' :: rest => (rest.takeWhile Char.isDigit, rest.dropWhile Char.isDigit, false)
    | rest => ([], rest, rest.isEmpty)
  if whole.isEmpty ∧ fraction.isEmpty then none
  else
    match exponent? rest with
    | none => none
    | some exponent =>
        let size : Int := digitsValue whole
        let signed := if negative then -size else size
        if isPlain ∧ fitsInt64 signed then some (.integer signed)
        else
          let (significand, beyond) := takeDigits 0 whole
          let (significand, dropped) := takeDigits significand fraction
          let shift : Int := beyond - (fraction.length - dropped : Nat)
          some (.real (scaledReal negative significand (exponent + shift)))

end Numeral
end FieldSearch.Number
