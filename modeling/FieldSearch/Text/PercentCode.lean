import FieldSearch.Number.Digits

/-!
# Percent codes

In an address a percent sign and two hexadecimal digits stand for the byte of that number. A percent
sign that two such digits do not follow stands for itself.
-/

namespace FieldSearch.Text.PercentCode

/-- The percent sign. -/
def sign : UInt8 := 0x25

/-- The byte of two hexadecimal digits. -/
def byte? (high low : UInt8) : Option UInt8 :=
  match Number.hexValue? (Char.ofNat high.toNat), Number.hexValue? (Char.ofNat low.toNat) with
  | some high, some low => some (UInt8.ofNat (high * 16 + low))
  | _, _ => none

/-- The bytes that bytes with percent codes stand for. -/
def decode : List UInt8 → List UInt8
  | first :: high :: low :: rest =>
      if first = sign then
        match byte? high low with
        | some byte => byte :: decode rest
        | none => first :: decode (high :: low :: rest)
      else first :: decode (high :: low :: rest)
  | few => few

end FieldSearch.Text.PercentCode
