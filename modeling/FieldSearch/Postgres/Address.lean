import FieldSearch.Text.Split
import FieldSearch.Number.Digits

/-!
# Internet addresses

Whether a text is an address of a host on a network. The short form has four numbers below 256 with
points between them. The long form has eight groups of up to four hexadecimal digits with colons
between them; two colons stand for one or more groups that are zero, and the last two groups may be
written in the short form.
-/

namespace FieldSearch.Postgres.Address

/-- The digits at the beginning of a text, none if they are more than `limit`. -/
def readNumeral? (isDigit : Char → Bool) (limit : Nat) (text : List Char) :
    Option (List Char × List Char) :=
  let digits := text.takeWhile isDigit
  if digits.isEmpty || limit < digits.length then none
  else some (digits, text.dropWhile isDigit)

/-- What follows a number below 256, written without needless zeros. -/
def readByte? (text : List Char) : Option (List Char) := do
  let (digits, rest) ← readNumeral? Char.isDigit 3 text
  let isShort := digits.length = 1 || digits.head? != some '0'
  if isShort && (Number.readNatural 0xff digits).isOk then some rest else none

/-- What follows a character that has to come next. -/
def readChar? (expected : Char) : List Char → Option (List Char)
  | [] => none
  | c :: rest => if c = expected then some rest else none

/-- What follows an address of the short form. -/
def readShort? (text : List Char) : Option (List Char) := do
  let text ← readByte? text
  let text ← readByte? (← readChar? '.' text)
  let text ← readByte? (← readChar? '.' text)
  readByte? (← readChar? '.' text)

/-- What follows a group of the long form. -/
def readGroup? (text : List Char) : Option (List Char) :=
  (readNumeral? (fun c => (Number.hexValue? c).isSome) 4 text).map Prod.snd

/-- What groups at the beginning of a text come to. -/
structure Groups where
  count : Nat
  /-- Whether the last two are written in the short form. -/
  endShort : Bool
  rest : List Char

/-- As many groups as there are, up to a limit, each behind a colon but the first. -/
def readGroups : Nat → Bool → List Char → Groups
  | 0, _, text => ⟨0, false, text⟩
  | more + 1, isFirst, text =>
      match if isFirst then some text else readChar? ':' text with
      | none => ⟨0, false, text⟩
      | some start =>
          match if 0 < more then readShort? start else none, readGroup? start with
          | some rest, _ => ⟨2, true, rest⟩
          | none, some rest =>
              let groups := readGroups more false rest
              { groups with count := groups.count + 1 }
          | none, none => ⟨0, false, text⟩

/-- What follows an address of the long form. -/
def readLong? (text : List Char) : Option (List Char) :=
  let head := readGroups 8 true text
  if head.count = 8 then some head.rest
  else if head.endShort then none
  else do
    let text ← readChar? ':' (← readChar? ':' head.rest)
    some (readGroups (7 - head.count) true text).rest

/-- Whether a text is an address, of either form. -/
def isValid (text : List Char) : Bool :=
  match readShort? text with
  | some rest => rest.isEmpty
  | none => readLong? text == some []

end FieldSearch.Postgres.Address
