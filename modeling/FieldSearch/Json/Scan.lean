import FieldSearch.Json.Fault
import FieldSearch.Number.Digits
import FieldSearch.Number.Scaled

/-!
# Tokens of a JSON text

Readers take what they need from the front of a list of characters and leave the rest. This module
holds those without nesting: blanks, words, numbers and texts. Numbers keep up to 64 bits of
significand; further digits before the point only raise the power of ten, and further digits behind
it are dropped. An integer without a point or an exponent stays an integer as long as it fits 64
bits, unsigned or signed; minus zero is real.
-/

namespace FieldSearch.Json

open Number (Binary64 digitValue? hexValue? maxNat64)

/-- A reader: the value read and the characters left over. -/
abbrev Reader (α : Type) := StateT (List Char) (Except Fault) α

/-- Gives up because the text is malformed. -/
def malformed {α : Type} (fault : Malformed) : Reader α := throw (.malformed fault)

/-- Gives up because the value has another shape. -/
def mismatch {α : Type} (fault : Mismatch) : Reader α := throw (.mismatch fault)

/-- The four blank characters of JSON. -/
def isBlank (c : Char) : Bool := c = ' ' || c = '\n' || c = '\t' || c = '\r'

/-- The text without the blanks before its first other character. -/
def skipBlanks : List Char → List Char
  | [] => []
  | c :: rest => if isBlank c then skipBlanks rest else c :: rest

/-- The next character that is not blank, left in place; `fault` when there is none. -/
def peek (fault : Malformed) : Reader Char := do
  let chars := skipBlanks (← get)
  set chars
  match chars with
  | [] => malformed fault
  | c :: _ => pure c

/-- Drops one character. -/
def advance : Reader Unit := modify (·.drop 1)

/-- The rest of a word whose first letter has been read. -/
def expectWord : List Char → Reader Unit
  | [] => pure ()
  | expected :: more => do
      match ← get with
      | [] => malformed .endInValue
      | c :: rest =>
          set rest
          if c = expected then expectWord more else malformed .expectedWord

/-! ## Texts -/

/-- The number that four hexadecimal digits make. -/
def readHex : Reader Nat := do
  match ← get with
  | a :: b :: c :: d :: rest =>
      set rest
      match hexValue? a, hexValue? b, hexValue? c, hexValue? d with
      | some a, some b, some c, some d => pure (((a * 16 + b) * 16 + c) * 16 + d)
      | _, _, _, _ => malformed .invalidEscape
  | short =>
      let bytes := (String.ofList short).utf8ByteSize
      malformed (if 4 ≤ bytes then .invalidEscape else .endInText)

/-- Takes one expected character of an escape pair. -/
def expectInPair (expected : Char) : Reader Unit := do
  match ← get with
  | [] => malformed .endInText
  | c :: rest =>
      if c = expected then set rest else malformed .unfinishedSurrogatePair

/-- The character of a numeric escape whose `\u` has been read. -/
def readUnicodeEscape : Reader Char := do
  let first ← readHex
  if 0xDC00 ≤ first ∧ first ≤ 0xDFFF then malformed .loneSurrogate
  else if first < 0xD800 ∨ 0xDBFF < first then pure (Char.ofNat first)
  else
    expectInPair '\\'
    expectInPair 'u'
    let second ← readHex
    if second < 0xDC00 ∨ 0xDFFF < second then malformed .loneSurrogate
    else pure (Char.ofNat ((first - 0xD800) * 1024 + (second - 0xDC00) + 0x10000))

/-- The characters that a backslash makes out of a letter. -/
def simpleEscape? : Char → Option Char
  | '"' => some '"'
  | '\\' => some '\\'
  | '/' => some '/'
  | 'b' => some (Char.ofNat 8)
  | 'f' => some (Char.ofNat 12)
  | 'n' => some '\n'
  | 'r' => some '\r'
  | 't' => some '\t'
  | _ => none

/-- The character of an escape whose backslash has been read. -/
def readEscape : Reader Char := do
  match ← get with
  | [] => malformed .endInText
  | 'u' :: rest =>
      set rest
      readUnicodeEscape
  | c :: rest =>
      set rest
      match simpleEscape? c with
      | some value => pure value
      | none => malformed .invalidEscape

/-- The rest of a text whose opening quote has been read; `read` holds what came before, last
character first, and `fuel` bounds the characters still to come. -/
def readTextFrom : Nat → List Char → Reader String
  | 0, _ => malformed .endInText
  | fuel + 1, read => do
      match ← get with
      | [] => malformed .endInText
      | '"' :: rest =>
          set rest
          pure (String.ofList read.reverse)
      | '\\' :: rest =>
          set rest
          let c ← readEscape
          readTextFrom fuel (c :: read)
      | c :: rest =>
          if c.toNat < 0x20 then malformed .controlCharacter
          else
            set rest
            readTextFrom fuel (c :: read)

/-- A text whose opening quote has been read. -/
def readTextBody : Reader String := do
  readTextFrom ((← get).length + 1) []

/-- Passes over an escape without asking what it stands for, surrogates included. -/
def skipEscape : Reader Unit := do
  match ← get with
  | [] => malformed .endInText
  | 'u' :: rest =>
      set rest
      discard readHex
  | c :: rest =>
      set rest
      if (simpleEscape? c).isNone then malformed .invalidEscape

/-- Passes over the rest of a text. -/
def skipTextFrom : Nat → Reader Unit
  | 0 => malformed .endInText
  | fuel + 1 => do
      match ← get with
      | [] => malformed .endInText
      | '"' :: rest => set rest
      | '\\' :: rest =>
          set rest
          skipEscape
          skipTextFrom fuel
      | c :: rest =>
          if c.toNat < 0x20 then malformed .controlCharacter
          else
            set rest
            skipTextFrom fuel

/-- Passes over a text whose opening quote has been read. -/
def skipTextBody : Reader Unit := do
  skipTextFrom ((← get).length + 1)

/-! ## Numbers -/

/-- Whether the next character is a digit. -/
def startsWithDigit : List Char → Bool
  | [] => false
  | c :: _ => c.isDigit

/-- Digits as long as the significand fits 64 bits: the significand, how many digits were taken, and
what is left. -/
def takeSignificand : Nat → Nat → List Char → Nat × Nat × List Char
  | value, count, [] => (value, count, [])
  | value, count, c :: rest =>
      match digitValue? c with
      | none => (value, count, c :: rest)
      | some digit =>
          if maxNat64 < value * 10 + digit then (value, count, c :: rest)
          else takeSignificand (value * 10 + digit) (count + 1) rest

/-- Digits with their number. -/
def countDigits : Nat → List Char → Nat × List Char
  | count, [] => (count, [])
  | count, c :: rest => if c.isDigit then countDigits (count + 1) rest else (count, c :: rest)

/-- Drops digits. -/
def skipDigits (chars : List Char) : List Char := (countDigits 0 chars).2

/-- The real number of a significand and a power of ten. -/
def finishReal (negative : Bool) (significand : Nat) (exponent : Int) : Reader Json :=
  match Number.scaled? significand exponent with
  | some x => pure (.real (if negative then x.neg else x))
  | none => malformed .numberOutOfRange

/-- The greatest exponent that is kept as a number. -/
def maxExponent : Nat := Number.maxInt32

/-- Exponent digits: their value, or nothing once it is too great. -/
def takeExponent : Nat → List Char → Option Nat × List Char
  | value, [] => (some value, [])
  | value, c :: rest =>
      match digitValue? c with
      | none => (some value, c :: rest)
      | some digit =>
          if maxExponent < value * 10 + digit then (none, rest)
          else takeExponent (value * 10 + digit) rest

/-- The sign of an exponent, plus when none is written. -/
def takeExponentSign : List Char → Bool × List Char
  | '+' :: rest => (false, rest)
  | '-' :: rest => (true, rest)
  | chars => (false, chars)

/-- The rest of a number behind the letter of its exponent. -/
def readExponent (negative : Bool) (significand : Nat) (exponent : Int) : Reader Json := do
  let (down, chars) := takeExponentSign (← get)
  match chars with
  | [] => malformed .endInValue
  | c :: _ =>
      if !c.isDigit then malformed .invalidNumber
      else
        match takeExponent 0 chars with
        | (some value, rest) =>
            set rest
            finishReal negative significand (if down then exponent - value else exponent + value)
        | (none, rest) =>
            if significand ≠ 0 ∧ !down then malformed .numberOutOfRange
            else
              set (skipDigits rest)
              pure (.real (Binary64.ofWord negative 0))

/-- A number once its digits have been read: an exponent may follow. -/
def readAfterDigits (negative : Bool) (significand : Nat) (exponent : Int) : Reader Json := do
  match ← get with
  | 'e' :: rest | 'E' :: rest =>
      set rest
      readExponent negative significand exponent
  | _ => finishReal negative significand exponent

/-- The rest of a number behind its point. -/
def readFraction (negative : Bool) (significand : Nat) (exponent : Int) : Reader Json := do
  let (value, count, rest) := takeSignificand significand 0 (← get)
  if startsWithDigit rest then
    set (skipDigits rest)
    readAfterDigits negative value (exponent - count)
  else if count = 0 then
    malformed (if rest.isEmpty then .endInValue else .invalidNumber)
  else
    set rest
    readAfterDigits negative value (exponent - count)

/-- An integer as the value it stands for. -/
def integerValue (negative : Bool) (significand : Nat) : Json :=
  if !negative then .integer significand
  else if significand = 0 ∨ -(significand : Int) < Number.minInt64 then
    .real (Binary64.ofRatio true significand 1)
  else .integer (-(significand : Int))

/-- The rest of a number whose first digits have been read. -/
def readAfterInteger (negative : Bool) (significand : Nat) : Reader Json := do
  match ← get with
  | '.' :: rest =>
      set rest
      readFraction negative significand 0
  | 'e' :: rest | 'E' :: rest =>
      set rest
      readExponent negative significand 0
  | _ => pure (integerValue negative significand)

/-- The rest of a number with more digits before the point than are kept. -/
def readLongInteger (negative : Bool) (significand : Nat) : Reader Json := do
  let (count, rest) := countDigits 0 (← get)
  match rest with
  | '.' :: rest =>
      set rest
      readFraction negative significand count
  | _ =>
      set rest
      readAfterDigits negative significand count

/-- A number whose sign has been read. -/
def readNumber (negative : Bool) : Reader Json := do
  match ← get with
  | [] => malformed .endInValue
  | '0' :: rest =>
      set rest
      if startsWithDigit rest then malformed .invalidNumber else readAfterInteger negative 0
  | c :: rest =>
      if !c.isDigit then malformed .invalidNumber
      else
        let (value, _, rest) := takeSignificand 0 0 (c :: rest)
        set rest
        if startsWithDigit rest then readLongInteger negative value
        else readAfterInteger negative value

/-- Passes over the exponent of a number behind its letter. -/
def skipExponent : Reader Unit := do
  let (_, chars) := takeExponentSign (← get)
  if startsWithDigit chars then set (skipDigits chars) else malformed .invalidNumber

/-- Passes over what may follow the digits of a number. -/
def skipAfterDigits : Reader Unit := do
  match ← get with
  | 'e' :: rest | 'E' :: rest =>
      set rest
      skipExponent
  | _ => pure ()

/-- Passes over a number whose sign has been read. -/
def skipNumber : Reader Unit := do
  let chars ← get
  if !startsWithDigit chars then malformed .invalidNumber
  else
    match chars with
    | '0' :: rest =>
        if startsWithDigit rest then malformed .invalidNumber else set rest
    | _ => set (skipDigits chars)
    match ← get with
    | '.' :: rest =>
        if !startsWithDigit rest then malformed .invalidNumber
        else
          set (skipDigits rest)
          skipAfterDigits
    | _ => skipAfterDigits

end FieldSearch.Json
