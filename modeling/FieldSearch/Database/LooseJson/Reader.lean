import FieldSearch.Database.LooseJson.Basic

/-!
# Reading JSON loosely

A reader takes a value from the front of a text and gives the rest. Blanks and comments may stand
between all parts. Lists and objects may end with a comma.
-/

namespace FieldSearch.Database.LooseJson

open Number (hexValue?)

/-! ## Blanks and comments -/

/-- Whether a character is a blank. -/
def isBlank (c : Char) : Bool :=
  (9 ≤ c.toNat && c.toNat ≤ 13) ||
    [0x20, 0xa0, 0x1680, 0x2028, 0x2029, 0x202f, 0x205f, 0x3000, 0xfeff].contains c.toNat ||
    (0x2000 ≤ c.toNat && c.toNat ≤ 0x200a)

/-- Whether a character ends a line. -/
def endsLine (c : Char) : Bool := ['\n', '\r', '\u2028', '\u2029'].contains c

/-- What follows a line. -/
def skipLine : List Char → List Char
  | [] => []
  | c :: rest => if endsLine c then rest else skipLine rest

/-- What follows the end of a comment, if it ends. -/
def skipComment? : List Char → Option (List Char)
  | '*' :: '/' :: rest => some rest
  | _ :: rest => skipComment? rest
  | [] => none

/-- What follows blanks and comments, at most `fuel` of them. -/
def skipBlanks : (fuel : Nat) → List Char → List Char
  | 0, input => input
  | _, [] => []
  | fuel + 1, '/' :: '*' :: rest =>
      match rest with
      | [] => ['/', '*']
      | first :: others =>
          match skipComment? (first :: others) with
          | some rest => skipBlanks fuel rest
          | none => '/' :: '*' :: first :: others
  | fuel + 1, '/' :: '/' :: rest => skipBlanks fuel (skipLine rest)
  | fuel + 1, c :: rest => if isBlank c then skipBlanks fuel rest else c :: rest

/-- What follows all blanks and comments. -/
def skip (input : List Char) : List Char := skipBlanks input.length input

/-! ## Words and numbers -/

/-- Whether characters begin with a word of any case, and what follows it. -/
def word? : (word input : List Char) → Option (List Char)
  | [], input => some input
  | w :: word, c :: input => if c.toLower = w then word? word input else none
  | _ :: _, [] => none

/-- What follows, unless a word goes on there. -/
def ended? (rest : List Char) : Option (List Char) :=
  if rest.head?.any Char.isAlphanum then none else some rest

/-- The words for special numbers, in small letters. -/
def numberWords : List (String × LooseJson) :=
  [("inf", .real "9e999" false), ("infinity", .real "9e999" false), ("nan", .null),
    ("qnan", .null), ("snan", .null)]

/-- A word that stands for a value. -/
def wordValue? (input : List Char) : Option (LooseJson × List Char) :=
  let exact (word : String) (value : LooseJson) : Option (LooseJson × List Char) :=
    if word.toList.isPrefixOf input then
      (ended? (input.drop word.length)).map fun rest => (value, rest)
    else none
  ((exact "true" (.bool true)).or (exact "false" (.bool false))).or
    ((exact "null" .null).or (numberWords.findSome? fun (word, value) =>
      (word? word.toList input >>= ended?).map fun rest => (value, rest)))

/-- Whether a character is a hexadecimal digit. -/
def isHexDigit (c : Char) : Bool := (hexValue? c).isSome

/-- Digits behind the mark of hexadecimal numbers, and what follows them. -/
def hexDigits? : List Char → Option (List Char × List Char)
  | '0' :: x :: rest =>
      if (x = 'x' ∨ x = 'X') ∧ rest.head?.any isHexDigit then
        some ('0' :: x :: rest.takeWhile isHexDigit, rest.dropWhile isHexDigit)
      else none
  | _ => none

/-- An exponent, if one follows that is complete; none where it is not. -/
def exponent? : List Char → Option (List Char × List Char)
  | e :: rest =>
      if e = 'e' ∨ e = 'E' then
        let (sign, digits) := match rest with
          | '+' :: digits => (['+'], digits)
          | '-' :: digits => (['-'], digits)
          | digits => ([], digits)
        if digits.head?.any Char.isDigit then
          some (e :: sign ++ digits.takeWhile Char.isDigit, digits.dropWhile Char.isDigit)
        else none
      else some ([], e :: rest)
  | [] => some ([], [])

/-- A decimal number behind its sign. -/
def decimal? (sign : List Char) (input : List Char) : Option (LooseJson × List Char) :=
  let whole := input.takeWhile Char.isDigit
  let rest := input.dropWhile Char.isDigit
  let (point, fraction, rest) := match rest with
    | '.' :: rest => (['.'], rest.takeWhile Char.isDigit, rest.dropWhile Char.isDigit)
    | rest => ([], [], rest)
  if (whole.isEmpty && fraction.isEmpty) || (whole.head? == some '0' && 1 < whole.length) then none
  else
    (exponent? rest).map fun (exponent, rest) =>
      let digits := String.ofList (sign ++ whole ++ point ++ fraction ++ exponent)
      if point.isEmpty && exponent.isEmpty then (.integer digits false, rest)
      else (.real digits (!point.isEmpty && (whole.isEmpty || fraction.isEmpty)), rest)

/-- A number behind its sign; a plus sign is not kept. -/
def unsigned? (sign : List Char) (input : List Char) : Option (LooseJson × List Char) :=
  match hexDigits? input with
  | some (digits, rest) => some (.integer (String.ofList (sign ++ digits)) true, rest)
  | none => decimal? sign input

/-- A number with a sign, or the word for one without bounds. -/
def signed? (sign : List Char) (input : List Char) : Option (LooseJson × List Char) :=
  match word? "inf".toList input with
  | some rest =>
      some (.real (String.ofList (sign ++ "9e999".toList)) false,
        (word? "inity".toList rest).getD rest)
  | none => unsigned? sign input

/-! ## Texts -/

/-- How a text is written that has an escape, if that is one. -/
def escapeSpelling? : List Char → Option Spelling
  | 'u' :: a :: b :: c :: d :: _ =>
      if [a, b, c, d].all isHexDigit then some .escaped else none
  | 'x' :: a :: b :: _ => if isHexDigit a && isHexDigit b then some .loose else none
  | c :: _ =>
      if ['"', '\\', '/', 'b', 'f', 'n', 'r', 't'].contains c then some .escaped
      else if ['\'', 'v', '0', '\n', '\r', '\u2028', '\u2029'].contains c then some .loose
      else none
  | [] => none

/-- The looser of two spellings. -/
def Spelling.max : Spelling → Spelling → Spelling
  | .loose, _ | _, .loose => .loose
  | .escaped, _ | _, .escaped => .escaped
  | .plain, .plain => .plain

/-- A text up to its quote: its spelling, its characters, and what follows the quote. -/
def literal? (quote : Char) : List Char → Option (Spelling × List Char × List Char)
  | [] => none
  | '\\' :: c :: rest => do
      let found ← escapeSpelling? (c :: rest)
      let (spelling, written, rest) ← literal? quote rest
      pure (Spelling.max found spelling, '\\' :: c :: written, rest)
  | ['\\'] => none
  | c :: rest =>
      if c = quote then some (.plain, [], rest)
      else do
        let (spelling, written, rest) ← literal? quote rest
        let found : Spelling := if c.toNat < 32 ∨ c = '"' then .loose else .plain
        pure (Spelling.max found spelling, c :: written, rest)

/-- A text behind its first quote. -/
def quoted? (quote : Char) (input : List Char) : Option (Literal × List Char) :=
  (literal? quote input).map fun (spelling, written, rest) =>
    ({ spelling, written := String.ofList written }, rest)

/-- Whether a name without quotes may begin with a character. -/
def beginsName (c : Char) : Bool := c.isAlpha || c = '_' || c = '$' || 0x80 ≤ c.toNat

/-- A name without quotes: its characters and what follows, and whether it has an escape. -/
def name : List Char → Bool × List Char × List Char
  | [] => (false, [], [])
  | '\\' :: rest =>
      if escapeSpelling? rest = some .escaped ∧ rest.head? = some 'u' then
        let (_, written, rest) := name rest
        (true, '\\' :: written, rest)
      else (false, [], '\\' :: rest)
  | c :: rest =>
      if (beginsName c || c.isDigit) && !isBlank c then
        let (hasEscape, written, rest) := name rest
        (hasEscape, c :: written, rest)
      else (false, [], c :: rest)

/-- A label: a text, or a name that is no word for a value. -/
def label? (input : List Char) : Option (Literal × List Char) :=
  match input with
  | '"' :: rest => quoted? '"' rest
  | '\'' :: rest => quoted? '\'' rest
  | _ =>
      if (wordValue? input).isSome then none
      else
        match name input with
        | (hasEscape, c :: written, rest) =>
            if beginsName c || c = '\\' then
              some ({ spelling := if hasEscape then .escaped else .plain
                      written := String.ofList (c :: written) }, rest)
            else none
        | _ => none

/-! ## Values -/

/-- The greatest depth of lists and objects. -/
def maxDepth : Nat := 1000

mutual

/-- A value in front of a text, with at most `depth` levels of parts, in at most `fuel` steps. -/
def value? : (fuel depth : Nat) → List Char → Option (LooseJson × List Char)
  | 0, _, _ => none
  | fuel + 1, depth, input =>
      match skip input with
      | '\x7b' :: rest =>
          match depth with
          | 0 => none
          | depth + 1 =>
              (entries? fuel depth rest).map fun (entries, rest) => (.object entries, rest)
      | '[' :: rest =>
          match depth with
          | 0 => none
          | depth + 1 => (items? fuel depth rest).map fun (items, rest) => (.list items, rest)
      | '"' :: rest => (quoted? '"' rest).map fun (literal, rest) => (.text literal, rest)
      | '\'' :: rest => (quoted? '\'' rest).map fun (literal, rest) => (.text literal, rest)
      | '+' :: rest => signed? [] rest
      | '-' :: rest => signed? ['-'] rest
      | c :: rest =>
          if c.isDigit then unsigned? [] (c :: rest)
          else if c = '.' then
            if rest.head?.any Char.isDigit then decimal? [] (c :: rest) else none
          else wordValue? (c :: rest)
      | [] => none

/-- Items up to the end of their list. -/
def items? : (fuel depth : Nat) → List Char → Option (List LooseJson × List Char)
  | 0, _, _ => none
  | fuel + 1, depth, input =>
      match skip input with
      | ']' :: rest => some ([], rest)
      | input => do
          let (item, rest) ← value? fuel depth input
          match skip rest with
          | ',' :: rest => do
              let (items, rest) ← items? fuel depth rest
              pure (item :: items, rest)
          | ']' :: rest => some ([item], rest)
          | _ => none

/-- Entries up to the end of their object. -/
def entries? :
    (fuel depth : Nat) → List Char → Option (List (Literal × LooseJson) × List Char)
  | 0, _, _ => none
  | fuel + 1, depth, input =>
      match skip input with
      | '\x7d' :: rest => some ([], rest)
      | input => do
          let (label, rest) ← label? input
          match skip rest with
          | ':' :: rest => do
              let (value, rest) ← value? fuel depth rest
              match skip rest with
              | ',' :: rest => do
                  let (entries, rest) ← entries? fuel depth rest
                  pure ((label, value) :: entries, rest)
              | '\x7d' :: rest => some ([(label, value)], rest)
              | _ => none
          | _ => none

end

/-- The value that a text is, if it is one. -/
def ofText? (text : String) : Option LooseJson :=
  let input := text.toList
  match value? (input.length + 2) maxDepth input with
  | some (value, rest) => if (skip rest).isEmpty then some value else none
  | none => none

end FieldSearch.Database.LooseJson
