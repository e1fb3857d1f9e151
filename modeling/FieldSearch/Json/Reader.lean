import FieldSearch.Json.Scan

/-!
# Reading JSON texts

A value is read strictly: no comma before a closing bracket, nothing behind the value, and no more
than a fixed number of brackets inside each other. An object keeps the last value of a repeated key.
A value that nobody asks for is passed over more leniently: its depth, the size of its numbers and
the pairing of its surrogates are not looked at.

Lists and objects are loops over their items, shared by all readers of nested values; `fuel` counts
the steps such a loop may take and is chosen greater than the length of the text.
-/

namespace FieldSearch.Json

/-- How many brackets may be open at once. -/
def depthLimit : Nat := 127

/-- The depth left inside one more bracket. -/
def deeper : Nat → Reader Nat
  | 0 => malformed .tooDeep
  | depth + 1 => pure depth

/-- Whether another item follows, `first` telling that none came before. -/
def moreItems (first : Bool) : Reader Bool := do
  let c ← peek .endInList
  if c = ']' then pure false
  else if first then pure true
  else if c = ',' then
    advance
    if (← peek .endInValue) = ']' then malformed .trailingComma else pure true
  else malformed .expectedListCommaOrEnd

/-- The end of a list from which nothing more is read. -/
def endList : Reader Unit := do
  let c ← peek .endInList
  if c = ']' then advance
  else if c = ',' then
    advance
    match skipBlanks (← get) with
    | ']' :: _ => malformed .trailingComma
    | _ => malformed .trailingCharacters
  else malformed .trailingCharacters

/-- The key of the next entry, if there is one. -/
def nextKey (first : Bool) : Reader (Option String) := do
  let c ← peek .endInObject
  if c = '\x7d' then pure none
  else
    if first then
      if c ≠ '"' then malformed .keyNotText
    else if c = ',' then
      advance
      let d ← peek .endInValue
      if d = '\x7d' then malformed .trailingComma
      else if d ≠ '"' then malformed .keyNotText
    else malformed .expectedObjectCommaOrEnd
    advance
    some <$> readTextBody

/-- The colon between a key and its value. -/
def expectColon : Reader Unit := do
  if (← peek .endInObject) = ':' then advance else malformed .expectedColon

/-- The items of a list whose bracket has been read, each taken by `item`. -/
def foldItems {σ : Type} (item : σ → Reader σ) : Nat → Bool → σ → Reader σ
  | 0, _, _ => malformed .endInList
  | fuel + 1, first, state => do
      if ← moreItems first then
        foldItems item fuel false (← item state)
      else
        advance
        pure state

/-- The entries of an object whose bracket has been read; `entry` is given the key before its colon
has been read. -/
def foldEntries {σ : Type} (entry : σ → String → Reader σ) : Nat → Bool → σ → Reader σ
  | 0, _, _ => malformed .endInObject
  | fuel + 1, first, state => do
      match ← nextKey first with
      | some key => foldEntries entry fuel false (← entry state key)
      | none =>
          advance
          pure state

/-- A value of any kind, with so much depth left. -/
def readValueFrom : Nat → Nat → Reader Json
  | 0, _ => malformed .endInValue
  | fuel + 1, depth => do
      let c ← peek .endInValue
      match c with
      | 'n' =>
          advance
          expectWord ['u', 'l', 'l']
          pure .null
      | 't' =>
          advance
          expectWord ['r', 'u', 'e']
          pure (.bool true)
      | 'f' =>
          advance
          expectWord ['a', 'l', 's', 'e']
          pure (.bool false)
      | '"' =>
          advance
          .text <$> readTextBody
      | '-' =>
          advance
          readNumber true
      | '[' =>
          let inner ← deeper depth
          advance
          let items ← foldItems (fun items => do
            let item ← readValueFrom fuel inner
            pure (item :: items)) fuel true []
          pure (.list items.reverse)
      | '\x7b' =>
          let inner ← deeper depth
          advance
          let entries ← foldEntries (fun (entries : KeyMap Json) key => do
            expectColon
            let value ← readValueFrom fuel inner
            pure (entries.insert key value)) fuel true KeyMap.empty
          pure (.object entries.entries)
      | c => if c.isDigit then readNumber false else malformed .expectedValue

/-- A value of any kind. -/
def readValue (depth : Nat) : Reader Json := do
  readValueFrom ((← get).length + 1) depth

mutual

/-- Passes over a value that nobody asks for. -/
def skipValueFrom : Nat → Reader Unit
  | 0 => malformed .endInValue
  | fuel + 1 => do
      let c ← peek .endInValue
      match c with
      | 'n' =>
          advance
          expectWord ['u', 'l', 'l']
      | 't' =>
          advance
          expectWord ['r', 'u', 'e']
      | 'f' =>
          advance
          expectWord ['a', 'l', 's', 'e']
      | '"' =>
          advance
          skipTextBody
      | '-' =>
          advance
          skipNumber
      | '[' =>
          advance
          if (← peek .endInList) = ']' then advance else skipItemsFrom fuel
      | '\x7b' =>
          advance
          if (← peek .endInObject) = '\x7d' then advance else skipEntriesFrom fuel
      | c => if c.isDigit then skipNumber else malformed .expectedValue

/-- Passes over the items of a list, at least one. -/
def skipItemsFrom : Nat → Reader Unit
  | 0 => malformed .endInList
  | fuel + 1 => do
      skipValueFrom fuel
      let c ← peek .endInList
      if c = ',' then
        advance
        skipItemsFrom fuel
      else if c = ']' then advance
      else malformed .expectedListCommaOrEnd

/-- Passes over the entries of an object, at least one. -/
def skipEntriesFrom : Nat → Reader Unit
  | 0 => malformed .endInObject
  | fuel + 1 => do
      if (← peek .endInObject) ≠ '"' then malformed .keyNotText
      advance
      skipTextBody
      expectColon
      skipValueFrom fuel
      let c ← peek .endInObject
      if c = ',' then
        advance
        skipEntriesFrom fuel
      else if c = '\x7d' then advance
      else malformed .expectedObjectCommaOrEnd

end

/-- Passes over a value that nobody asks for. -/
def skipValue : Reader Unit := do
  skipValueFrom (2 * (← get).length + 2)

/-- Reads a whole text: what stands behind the value may only be blank. -/
def readAll {α : Type} (reader : Reader α) (text : String) : Except Fault α := do
  let (value, rest) ← reader.run text.toList
  if (skipBlanks rest).isEmpty then pure value else throw (.malformed .trailingCharacters)

/-- The JSON value that a text is. -/
def parse (text : String) : Except Fault Json := readAll (readValue depthLimit) text

end FieldSearch.Json
