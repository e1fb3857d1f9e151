import FieldSearch.Json.Reader

/-!
# Decoders

A decoder says how a type is represented in JSON, once for values and once for texts. Reading a text
is not reading a value first and decoding it afterwards: a text is taken from left to right, so that
whichever comes first, a fault of the text or a mismatch of a value, is the one reported, and the
repetition of a field is seen.

A structure is an object with the fields as keys, unknown keys being passed over, or a list with the
fields in order. A choice among names is the name, or an object with the name as its only key and
null as the value.

## Main results

* `ofJson_map`, `ofJson_verify`: what the derived decoders do to a value.
-/

namespace FieldSearch.Json

open Number (Binary64)

/-- A way of reading a type from a value and from a text. -/
structure Decoder (α : Type) where
  /-- Reads a value. -/
  ofJson : Json → Except Fault α
  /-- Reads the front of a text, with so many brackets left that may be opened. -/
  ofText : Nat → Reader α

namespace Decoder

variable {α β σ : Type}

/-- Reads a whole text. -/
def parse (decoder : Decoder α) (text : String) : Except Fault α :=
  readAll (decoder.ofText depthLimit) text

/-- The mismatch of a value that is of another kind. -/
def wrongType (expected : String) (value : Json) : Fault :=
  .mismatch (.invalidType value.found expected)

/-- Gives up on a text that goes on with a value of another kind. Of a list or an object only the
bracket is looked at; other values are read to be shown. -/
def wrongKind (expected : String) : Reader α := do
  let kind ← do
    match ← peek .endInValue with
    | '[' => pure Found.list
    | '\x7b' => pure Found.object
    | _ => found <$> readValue depthLimit
  mismatch (.invalidType kind expected)

/-- What a decoder reads, with a function applied. -/
def map (f : α → β) (decoder : Decoder α) : Decoder β where
  ofJson value := f <$> decoder.ofJson value
  ofText depth := f <$> decoder.ofText depth

/-- What a decoder reads, if it passes a check that may refuse it. -/
def verify (check : α → Except String β) (decoder : Decoder α) : Decoder β where
  ofJson value := do
    match check (← decoder.ofJson value) with
    | .ok result => pure result
    | .error reason => throw (.mismatch (.refused reason))
  ofText depth := do
    match check (← decoder.ofText depth) with
    | .ok result => pure result
    | .error reason => mismatch (.refused reason)

@[simp]
theorem ofJson_map (f : α → β) (decoder : Decoder α) (value : Json) :
    (decoder.map f).ofJson value = f <$> decoder.ofJson value := rfl

theorem ofJson_verify (check : α → Except String β) (decoder : Decoder α) {value : Json} {a : α}
    {b : β} (hDecode : decoder.ofJson value = .ok a) (hCheck : check a = .ok b) :
    (decoder.verify check).ofJson value = .ok b := by
  simp [verify, hDecode, hCheck, bind, Except.bind, pure, Except.pure]

/-! ## Simple values -/

/-- Any value. -/
def value : Decoder Json where
  ofJson value := pure value
  ofText := readValue

/-- A text. -/
def text : Decoder String where
  ofJson
    | .text value => pure value
    | value => throw (wrongType "a string" value)
  ofText _ := do
    if (← peek .endInValue) = '"' then
      advance
      readTextBody
    else wrongKind "a string"

/-- A truth value. -/
def bool : Decoder Bool where
  ofJson
    | .bool value => pure value
    | value => throw (wrongType "a boolean" value)
  ofText _ := do
    match ← peek .endInValue with
    | 't' =>
        advance
        expectWord ['r', 'u', 'e']
        pure true
    | 'f' =>
        advance
        expectWord ['a', 'l', 's', 'e']
        pure false
    | _ => wrongKind "a boolean"

/-- Null. -/
def unit : Decoder Unit where
  ofJson
    | .null => pure ()
    | value => throw (wrongType "unit" value)
  ofText _ := do
    if (← peek .endInValue) = 'n' then
      advance
      expectWord ['u', 'l', 'l']
    else wrongKind "unit"

/-- The integer that a number is, if it lies within bounds. -/
def integerOf (low high : Int) (expected : String) : Json → Except Fault Int
  | .integer n =>
      if low ≤ n ∧ n ≤ high then pure n
      else throw (.mismatch (.invalidValue (.integer n) expected))
  | value => throw (wrongType expected value)

/-- An integer within bounds. -/
def integer (low high : Int) (expected : String) : Decoder Int where
  ofJson := integerOf low high expected
  ofText _ := do
    let c ← peek .endInValue
    if c = '-' then
      advance
      liftM (integerOf low high expected (← readNumber true))
    else if c.isDigit then liftM (integerOf low high expected (← readNumber false))
    else wrongKind expected

/-- A signed integer of 64 bits. -/
def int64 : Decoder Int := integer Number.minInt64 Number.maxInt64 "i64"

/-- A natural number up to a bound. -/
def natural (high : Nat) (expected : String) : Decoder Nat :=
  (integer 0 high expected).map Int.toNat

/-- A value, or null for none. -/
def optional (decoder : Decoder α) : Decoder (Option α) where
  ofJson
    | .null => pure none
    | value => some <$> decoder.ofJson value
  ofText depth := do
    match skipBlanks (← get) with
    | 'n' :: _ =>
        discard (peek .endInValue)
        advance
        expectWord ['u', 'l', 'l']
        pure none
    | _ => some <$> decoder.ofText depth

/-! ## Lists and maps -/

/-- A list. -/
def list (decoder : Decoder α) : Decoder (List α) where
  ofJson
    | .list items => items.mapM decoder.ofJson
    | value => throw (wrongType "a sequence" value)
  ofText depth := do
    if (← peek .endInValue) = '[' then
      let inner ← deeper depth
      advance
      let items ← foldItems (fun items => do
        let item ← decoder.ofText inner
        pure (item :: items)) ((← get).length + 1) true []
      pure items.reverse
    else wrongKind "a sequence"

/-- A map from texts; of a repeated key the last value counts. -/
def keyMap (decoder : Decoder α) : Decoder (KeyMap α) where
  ofJson
    | .object entries =>
        entries.foldlM (fun map entry => do
          let value ← decoder.ofJson entry.2
          pure (map.insert entry.1 value)) KeyMap.empty
    | value => throw (wrongType "a map" value)
  ofText depth := do
    if (← peek .endInValue) = '\x7b' then
      let inner ← deeper depth
      advance
      foldEntries (fun (map : KeyMap α) key => do
        expectColon
        let value ← decoder.ofText inner
        pure (map.insert key value)) ((← get).length + 1) true KeyMap.empty
    else wrongKind "a map"

/-! ## Choices -/

/-- The value that a name stands for. -/
def choose (variants : List (String × α)) (name : String) : Except Fault α :=
  match variants.lookup name with
  | some value => pure value
  | none => throw (.mismatch (.unknownVariant name (variants.map Prod.fst)))

/-- One of several named values. -/
def choice (variants : List (String × α)) : Decoder α where
  ofJson
    | .text name => choose variants name
    | .object [(name, content)] => do
        let value ← choose variants name
        unit.ofJson content
        pure value
    | .object _ => throw (.mismatch (.invalidValue .object "map with a single key"))
    | value => throw (wrongType "string or map" value)
  ofText depth := do
    match ← peek .endInValue with
    | '"' =>
        advance
        liftM (choose variants (← readTextBody))
    | '\x7b' =>
        discard (deeper depth)
        advance
        let name ← do
          if (← peek .endInValue) = '"' then
            advance
            readTextBody
          else wrongKind "variant identifier"
        let value ← liftM (choose variants name)
        expectColon
        unit.ofText depth
        if (← peek .endInObject) = '\x7d' then
          advance
          pure value
        else malformed .expectedValue
    | _ => malformed .expectedValue

/-- The first of two forms that a value has. -/
def either (name : String) (first second : Decoder α) : Decoder α :=
  let ofJson (value : Json) : Except Fault α :=
    match first.ofJson value with
    | .ok result => pure result
    | .error _ =>
        match second.ofJson value with
        | .ok result => pure result
        | .error _ => throw (.mismatch (.noAlternative name))
  { ofJson, ofText := fun depth => do liftM (ofJson (← readValue depth)) }

/-! ## Structures -/

/-- A field of a structure `σ`: how its value changes what has been read so far. -/
structure Field (σ : Type) where
  key : String
  /-- An object may leave the field out, and a list may end before it. -/
  isOptional : Bool
  decoder : Decoder (σ → σ)

/-- A field that has to be given. -/
def Field.required (key : String) (decoder : Decoder α) (set : α → σ → σ) : Field σ :=
  ⟨key, false, decoder.map set⟩

/-- A field that keeps its initial value when it is not given. -/
def Field.defaulted (key : String) (decoder : Decoder α) (set : α → σ → σ) : Field σ :=
  ⟨key, true, decoder.map set⟩

/-- The field with a key. -/
def findField (fields : List (Field σ)) (key : String) : Option (Field σ) :=
  fields.find? fun field => field.key == key

/-- Refuses a field that has been read before. -/
def checkNew (seen : List String) (key : String) : Except Fault Unit :=
  if seen.contains key then throw (.mismatch (.duplicateField key)) else pure ()

/-- One entry of an object that represents a structure, together with the fields seen before. -/
def readField (fields : List (Field σ)) (state : σ × List String) (entry : String × Json) :
    Except Fault (σ × List String) :=
  match findField fields entry.1 with
  | none => pure state
  | some field => do
      checkNew state.2 field.key
      let update ← field.decoder.ofJson entry.2
      pure (update state.1, field.key :: state.2)

/-- The structure once all entries have been read, unless one is missing. -/
def finishFields (fields : List (Field σ)) (state : σ × List String) : Except Fault σ :=
  match fields.find? fun field => !field.isOptional && !state.2.contains field.key with
  | some field => throw (.mismatch (.missingField field.key))
  | none => pure state.1

/-- The shape asked for when a list is too short. -/
def listShape (shape : String) (count : Nat) : String :=
  s!"{shape} with {count} element" ++ (if count = 1 then "" else "s")

/-- The fields of a structure from the items of a list, with what is left of them. -/
def readItems (shape : String) (count : Nat) :
    List (Field σ) → Nat → σ → List Json → Except Fault (σ × List Json)
  | [], _, state, items => pure (state, items)
  | field :: fields, index, state, [] =>
      if field.isOptional then readItems shape count fields (index + 1) state []
      else throw (.mismatch (.invalidLength index (listShape shape count)))
  | field :: fields, index, state, item :: items => do
      let update ← field.decoder.ofJson item
      readItems shape count fields (index + 1) (update state) items

/-- The fields of a structure from the items of a list in a text; `more` tells whether the list may
go on. -/
def readItemsText (shape : String) (count depth : Nat) :
    List (Field σ) → Nat → Bool → σ → Reader σ
  | [], _, _, state => pure state
  | field :: fields, index, more, state => do
      if ← (if more then moreItems (index = 0) else pure false) then
        let update ← field.decoder.ofText depth
        readItemsText shape count depth fields (index + 1) true (update state)
      else if field.isOptional then readItemsText shape count depth fields (index + 1) false state
      else mismatch (.invalidLength index (listShape shape count))

/-- A structure, named `shape` in messages, that is read into an initial value. -/
def struct (shape : String) (initial : σ) (fields : List (Field σ)) : Decoder σ where
  ofJson
    | .object entries => do
        finishFields fields (← entries.foldlM (readField fields) (initial, []))
    | .list items => do
        let (state, rest) ← readItems shape fields.length fields 0 initial items
        if rest.isEmpty then pure state
        else throw (.mismatch (.invalidLength items.length "fewer elements in array"))
    | value => throw (wrongType shape value)
  ofText depth := do
    match ← peek .endInValue with
    | '\x7b' =>
        let inner ← deeper depth
        advance
        let state ← foldEntries (fun (state : σ × List String) key => do
          match findField fields key with
          | none =>
              expectColon
              skipValue
              pure state
          | some field =>
              liftM (checkNew state.2 field.key)
              expectColon
              let update ← field.decoder.ofText inner
              pure (update state.1, field.key :: state.2)) ((← get).length + 1) true (initial, [])
        liftM (finishFields fields state)
    | '[' =>
        let inner ← deeper depth
        advance
        let state ← readItemsText shape fields.length inner fields 0 true initial
        endList
        pure state
    | _ => wrongKind shape

end Decoder
end FieldSearch.Json
