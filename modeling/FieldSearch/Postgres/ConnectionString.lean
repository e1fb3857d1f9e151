import FieldSearch.Postgres.Address
import FieldSearch.Postgres.Options
import FieldSearch.Text.Blank
import FieldSearch.Text.PercentCode
import FieldSearch.Text.Utf8

/-!
# Connection strings

A connection string has one of two forms. As a list of settings it is a sequence of `option=value`,
with blanks between the settings and, if one likes, around the equals sign; a value with blanks in
it stands in quotes, and a backslash takes the character behind it as it is. As a URL it names a
user, a list of places with a host and a port each, a database, and further options as parameters,
all with percent codes. Either form is checked from left to right up to the first fault: the form
itself is at fault, or an option is not known, or it does not take the value given to it.

## Main results

* `length_readSetting_lt`, `length_readParameter_lt`: reading a setting or a parameter leaves a
  shorter text.
-/

namespace FieldSearch.Postgres

/-- Why a connection string is refused. -/
inductive ConnectionStringError where
  | unknownOption (option : String)
  | invalidValue (option : String)
  /-- The text ends where a value or an equals sign has to come. -/
  | unexpectedEnd
  /-- Another character than the expected one, with the number of bytes before it. -/
  | unexpectedChar (index : Nat) (expected found : Char)
  | unclosedQuote
  /-- A parameter of a URL without an equals sign. -/
  | unfinishedParameter
  /-- The percent codes stand for bytes that are no text. -/
  | noText (fault : Text.Utf8.Fault)
deriving DecidableEq, Repr

/-- The wording of the fault. -/
def ConnectionStringError.message : ConnectionStringError → String
  | .unknownOption option => s!"unknown option `{option}`"
  | .invalidValue option => s!"invalid value for option `{option}`"
  | .unexpectedEnd => "unexpected EOF"
  | .unexpectedChar index expected found =>
      s!"unexpected character at byte {index}: expected `{expected}` but got `{found}`"
  | .unclosedQuote => "unterminated quoted connection parameter value"
  | .unfinishedParameter => "unterminated parameter"
  | .noText fault => fault.message

/-- The fault as a fault of the server's store. -/
def ConnectionStringError.toBackendError (error : ConnectionStringError) : BackendError :=
  let reason := "invalid connection string: " ++ error.message
  .internal "postgres" reason [reason, error.message]

/-! ## Options -/

/-- The options whose values may be any text. -/
def freeOptions : List String :=
  ["user", "password", "dbname", "options", "application_name", "host"]

/-- The options whose values are natural numbers, with the greatest one. -/
def naturalOptions : List (String × Nat) :=
  [("keepalives", Number.maxNat64), ("keepalives_retries", Number.maxNat32)]

/-- The options whose values are integers of 64 bits. -/
def integerOptions : List String :=
  ["connect_timeout", "tcp_user_timeout", "keepalives_idle", "keepalives_interval"]

/-- The options whose values are names. -/
def namedOptions : List (String × List String) :=
  [("sslmode", ["disable", "prefer", "require"]),
    ("sslnegotiation", ["postgres", "direct"]),
    ("channel_binding", ["disable", "prefer", "require"]),
    ("target_session_attrs", ["any", "read-write", "read-only"]),
    ("load_balance_hosts", ["disable", "random"])]

/-- Whether every part of a text between commas passes a test. -/
def allParts (test : List Char → Bool) (value : String) : Bool :=
  (Text.splitAll (· = ',') value.toList).all test

/-- Whether a text is a port; an empty one stands for the default. -/
def isPort (text : List Char) : Bool :=
  text.isEmpty || (Number.readNatural Number.maxNat16 text).isOk

/-- Whether an option takes a value, if it is known. -/
def takes? (option value : String) : Option Bool :=
  if freeOptions.contains option then some true
  else if option == "hostaddr" then some (allParts Address.isValid value)
  else if option == "port" then some (allParts isPort value)
  else if integerOptions.contains option then
    some (Number.readInteger 64 value.toList).isOk
  else
    match naturalOptions.lookup option, namedOptions.lookup option with
    | some limit, _ => some (Number.readNatural limit value.toList).isOk
    | none, some names => some (names.contains value)
    | none, none => none

/-- Checks the value of an option. -/
def checkOption (option value : String) : Except ConnectionStringError Unit :=
  match takes? option value with
  | some true => pure ()
  | some false => throw (.invalidValue option)
  | none => throw (.unknownOption option)

/-! ## Lists of settings -/

/-- A value up to the quote that ends it, and what follows the quote. -/
def readQuoted : List Char → Option (List Char × List Char)
  | [] | ['\\'] => none
  | '\'' :: rest => some ([], rest)
  | '\\' :: c :: rest => (readQuoted rest).map fun (value, rest) => (c :: value, rest)
  | c :: rest => (readQuoted rest).map fun (value, rest) => (c :: value, rest)

/-- A value up to the blank that ends it, and the text from there on. -/
def readPlain : List Char → List Char × List Char
  | [] | ['\\'] => ([], [])
  | '\\' :: c :: rest =>
      let (value, rest) := readPlain rest
      (c :: value, rest)
  | c :: rest =>
      if Text.isBlank c then ([], c :: rest)
      else
        let (value, rest) := readPlain rest
        (c :: value, rest)

theorem length_readQuoted_lt {text value rest : List Char}
    (h : readQuoted text = some (value, rest)) : rest.length < text.length := by
  fun_induction readQuoted text generalizing value <;>
    grind [Option.map_eq_some_iff]

theorem length_readPlain_le (text : List Char) : (readPlain text).2.length ≤ text.length := by
  fun_induction readPlain text <;> grind

/-- A value, in quotes or without, and what follows it. -/
def readValue : List Char → Except ConnectionStringError (List Char × List Char)
  | '\'' :: text =>
      match readQuoted text with
      | some result => pure result
      | none => throw .unclosedQuote
  | text =>
      let (value, rest) := readPlain text
      if value.isEmpty then throw .unexpectedEnd else pure (value, rest)

theorem length_readValue_le {text value rest : List Char}
    (h : readValue text = .ok (value, rest)) : rest.length ≤ text.length := by
  unfold readValue at h
  split at h
  · split at h
    · rename_i result hQuoted
      cases h
      have := length_readQuoted_lt hQuoted
      simp only [List.length_cons]
      omega
    · cases h
  · have := length_readPlain_le text
    simp only at h
    split at h
    · cases h
    · cases h
      exact this

/-- The text from its first character on that is not blank. -/
def skipBlanks (text : List Char) : List Char := text.dropWhile Text.isBlank

/-- The number of bytes of a text. -/
def byteCount (text : List Char) : Nat := (Text.Utf8.encode text).length

/-- What follows the equals sign that has to come next in a text of a number of bytes. -/
def afterEquals (size : Nat) : List Char → Except ConnectionStringError (List Char)
  | [] => throw .unexpectedEnd
  | c :: rest =>
      if c = '=' then pure rest
      else throw (.unexpectedChar (size - byteCount (c :: rest)) '=' c)

/-- Whether a character may be part of the name of an option. -/
def isNameChar (c : Char) : Bool := !Text.isBlank c && c != '='

/-- A setting of a list: the option, its value and what follows them. -/
abbrev Setting := String × String × List Char

/-- The setting at the beginning of the rest of a text of a number of bytes. Where no name stands
there are no further settings. -/
def readSetting (size : Nat) (text : List Char) :
    Except ConnectionStringError (Option Setting) :=
  let text := skipBlanks text
  let name := text.takeWhile isNameChar
  if name.isEmpty then pure none
  else
    match afterEquals size (skipBlanks (text.dropWhile isNameChar)) with
    | .error error => throw error
    | .ok rest =>
        match readValue (skipBlanks rest) with
        | .error error => throw error
        | .ok (value, rest) => pure (some (String.ofList name, String.ofList value, rest))

theorem length_afterEquals_lt {size : Nat} {text rest : List Char}
    (h : afterEquals size text = .ok rest) : rest.length < text.length := by
  unfold afterEquals at h
  split at h
  · cases h
  · split at h
    · cases h
      simp
    · cases h

theorem length_dropWhile_le (test : Char → Bool) (text : List Char) :
    (text.dropWhile test).length ≤ text.length :=
  (List.dropWhile_sublist test).length_le

theorem length_readSetting_lt {size : Nat} {text rest : List Char} {option value : String}
    (h : readSetting size text = .ok (some (option, value, rest))) :
    rest.length < text.length := by
  simp only [readSetting] at h
  split at h
  · cases h
  · split at h
    · cases h
    · rename_i start hStart
      split at h
      · cases h
      · rename_i value rest hValue
        cases h
        have hEquals := length_afterEquals_lt hStart
        have hRest := length_readValue_le hValue
        have hBlanks := length_dropWhile_le Text.isBlank text
        have hName := length_dropWhile_le isNameChar (skipBlanks text)
        have hGap := length_dropWhile_le Text.isBlank ((skipBlanks text).dropWhile isNameChar)
        have hLast := length_dropWhile_le Text.isBlank start
        simp only [skipBlanks] at *
        omega

/-- Checks the settings in the rest of a text of a number of bytes. -/
def checkSettings (size : Nat) (text : List Char) : Except ConnectionStringError Unit :=
  match hSetting : readSetting size text with
  | .error error => throw error
  | .ok none => pure ()
  | .ok (some (option, value, rest)) =>
      have := length_readSetting_lt hSetting
      do
        checkOption option value
        checkSettings size rest
termination_by text.length

/-! ## URLs -/

/-- The bytes of a part of a URL. -/
def partBytes (part : List Char) : List UInt8 :=
  Text.PercentCode.decode (Text.Utf8.encode part)

/-- The text of a part of a URL. -/
def partText (part : List Char) : Except ConnectionStringError String :=
  match Text.Utf8.decode (partBytes part) with
  | .ok text => pure (String.ofList text)
  | .error fault => throw (.noText fault)

/-- Checks the name of a host; a path may be of any bytes. -/
def checkHost (part : List Char) : Except ConnectionStringError Unit :=
  if (partBytes part).head? = some 0x2f then pure ()
  else (partText part).map fun _ => ()

/-- Host and port of a place. A host with colons stands in brackets. -/
def splitPlace (place : List Char) : Except ConnectionStringError (List Char × List Char) :=
  let defaultPort := "5432".toList
  match place with
  | '[' :: rest =>
      match Text.splitOnce ']' rest with
      | some (host, []) => pure (host, defaultPort)
      | some (host, ':' :: port) => pure (host, port)
      | _ => throw (.invalidValue "host")
  | text => pure ((Text.splitOnce ':' text).getD (text, defaultPort))

/-- Checks a place. -/
def checkPlace (place : List Char) : Except ConnectionStringError Unit := do
  let (host, port) ← splitPlace place
  checkHost host
  checkOption "port" (← partText port)

/-- Checks one parameter. -/
def checkParameter (key value : List Char) : Except ConnectionStringError Unit := do
  let option ← partText key
  if option == "host" then checkHost value
  else checkOption option (← partText value)

/-- The parameter at the beginning of a text: its key, its value and what follows them. -/
def readParameter? (text : List Char) : Option (List Char × List Char × List Char) :=
  (Text.splitOnce '=' text).map fun (key, rest) =>
    (key, (Text.splitOnce '&' rest).getD (rest, []))

theorem length_readParameter_lt {text key value rest : List Char}
    (h : readParameter? text = some (key, value, rest)) : rest.length < text.length := by
  simp only [readParameter?, Option.map_eq_some_iff, Prod.exists, Prod.mk.injEq] at h
  obtain ⟨left, right, hKey, -, hValue⟩ := h
  have hText := congrArg List.length (Text.splitOnce_eq_some_iff.mp hKey).1
  simp only [List.length_append, List.length_cons] at hText
  cases hSplit : Text.splitOnce '&' right with
  | none =>
      simp only [hSplit, Option.getD_none, Prod.mk.injEq] at hValue
      obtain ⟨-, rfl⟩ := hValue
      simp only [List.length_nil]
      omega
  | some parts =>
      simp only [hSplit, Option.getD_some] at hValue
      subst hValue
      have hRest := congrArg List.length (Text.splitOnce_eq_some_iff.mp hSplit).1
      simp only [List.length_append, List.length_cons] at hRest
      omega

/-- Checks the parameters of a URL. -/
def checkParameters (text : List Char) : Except ConnectionStringError Unit :=
  match hParameter : readParameter? text with
  | none => if text.isEmpty then pure () else throw .unfinishedParameter
  | some (key, value, rest) =>
      have := length_readParameter_lt hParameter
      do
        checkParameter key value
        checkParameters rest
termination_by text.length

/-- Checks what follows the places of a URL. -/
def checkTail (text : List Char) : Except ConnectionStringError Unit := do
  let text ←
    match text with
    | '/' :: rest => do
        let _ ← partText (rest.takeWhile (· != '?'))
        pure (rest.dropWhile (· != '?'))
    | other => pure other
  match text with
  | '?' :: parameters => checkParameters parameters
  | _ => pure ()

/-- Checks a URL behind its scheme. -/
def checkUrl (text : List Char) : Except ConnectionStringError Unit := do
  let text ←
    match Text.splitOnce '@' text with
    | none => pure text
    | some (credentials, rest) => do
        let _ ← partText (credentials.takeWhile (· != ':'))
        pure rest
  let isInPlaces (c : Char) : Bool := c != '/' && c != '?'
  let places := text.takeWhile isInPlaces
  if !places.isEmpty then
    (Text.splitAll (· = ',') places).forM checkPlace
  checkTail (text.dropWhile isInPlaces)

/-- Checks a connection string of either form. -/
def checkConnectionString (text : String) : Except ConnectionStringError Unit :=
  match Options.afterScheme? text.toList with
  | some rest => checkUrl rest
  | none => checkSettings (byteCount text.toList) text.toList

end FieldSearch.Postgres
