/-!
# Texts as bytes

A text is written as bytes by UTF-8, which takes one to four bytes for a character. Bytes are read
by a walk that remembers the character begun: how many of its bytes have been read, how many are
still to come, and between which bounds the next one has to lie. The bounds of the second byte leave
out the spellings that are too long, the surrogates, and all beyond the last code point. A byte that
cannot continue a character breaks it off and is read anew.
-/

namespace FieldSearch.Text.Utf8

/-- The bytes of a text. -/
def encode (text : List Char) : List UInt8 := text.flatMap String.utf8EncodeChar

/-- The bytes of a code point; half a pair is written like any other, though it is no character. -/
def encodeCode (code : Nat) : List UInt8 :=
  if 0xd800 ≤ code ∧ code < 0xe000 then
    [0xed, UInt8.ofNat (0x80 + code / 64 % 64), UInt8.ofNat (0x80 + code % 64)]
  else String.utf8EncodeChar (Char.ofNat code)

/-- A character of which not all bytes have been read. -/
structure Begun where
  /-- The number of bytes that have been read. -/
  size : Nat
  /-- The number of bytes that are still to come. -/
  missing : Nat
  /-- The least byte that may come next. -/
  low : Nat := 0x80
  /-- The greatest byte that may come next. -/
  high : Nat := 0xbf
  /-- The bits that have been read. -/
  value : Nat

/-- What bytes come to. -/
inductive Piece where
  | char (c : Char)
  /-- Bytes that the byte behind them does not continue. -/
  | broken (size : Nat)
  /-- Bytes at the end that would have to be continued. -/
  | unfinished (size : Nat)
deriving DecidableEq, Repr

/-- What the first byte of a character begins. -/
def begin (byte : Nat) : Piece ⊕ Begun :=
  if byte < 0x80 then .inl (.char (Char.ofNat byte))
  else if byte < 0xc2 then .inl (.broken 1)
  else if byte < 0xe0 then .inr { size := 1, missing := 1, value := byte - 0xc0 }
  else if byte = 0xe0 then .inr { size := 1, missing := 2, low := 0xa0, value := 0 }
  else if byte = 0xed then .inr { size := 1, missing := 2, high := 0x9f, value := 0xd }
  else if byte < 0xf0 then .inr { size := 1, missing := 2, value := byte - 0xe0 }
  else if byte = 0xf0 then .inr { size := 1, missing := 3, low := 0x90, value := 0 }
  else if byte < 0xf4 then .inr { size := 1, missing := 3, value := byte - 0xf0 }
  else if byte = 0xf4 then .inr { size := 1, missing := 3, high := 0x8f, value := 4 }
  else .inl (.broken 1)

/-- What a further byte makes of a character begun, if it continues it. -/
def Begun.continue? (begun : Begun) (byte : Nat) : Option (Piece ⊕ Begun) :=
  if begun.low ≤ byte ∧ byte ≤ begun.high then
    let value := begun.value * 64 + (byte - 0x80)
    match begun.missing with
    | missing + 2 => some (.inr { size := begun.size + 1, missing := missing + 1, value })
    | _ => some (.inl (.char (Char.ofNat value)))
  else none

/-- What bytes come to behind a character begun. -/
def piecesFrom : Option Begun → List UInt8 → List Piece
  | none, [] => []
  | some begun, [] => [.unfinished begun.size]
  | none, byte :: rest =>
      match begin byte.toNat with
      | .inl piece => piece :: piecesFrom none rest
      | .inr begun => piecesFrom (some begun) rest
  | some begun, byte :: rest =>
      match begun.continue? byte.toNat, begin byte.toNat with
      | some (.inl piece), _ => piece :: piecesFrom none rest
      | some (.inr next), _ => piecesFrom (some next) rest
      | none, .inl piece => .broken begun.size :: piece :: piecesFrom none rest
      | none, .inr next => .broken begun.size :: piecesFrom (some next) rest

/-- What bytes come to, one piece after the other. -/
def pieces (bytes : List UInt8) : List Piece := piecesFrom none bytes

/-! ## Reading a text -/

/-- Why bytes are no text: at a place, bytes that are no character, or the beginning of one. -/
inductive Fault where
  | invalid (size index : Nat)
  | incomplete (index : Nat)
deriving DecidableEq, Repr

/-- The wording of the fault. -/
def Fault.message : Fault → String
  | .invalid size index => s!"invalid utf-8 sequence of {size} bytes from index {index}"
  | .incomplete index => s!"incomplete utf-8 byte sequence from index {index}"

/-- The characters of pieces, the first of which stands at a place. -/
def charsFrom (index : Nat) : List Piece → Except Fault (List Char)
  | [] => .ok []
  | .char c :: rest => (charsFrom (index + c.utf8Size) rest).map (c :: ·)
  | .broken size :: _ => .error (.invalid size index)
  | .unfinished _ :: _ => .error (.incomplete index)

/-- The text of bytes. -/
def decode (bytes : List UInt8) : Except Fault (List Char) := charsFrom 0 (pieces bytes)

/-- The text of bytes, with the replacement character for all that is no character. -/
def decodeLossy (bytes : List UInt8) : List Char :=
  (pieces bytes).map fun
    | .char c => c
    | .broken _ | .unfinished _ => '\ufffd'

end FieldSearch.Text.Utf8
