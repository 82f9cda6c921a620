/-!
# Reading UTF-8

Files are read strictly: the first byte that cannot belong to well-formed UTF-8 stops the
reading, and the error names the bytes at fault and why they are refused. A character is read
byte by byte. Its first byte fixes how many bytes are owed and the range of the next one, and
only the second byte of a character ever has a narrower range than `80` to `BF`.

## Main definitions

* `Utf8.decode` — a whole file at once.
* `Utf8.decodePiece` — a piece of a file; the bytes of a character that is cut by the end of the
  piece are kept for the next one.
* `Utf8.decodeLossy` — a text that may hold bytes at fault.
* `Utf8.encode` — the bytes of a text.
-/

namespace SystemSketch.Text.Utf8

/-- Why bytes are refused. -/
inductive Fault where
  /-- No character begins with this byte. -/
  | invalidStart
  /-- A character is begun and the byte after it does not continue it. -/
  | invalidContinuation
  /-- The bytes end within a character. -/
  | unexpectedEnd
  deriving DecidableEq

/-- What the message of a refusal says about its cause. -/
def Fault.reason : Fault → String
  | .invalidStart => "invalid start byte"
  | .invalidContinuation => "invalid continuation byte"
  | .unexpectedEnd => "unexpected end of data"

/-- A refusal: the cause, the position of the first byte at fault and the bytes at fault. -/
structure DecodeError where
  fault : Fault
  position : Nat
  bytes : List UInt8
  deriving DecidableEq

/-- Two hexadecimal digits of a byte. -/
def hexByte (b : UInt8) : String :=
  String.ofList [Nat.digitChar (b.toNat / 16), Nat.digitChar (b.toNat % 16)]

/-- The text of a refusal. A single byte is shown, several are given by their positions. -/
def DecodeError.message (e : DecodeError) : String :=
  let place :=
    match e.bytes with
    | [b] => "byte 0x" ++ hexByte b ++ " in position " ++ toString e.position
    | _ => "bytes in position " ++ toString e.position ++ "-" ++
        toString (e.position + e.bytes.length - 1)
  "'utf-8' codec can't decode " ++ place ++ ": " ++ e.fault.reason

/-- A character of which at least one byte has been read. -/
structure Begun where
  /-- The bytes read, last one first. -/
  read : List UInt8
  /-- The value of the bits read. -/
  value : Nat
  /-- How many bytes are still owed. -/
  owed : Nat
  /-- The least and greatest value of the next byte. -/
  low : Nat
  high : Nat

/-- The character that begins with byte `b`, `none` if there is no such character. -/
def start? (b : UInt8) : Option Begun :=
  let n := b.toNat
  if n < 0x80 then some ⟨[b], n, 0, 0x80, 0xBF⟩
  else if n < 0xC2 then none
  else if n < 0xE0 then some ⟨[b], n - 0xC0, 1, 0x80, 0xBF⟩
  else if n < 0xF0 then
    some ⟨[b], n - 0xE0, 2, if n == 0xE0 then 0xA0 else 0x80, if n == 0xED then 0x9F else 0xBF⟩
  else if n < 0xF5 then
    some ⟨[b], n - 0xF0, 3, if n == 0xF0 then 0x90 else 0x80, if n == 0xF4 then 0x8F else 0xBF⟩
  else none

/-- The next byte of a character, `none` if it cannot follow. -/
def Begun.next? (p : Begun) (b : UInt8) : Option Begun :=
  if p.low ≤ b.toNat && b.toNat ≤ p.high then
    some ⟨b :: p.read, p.value * 64 + b.toNat % 64, p.owed - 1, 0x80, 0xBF⟩
  else none

/-- The characters read from a piece, and the bytes of a character that its end cuts off. -/
structure Piece where
  text : List Char
  rest : List UInt8

/-- Reads the bytes of a piece. `position` counts the bytes before them, and `open?` is the
character that has been begun. -/
def decodeFrom (position : Nat) : (open? : Option Begun) → List UInt8 → Except DecodeError Piece
  | none, [] => .ok ⟨[], []⟩
  | some p, [] => .ok ⟨[], p.read.reverse⟩
  | none, b :: bytes =>
    match start? b with
    | none => .error ⟨.invalidStart, position, [b]⟩
    | some p =>
      if p.owed == 0 then do
        let piece ← decodeFrom (position + 1) none bytes
        return { piece with text := Char.ofNat p.value :: piece.text }
      else decodeFrom (position + 1) (some p) bytes
  | some p, b :: bytes =>
    match p.next? b with
    | none => .error ⟨.invalidContinuation, position - p.read.length, p.read.reverse⟩
    | some p =>
      if p.owed == 0 then do
        let piece ← decodeFrom (position + 1) none bytes
        return { piece with text := Char.ofNat p.value :: piece.text }
      else decodeFrom (position + 1) (some p) bytes

/-- The text that `bytes` encode. -/
def decode (bytes : List UInt8) : Except DecodeError (List Char) := do
  let piece ← decodeFrom 0 none bytes
  if piece.rest.isEmpty then return piece.text
  else throw ⟨.unexpectedEnd, bytes.length - piece.rest.length, piece.rest⟩

/-- The two first bytes of an encoded surrogate. At the very end of a piece they are kept, as
any character that is cut there, and refused with the next piece. -/
def endsInSurrogate (bytes : List UInt8) : Bool :=
  match bytes.reverse with
  | b :: 0xED :: _ => 0xA0 ≤ b.toNat && b.toNat ≤ 0xBF
  | _ => false

/-- Reads one piece of several. -/
def decodePiece (bytes : List UInt8) : Except DecodeError Piece :=
  match decodeFrom 0 none bytes with
  | .ok piece => .ok piece
  | .error e =>
    if e.position + 2 == bytes.length && endsInSurrogate bytes then do
      let piece ← decodeFrom 0 none (bytes.take e.position)
      return { piece with rest := bytes.drop e.position }
    else .error e

/-- The text of bytes in which a replacement character stands for each group of bytes at fault.
Every step but the last one passes a byte at least. -/
def decodeLossy : (fuel : Nat) → List UInt8 → List Char
  | 0, _ => []
  | fuel + 1, bytes =>
    match decode bytes with
    | .ok text => text
    | .error e =>
      let before := ((decode (bytes.take e.position)).toOption).getD []
      before ++ '\uFFFD' :: decodeLossy fuel (bytes.drop (e.position + e.bytes.length))

/-- The bytes of a text. -/
def encode (text : List Char) : List UInt8 :=
  text.flatMap String.utf8EncodeChar

end SystemSketch.Text.Utf8
