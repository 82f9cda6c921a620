import SystemSketch.Text.Line
import SystemSketch.Text.Utf8

/-!
# Files that are read piece by piece

A long file is not read at once. Whoever reads it asks for some characters, and pieces of the
file are taken in until there are as many, or until the file ends. A piece is never small, and
it is larger if the characters of the piece before it had many bytes each. Bytes that are no text
are met with their piece and not before, and their position counts from the start of the piece.

## Main definitions

* `FileStream` — a file of which a part has been taken in.
* `FileStream.take` — the next characters.
* `FileStream.portions` — all portions of a file that can be had.
-/

namespace SystemSketch

/-- A file of which a part has been taken in. -/
structure FileStream where
  /-- The bytes that have not been taken in. -/
  bytes : List UInt8
  /-- The bytes of a character that the end of the last piece cut off. -/
  kept : List UInt8 := []
  /-- Whether the last piece ended in a carriage return, which a line feed may follow. -/
  returned : Bool := false
  /-- The characters that have been taken in and not been handed out. -/
  ready : List Char := []
  /-- How many bytes the last piece had. -/
  lastBytes : Nat := 0
  /-- How many characters the last piece had. -/
  lastChars : Nat := 0

namespace FileStream

/-- How many bytes a piece has at least. -/
def leastPiece : Nat := 8192

/-- How many bytes to take in for a number of characters, by the last piece. -/
def pieceLength (s : FileStream) (wanted : Nat) : Nat :=
  max leastPiece (max wanted (wanted * s.lastBytes / s.lastChars))

/-- The stream after the characters of a piece of `size` bytes. A carriage return at its end is
held back until the next piece, unless the file ends. -/
def deliver (s : FileStream) (size : Nat) (text : List Char) : FileStream :=
  let text := if s.returned then '\r' :: text else text
  let returned := size != 0 && text.getLast? == some '\r'
  let text := Text.withLineFeeds (if returned then text.dropLast else text)
  { s with
    returned := returned, ready := s.ready ++ text, lastBytes := size, lastChars := text.length }

/-- Takes in one more piece. -/
def takeIn (s : FileStream) (wanted : Nat) : Except Text.Utf8.DecodeError FileStream := do
  let size := s.pieceLength wanted
  let piece := s.bytes.take size
  if piece.isEmpty then
    return { s with kept := [] }.deliver 0 (← Text.Utf8.decode s.kept)
  else
    let decoded ← Text.Utf8.decodePiece (s.kept ++ piece)
    return { s with bytes := s.bytes.drop size, kept := decoded.rest }.deliver piece.length
      decoded.text

/-- Takes in pieces until `wanted` characters are ready, or until the file ends. -/
def fill (wanted : Nat) : (fuel : Nat) → FileStream → Except Text.Utf8.DecodeError FileStream
  | 0, s => .ok s
  | fuel + 1, s =>
    if wanted ≤ s.ready.length then .ok s
    else do
      let next ← s.takeIn (wanted - s.ready.length)
      if s.bytes.isEmpty && next.ready.length == s.ready.length then return next
      else fill wanted fuel next

/-- The next `wanted` characters, fewer at the end of the file. -/
def take (s : FileStream) (wanted : Nat) :
    Except Text.Utf8.DecodeError (List Char × FileStream) := do
  let s ← s.fill wanted (s.bytes.length + 2)
  return (s.ready.take wanted, { s with ready := s.ready.drop wanted })

/-- The portions of `wanted` characters each, up to the end of the file or up to the first one
that cannot be had. -/
def portions (wanted : Nat) :
    (fuel : Nat) → FileStream → List (List Char) × Option Text.Utf8.DecodeError
  | 0, _ => ([], none)
  | fuel + 1, s =>
    match s.take wanted with
    | .error e => ([], some e)
    | .ok ([], _) => ([], none)
    | .ok (portion, s) =>
      let (rest, error?) := portions wanted fuel s
      (portion :: rest, error?)

end FileStream

end SystemSketch
