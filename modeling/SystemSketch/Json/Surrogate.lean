import SystemSketch.Json.Encoding
import SystemSketch.Text.Numeral
import SystemSketch.Text.Search

/-!
# Surrogates in texts

A text of JSON may hold a surrogate that is alone, written by an escape or among the bytes of the
text. It is a part of its text then, like a character that is no letter and no blank and has no
case. But there is no way to encode it, so a text that holds one can neither be handed out nor be
noted in a database.

No character is a surrogate. So in the values that are read, a character of private use stands in
for it, one that is written nowhere in the text. Private use takes up the two last planes, and what
is done with texts tells none of its characters from another one or from a surrogate.

## Main definitions

* `unicodeEscape?` — the code point that an escape writes.
* `writtenPoints` — the code points of a text, and those that its escapes write.
* `StandIns` — the characters that stand in for the surrogates of a text.
* `StandIns.charOf` — the character of a code point.
* `StandIns.isEncodable` — whether a text holds no surrogate.
-/

namespace SystemSketch.Json

open Text

/-! ### Escapes -/

/-- Four hexadecimal digits at the front, which are not the end of the text. -/
def hexUnit? : List Char → Option (Nat × List Char)
  | a :: b :: c :: d :: next :: rest => do
    let a ← hexValue? a
    let b ← hexValue? b
    let c ← hexValue? c
    let d ← hexValue? d
    return (((a * 16 + b) * 16 + c) * 16 + d, next :: rest)
  | _ => none

/-- The code point of an escape by code units. A high surrogate takes the low one after it, if there
is one; any other surrogate is alone. -/
def unicodeEscape? (cs : List Char) : Option (Nat × List Char) := do
  let (unit, rest) ← hexUnit? cs
  match (after? "\\u".toList rest).bind hexUnit? with
  | some (low, after) =>
    if isHighSurrogate unit && isLowSurrogate low then return (joinSurrogates unit low, after)
    else return (unit, rest)
  | none => return (unit, rest)

/-- The code points that escapes write in a text. What follows a backslash is no backslash of its
own. Every step passes a character at least. -/
def escapedPoints : (fuel : Nat) → List Char → List Nat
  | 0, _ => []
  | _ + 1, [] => []
  | fuel + 1, '\\' :: 'u' :: cs =>
    match unicodeEscape? cs with
    | some (point, rest) => point :: escapedPoints fuel rest
    | none => escapedPoints fuel cs
  | fuel + 1, '\\' :: _ :: cs => escapedPoints fuel cs
  | fuel + 1, _ :: cs => escapedPoints fuel cs

/-- The code points that a text is made of, and those that its escapes write. -/
def writtenPoints (points : List Nat) : List Nat :=
  points ++ escapedPoints points.length (points.map Char.ofNat)

/-! ### Stand-ins -/

/-- Where the last two planes begin, which are for private use. -/
def privateStart : Nat := 0xF0000

/-- The first code points of private use that are not among the given ones, as many as are asked
for. -/
def freePoints (used : List Nat) (count : Nat) : List Nat :=
  ((List.range' privateStart (used.length + count)).filter fun point =>
    !used.contains point).take count

/-- The surrogates that are written in a text, without repetitions. -/
def loneSurrogates (points : List Nat) : List Nat :=
  ((writtenPoints points).filter isSurrogate).eraseDups

/-- What is written in a text for private use, without repetitions. -/
def privatePoints (points : List Nat) : List Nat :=
  ((writtenPoints points).filter (privateStart ≤ ·)).eraseDups

/-- Surrogates, each with the character that stands in for it. -/
structure StandIns where
  pairs : List (Nat × Char) := []

namespace StandIns

/-- The stand-ins for the surrogates of a text: the first characters of private use that are not
written in it. -/
def of (points : List Nat) : StandIns :=
  let surrogates := loneSurrogates points
  ⟨surrogates.zip ((freePoints (privatePoints points) surrogates.length).map Char.ofNat)⟩

/-- The character of a code point, or the one that stands in for it. -/
def charOf (s : StandIns) (point : Nat) : Char :=
  (s.pairs.lookup point).getD (Char.ofNat point)

/-- Whether a text can be encoded, since it holds no surrogate. -/
def isEncodable (s : StandIns) (text : String) : Bool :=
  s.pairs.all fun (_, c) => !text.toList.contains c

end StandIns

end SystemSketch.Json
