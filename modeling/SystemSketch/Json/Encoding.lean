import SystemSketch.Text.Utf8

/-!
# The encodings of JSON

JSON begins with two characters of ASCII, so the null bytes among its first four bytes show how
many bytes a unit has and in what order they stand. Without a null byte it is UTF-8. A byte order
mark in front shows the same, and is taken away.

In every encoding a surrogate may be written alone, as if it were a character. So what bytes give
is a list of code points: the numbers of characters, and surrogates.

## Main definitions

* `Encoding.of` — the encoding of bytes.
* `decode?` — the code points of bytes.
-/

namespace SystemSketch.Json

/-- An encoding of text. -/
inductive Encoding where
  | utf8
  | utf16 (bigEndian : Bool)
  | utf32 (bigEndian : Bool)
  deriving DecidableEq

/-- The encoding of bytes, by a byte order mark or by the null bytes in front. Of two bytes, a null
byte shows units of two bytes; one or three bytes are too few for that. -/
def Encoding.of : List UInt8 → Encoding
  | 0xFF :: 0xFE :: 0 :: 0 :: _ => .utf32 false
  | 0xFF :: 0xFE :: _ => .utf16 false
  | 0xFE :: 0xFF :: _ => .utf16 true
  | [0, _] => .utf16 true
  | [_, 0] => .utf16 false
  | 0 :: 0 :: _ :: _ :: _ => .utf32 true
  | 0 :: _ :: _ :: _ :: _ => .utf16 true
  | _ :: 0 :: 0 :: 0 :: _ => .utf32 false
  | _ :: 0 :: _ :: _ :: _ => .utf16 false
  | _ => .utf8

/-! ### Surrogates -/

/-- Whether a unit is the first half of a character. -/
def isHighSurrogate (unit : Nat) : Bool :=
  0xD800 ≤ unit && unit < 0xDC00

/-- Whether a unit is the second half of a character. -/
def isLowSurrogate (unit : Nat) : Bool :=
  0xDC00 ≤ unit && unit < 0xE000

/-- Whether a code point is one half of a character. -/
def isSurrogate (point : Nat) : Bool :=
  isHighSurrogate point || isLowSurrogate point

/-- The code point that two surrogates stand for. -/
def joinSurrogates (high low : Nat) : Nat :=
  0x10000 + (high - 0xD800) * 0x400 + (low - 0xDC00)

/-! ### Units of one byte -/

/-- A surrogate at the front of bytes, and what follows it. -/
def surrogate8? : List UInt8 → Option (Nat × List UInt8)
  | 0xED :: b :: c :: rest =>
    if 0xA0 ≤ b && b < 0xC0 && 0x80 ≤ c && c < 0xC0 then
      some (0xD000 + b.toNat % 64 * 64 + c.toNat % 64, rest)
    else none
  | _ => none

/-- The code points of UTF-8. Every step but the last one passes a surrogate, where the bytes are
not well-formed. -/
def points8? : (fuel : Nat) → List UInt8 → Option (List Nat)
  | 0, _ => none
  | fuel + 1, bytes =>
    match Text.Utf8.decode bytes with
    | .ok chars => some (chars.map Char.toNat)
    | .error e => do
      let before ← (Text.Utf8.decode (bytes.take e.position)).toOption
      let (surrogate, rest) ← surrogate8? (bytes.drop e.position)
      let after ← points8? fuel rest
      return before.map Char.toNat ++ surrogate :: after

/-! ### Units of several bytes -/

/-- The number that two bytes are. -/
def unitOf (bigEndian : Bool) (a b : UInt8) : Nat :=
  if bigEndian then a.toNat * 0x100 + b.toNat else b.toNat * 0x100 + a.toNat

/-- The units of two bytes each. -/
def units16? (bigEndian : Bool) : List UInt8 → Option (List Nat)
  | [] => some []
  | [_] => none
  | a :: b :: rest => (units16? bigEndian rest).map (unitOf bigEndian a b :: ·)

/-- The units of four bytes each. -/
def units32? (bigEndian : Bool) : List UInt8 → Option (List Nat)
  | [] => some []
  | a :: b :: c :: d :: rest =>
    let first := unitOf bigEndian a b
    let second := unitOf bigEndian c d
    let unit := if bigEndian then first * 0x10000 + second else second * 0x10000 + first
    (units32? bigEndian rest).map (unit :: ·)
  | _ => none

/-- The code points of units of two bytes. -/
def points16 : List Nat → List Nat
  | [] => []
  | [unit] => [unit]
  | high :: low :: rest =>
    if isHighSurrogate high && isLowSurrogate low then joinSurrogates high low :: points16 rest
    else high :: points16 (low :: rest)

/-- The code points of units of four bytes, of which all must be there. -/
def points32? (units : List Nat) : Option (List Nat) :=
  if units.all (· < 0x110000) then some units else none

/-! ### Decoding -/

/-- A text without one byte order mark at its front. -/
def withoutMark : List Nat → List Nat
  | [] => []
  | point :: rest => if point == 0xFEFF then rest else point :: rest

/-- The code points of bytes. -/
def decode? (bytes : List UInt8) : Option (List Nat) :=
  let points? := match Encoding.of bytes with
    | .utf8 => points8? (bytes.length + 1) bytes
    | .utf16 bigEndian => (units16? bigEndian bytes).map points16
    | .utf32 bigEndian => (units32? bigEndian bytes).bind points32?
  points?.map withoutMark

end SystemSketch.Json
