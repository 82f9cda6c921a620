import SystemSketch.Document
import SystemSketch.Text.Lower
import SystemSketch.Text.Numeral
import SystemSketch.Yaml.Tag

/-!
# The values of scalars

A scalar whose kind is given by its tag need not have the form of that kind. It is read as far
as the rules of the kind go: numbers may have any form of numeral behind a sign of their own, in
one of the bases 2, 8, 10 and 16, or in parts of sixty.

## Main definitions

* `boolValue`, `intValue`, `decimalValue`, `timeValue`, `bytesValue` — the values of scalars.
-/

namespace SystemSketch.Yaml

/-- The truth value that a scalar is. -/
def boolValue (text : List Char) : Except Fault Bool :=
  let word := Text.toLower text
  match boolWords.find? fun (w, _) => w.toList == word with
  | some (_, value) => .ok value
  | none => .error (.notTruth (String.ofList word))

/-- The sign of a numeral without underscores, as whether it is a minus, and what follows. -/
def signed (cs : List Char) : Except Fault (Bool × List Char) :=
  if cs.isEmpty then .error .emptyNumeral else .ok (Text.takeSign cs)

/-- A numeral in a base. -/
def integerIn (base : Nat) (cs : List Char) : Except Fault Int :=
  (Text.readInteger base cs).mapError .numeral

/-- The value of parts of sixty. -/
def sexagesimal (parts : List (List Char)) : Except Fault Int := do
  let digits ← parts.mapM (integerIn 10)
  return digits.foldl (fun n digit => n * 60 + digit) 0

/-- The value of an integer without the sign. -/
def magnitudeValue (cs : List Char) : Except Fault Int :=
  match cs with
  | [] => .error .emptyNumeral
  | ['0'] => .ok 0
  | '0' :: 'b' :: ds => integerIn 2 ds
  | '0' :: 'x' :: ds => integerIn 16 ds
  | '0' :: ds => integerIn 8 ('0' :: ds)
  | cs => if cs.contains ':' then sexagesimal (Text.splitOn ':' cs) else integerIn 10 cs

/-- The integer that a scalar is. -/
def intValue (text : List Char) : Except Fault Int := do
  let (negative, cs) ← signed (text.filter (· != '_'))
  let n ← magnitudeValue cs
  return if negative then -n else n

/-- A number in words or with a point. -/
def numberOf (cs : List Char) : Except Fault Double :=
  (Text.readNumber cs).mapError .numeral

/-- A power of sixty. -/
def powerOfSixty (n : Nat) : Except Fault Double :=
  match Double.ofBinary (Nat.pow 60 n : Nat) 0 with
  | .infinite _ => .error .hugeNumeral
  | power => .ok power

/-- The sum of parts, each times a power of sixty; the last part comes first. -/
def sexagesimalSum (n : Nat) (sum : Double) : List Double → Except Fault Double
  | [] => .ok sum
  | digit :: digits => do
    sexagesimalSum (n + 1) (sum.add (digit.mul (← powerOfSixty n))) digits

/-- The number that a scalar is. -/
def decimalValue (text : List Char) : Except Fault Double := do
  let (negative, cs) ← signed (Text.toLower (text.filter (· != '_')))
  let sign (d : Double) : Double := if negative then d.neg else d
  if cs == ".inf".toList then return sign (.infinite false)
  else if cs == ".nan".toList then return .undefined
  else if cs.contains ':' then
    let digits ← (Text.splitOn ':' cs).mapM numberOf
    return sign (← sexagesimalSum 0 .zero digits.reverse)
  else return sign (← numberOf cs)

/-- The date or time that a scalar is. -/
def timeValue (text : List Char) : Except Fault Document :=
  match Moment.read? (withoutLastBreak text) with
  | none => .error .notTime
  | some moment =>
    match moment.fault?, moment.time? with
    | some fault, _ => .error fault
    | none, some time => .ok (.timestamp (String.ofList text) time.zone?.isSome)
    | none, none => .ok (.date (String.ofList text))

/-! ### Bytes in base 64 -/

/-- The value of a character of base 64. -/
def base64Value? (c : Char) : Option Nat :=
  if 'A' ≤ c && c ≤ 'Z' then some (c.toNat - 'A'.toNat)
  else if 'a' ≤ c && c ≤ 'z' then some (c.toNat - 'a'.toNat + 26)
  else if c.isDigit then some (c.toNat - '0'.toNat + 52)
  else if c == '+' then some 62
  else if c == '/' then some 63
  else none

/-- The bytes of base 64 from a place in a group on: `held` is what the characters of the group
have given but for the bytes that are complete, and `fill` the number of equals signs since the
last one. Characters that are none of base 64 are passed over; equals signs that fill a group
end the bytes. -/
def base64From (place held fill : Nat) : List Char → Option (List UInt8)
  | [] => if place == 0 then some [] else none
  | c :: rest =>
    if c == '=' then
      if 2 ≤ place then
        if 4 ≤ place + fill + 1 then some [] else base64From place held (fill + 1) rest
      else base64From place held fill rest
    else
      match base64Value? c with
      | none => base64From place held fill rest
      | some v =>
        match place with
        | 0 => base64From 1 v 0 rest
        | 1 => (base64From 2 (v % 16) 0 rest).map ((held * 4 + v / 16).toUInt8 :: ·)
        | 2 => (base64From 3 (v % 4) 0 rest).map ((held * 16 + v / 4).toUInt8 :: ·)
        | _ => (base64From 0 0 0 rest).map ((held * 64 + v).toUInt8 :: ·)

/-- The bytes that a scalar is. -/
def bytesValue (text : List Char) : Except Fault (List UInt8) :=
  if text.all (·.toNat < 0x80) then Fault.require (base64From 0 0 0 text) else .error .malformed

end SystemSketch.Yaml
