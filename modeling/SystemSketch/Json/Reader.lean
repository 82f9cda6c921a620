import SystemSketch.Json.Basic
import SystemSketch.Json.Surrogate
import SystemSketch.Text.Numeral
import SystemSketch.Text.Search

/-!
# Reading JSON

A text is read from the front. Every step returns what follows; a text that is no JSON is
refused at the place where reading could not go on. An integer may not have more digits than any
numeral, and brackets may not be nested too deeply. Surrogates that are written in a text are read
as the characters that stand in for them.

## Main definitions

* `ReadError` — why a text has no value.
* `read` — the value of a text.
-/

namespace SystemSketch.Json

open Text

/-- Why a text has no value. -/
inductive ReadError where
  /-- The text is no JSON, which shows at a position. -/
  | malformed (position : Nat)
  /-- There is a number or a nesting that is beyond all bounds. -/
  | excessive
  deriving DecidableEq

/-- A refusal while a text is read. -/
inductive Refusal where
  /-- The text is no JSON; these characters are left at the place where this shows. -/
  | malformed (left : List Char)
  /-- There is a number or a nesting that is beyond all bounds. -/
  | excessive

/-- How deeply brackets may be nested. -/
def depthLimit : Nat := 960

/-- A blank between the words of JSON. -/
def isSpace (c : Char) : Bool :=
  c == ' ' || c == '\t' || c == '\n' || c == '\r'

/-- A text without the blanks at its front. -/
def skipSpace (cs : List Char) : List Char :=
  cs.dropWhile isSpace

/-- The character that a letter after a backslash stands for. -/
def shortEscape? (c : Char) : Option Char :=
  if c == '\x22' || c == '\\' || c == '/' then some c
  else if c == 'b' then some '\x08'
  else if c == 'f' then some '\x0c'
  else if c == 'n' then some '\n'
  else if c == 'r' then some '\r'
  else if c == 't' then some '\t'
  else none

variable (standIns : StandIns)

/-- The characters of a text up to its closing quote; `opening` is the text from its opening
quote on. -/
def readChars (opening : List Char) :
    (fuel : Nat) → List Char → Except Refusal (List Char × List Char)
  | 0, _ => .error (.malformed opening)
  | _ + 1, [] => .error (.malformed opening)
  | fuel + 1, c :: cs =>
    if c == '\x22' then .ok ([], cs)
    else if c == '\\' then
      match cs with
      | [] => .error (.malformed opening)
      | e :: rest =>
        if e == 'u' then
          match unicodeEscape? rest with
          | some (point, rest) => do
            let (ds, rest) ← readChars opening fuel rest
            return (standIns.charOf point :: ds, rest)
          | none => .error (.malformed cs)
        else
          match shortEscape? e with
          | some d => do
            let (ds, rest) ← readChars opening fuel rest
            return (d :: ds, rest)
          | none => .error (.malformed (c :: cs))
    else if c.toNat < 0x20 then .error (.malformed (c :: cs))
    else do
      let (ds, rest) ← readChars opening fuel cs
      return (c :: ds, rest)

/-- A text in double quotes; `text` is what follows the opening quote. -/
def readText (cs : List Char) : Except Refusal (String × List Char) := do
  let (ds, rest) ← readChars standIns ('\x22' :: cs) (cs.length + 1) cs
  return (String.ofList ds, rest)

/-- The digits at the front, of which there must be one. -/
def digits? (cs : List Char) : Option (List Char × List Char) :=
  let ds := cs.takeWhile Char.isDigit
  if ds.isEmpty then none else some (ds, cs.dropWhile Char.isDigit)

/-- The whole part of a number: a zero, or digits of which the first one is no zero. -/
def wholePart? : List Char → Option (List Char × List Char)
  | '0' :: cs => some (['0'], cs)
  | cs => digits? cs

/-- The fraction of a number, empty if it has none. -/
def fraction : List Char → List Char × List Char
  | '.' :: cs =>
    match digits? cs with
    | some (ds, rest) => ('.' :: ds, rest)
    | none => ([], '.' :: cs)
  | cs => ([], cs)

/-- The sign of an exponent, empty if it has none. -/
def exponentSign : List Char → List Char × List Char
  | c :: cs => if c == '+' || c == '-' then ([c], cs) else ([], c :: cs)
  | [] => ([], [])

/-- The exponent of a number, empty if it has none. -/
def exponent : List Char → List Char × List Char
  | c :: cs =>
    if c == 'e' || c == 'E' then
      let (sign, rest) := exponentSign cs
      match digits? rest with
      | some (ds, rest) => (c :: (sign ++ ds), rest)
      | none => ([], c :: cs)
    else ([], c :: cs)
  | [] => ([], [])

/-- A number; `negative` says whether there is a minus before `magnitude`. -/
def readNumber (cs : List Char) (negative : Bool) (magnitude : List Char) :
    Except Refusal (Json × List Char) :=
  match wholePart? magnitude with
  | none => .error (.malformed cs)
  | some (whole, rest) =>
    let (part, rest) := fraction rest
    let (power, rest) := exponent rest
    if !(part.isEmpty && power.isEmpty) then
      let written := (if negative then ['-'] else []) ++ whole ++ part ++ power
      .ok (real (String.ofList written), rest)
    else if numeralLimit < whole.length then .error .excessive
    else
      let n : Int := decimalValue whole
      .ok (int (if negative then -n else n), rest)

/-- The values that are words. -/
def words : List (String × Json) :=
  [("null", null), ("true", bool true), ("false", bool false), ("NaN", real "NaN"),
    ("Infinity", real "Infinity"), ("-Infinity", real "-Infinity")]

/-- A word or a number. -/
def readAtom (cs : List Char) : Except Refusal (Json × List Char) :=
  match words.findSome? fun (word, value) => (after? word.toList cs).map fun rest => (value, rest)
  with
  | some found => .ok found
  | none =>
    match cs with
    | '-' :: magnitude => readNumber cs true magnitude
    | magnitude => readNumber cs false magnitude

mutual

/-- A value at the front of a text; `room` is how many brackets may be opened within each other
from here on. -/
def readValue (room : Nat) : (fuel : Nat) → List Char → Except Refusal (Json × List Char)
  | 0, cs => .error (.malformed cs)
  | _ + 1, [] => .error (.malformed [])
  | fuel + 1, c :: cs =>
    if c == '\x22' then do
      let (value, rest) ← readText standIns cs
      return (Json.text value, rest)
    else if c == '[' then
      if room == 0 then .error .excessive
      else
        match skipSpace cs with
        | ']' :: rest => .ok (list [], rest)
        | rest => do
          let (items, rest) ← readItems (room - 1) fuel rest
          return (list items, rest)
    else if c == '\x7b' then
      if room == 0 then .error .excessive
      else
        match skipSpace cs with
        | '\x7d' :: rest => .ok (object [], rest)
        | rest => do
          let (members, rest) ← readMembers (room - 1) fuel rest
          return (object members, rest)
    else readAtom (c :: cs)

/-- The items of a list, up to its closing bracket. -/
def readItems (room : Nat) : (fuel : Nat) → List Char → Except Refusal (List Json × List Char)
  | 0, cs => .error (.malformed cs)
  | fuel + 1, cs => do
    let (item, rest) ← readValue room fuel cs
    match skipSpace rest with
    | ']' :: rest => return ([item], rest)
    | ',' :: rest =>
      let (items, rest) ← readItems room fuel (skipSpace rest)
      return (item :: items, rest)
    | rest => .error (.malformed rest)

/-- The members of an object, up to its closing brace. -/
def readMembers (room : Nat) :
    (fuel : Nat) → List Char → Except Refusal (List (String × Json) × List Char)
  | 0, cs => .error (.malformed cs)
  | _ + 1, [] => .error (.malformed [])
  | fuel + 1, c :: cs =>
    if c == '\x22' then do
      let (name, rest) ← readText standIns cs
      match skipSpace rest with
      | ':' :: rest =>
        let (value, rest) ← readValue room fuel (skipSpace rest)
        match skipSpace rest with
        | '\x7d' :: rest => return ([(name, value)], rest)
        | ',' :: rest =>
          let (members, rest) ← readMembers room fuel (skipSpace rest)
          return ((name, value) :: members, rest)
        | rest => .error (.malformed rest)
      | rest => .error (.malformed rest)
    else .error (.malformed (c :: cs))

end

/-- The value of a text and what follows it. A bracket opens a list and its first item, so two
steps for each character are enough. -/
def readFirst (cs : List Char) : Except Refusal (Json × List Char) :=
  readValue standIns depthLimit (2 * cs.length + 2) (skipSpace cs)

/-- The value of a text, with nothing but blanks after it. -/
def read (text : List Char) (standIns : StandIns := .of (text.map Char.toNat)) :
    Except ReadError Json :=
  let isEnd := fun (value, rest) =>
    match skipSpace rest with
    | [] => .ok value
    | rest => .error (Refusal.malformed rest)
  (readFirst standIns text >>= isEnd).mapError fun
    | .malformed left => .malformed (text.length - left.length)
    | .excessive => .excessive

end SystemSketch.Json
