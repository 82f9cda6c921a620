import SystemSketch.Text.Numeral

/-!
# Faults of YAML texts

A text may be no document at all. A scalar may also have a kind, by its tag or by its form, of
which it is no value; the messages about these say what was looked for.

## Main definitions

* `Fault` — why a text has no content.
* `Fault.message` — what is said about it.
-/

namespace SystemSketch.Yaml

/-- Why there is no such date or time of day. -/
inductive CalendarFault where
  | year
  | month
  | day
  | hour
  | minute
  | second
  deriving DecidableEq

/-- What is said about a date or a time of day that there is not. -/
def CalendarFault.message : CalendarFault → String
  | year => "year 0 is out of range"
  | month => "month must be in 1..12"
  | day => "day is out of range for month"
  | hour => "hour must be in 0..23"
  | minute => "minute must be in 0..59"
  | second => "second must be in 0..59"

/-- Why a text has no content. -/
inductive Fault where
  /-- The text is no document. -/
  | malformed
  /-- The text cannot be read to its end. -/
  | cutOff
  | numeral (error : Text.NumeralError)
  /-- There is not even a digit. -/
  | emptyNumeral
  /-- A power of sixty is beyond all numbers. -/
  | hugeNumeral
  /-- A word is none for a truth value. -/
  | notTruth (word : String)
  | notTime
  /-- A time is given by a mapping. -/
  | nestedTime
  | calendar (fault : CalendarFault)
  /-- A time zone is a day or more away, by this many minutes. -/
  | zone (minutes : Int)
  /-- There is no character with a code point. -/
  | noCharacter
  /-- A code point has more than 31 binary digits. -/
  | hugeCodePoint
  /-- A scalar is given by a mapping that leads back to itself. -/
  | endless
  deriving DecidableEq

/-- A time difference in minutes, as messages show it: in days, and seconds that are not
negative. -/
def shownDifference (minutes : Int) : String :=
  let days := minutes / 1440
  let seconds := minutes % 1440 * 60
  let parts :=
    (if days = 0 then [] else ["days=" ++ toString days]) ++
      (if seconds = 0 then [] else ["seconds=" ++ toString seconds])
  "datetime.timedelta(" ++ (if parts.isEmpty then "0" else String.intercalate ", " parts) ++ ")"

namespace Fault

/-- What is said about a fault. -/
def message : Fault → String
  | malformed => "Invalid YAML"
  | cutOff => "Unreadable text"
  | numeral error => error.message
  | emptyNumeral => "string index out of range"
  | hugeNumeral => "int too large to convert to float"
  | notTruth word => Text.quote word
  | notTime => "'NoneType' object has no attribute 'groupdict'"
  | nestedTime => "expected string or bytes-like object, got 'list'"
  | calendar fault => fault.message
  | zone minutes =>
    "offset must be a timedelta strictly between -timedelta(hours=24) and timedelta(hours=24), " ++
      "not " ++ shownDifference minutes ++ "."
  | noCharacter => "chr() arg not in range(0x110000)"
  | hugeCodePoint => "Python int too large to convert to C int"
  | endless => "maximum recursion depth exceeded"

/-- What there is; the text is no document if there is nothing. -/
def require {α : Type} : Option α → Except Fault α
  | some a => .ok a
  | none => .error malformed

end Fault

end SystemSketch.Yaml
