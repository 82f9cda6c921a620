import SystemSketch.Json.Basic
import SystemSketch.Text.Quoted

/-!
# Writing JSON

A value is written on one line without blanks. All characters are written as they are, except
the two that text must escape, the control characters, and the three characters above ASCII
that some readers of lines take for the end of the line.
-/

namespace SystemSketch.Json

/-- Whether a character of a text is written by its code point. -/
def needsCode (c : Char) : Bool :=
  let n := c.toNat
  n < 0x20 || n == 0x85 || n == 0x2028 || n == 0x2029

/-- A character of a text, as it is written. -/
def writeChar (c : Char) : List Char :=
  if c == '\x22' || c == '\\' then ['\\', c]
  else if needsCode c then '\\' :: 'u' :: Text.hexDigits 4 c.toNat
  else [c]

/-- A text in double quotes. -/
def writeText (value : String) : String :=
  "\"" ++ String.ofList (value.toList.flatMap writeChar) ++ "\""

mutual

/-- A value as it is written. -/
def write : Json → String
  | null => "null"
  | bool value => if value then "true" else "false"
  | int value => toString value
  | real written => written
  | text value => writeText value
  | list items => "[" ++ String.intercalate "," (writeItems items) ++ "]"
  | object members => "\x7b" ++ String.intercalate "," (writeMembers members) ++ "\x7d"

/-- The items of a list as they are written. -/
def writeItems : List Json → List String
  | [] => []
  | item :: items => write item :: writeItems items

/-- The members of an object as they are written. -/
def writeMembers : List (String × Json) → List String
  | [] => []
  | (name, value) :: members => (writeText name ++ ":" ++ write value) :: writeMembers members

end

end SystemSketch.Json
