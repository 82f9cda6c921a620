import SystemSketch.Text.Search
import SystemSketch.Yaml.Fault

/-!
# A place in a YAML text

A cursor holds what is left of a text and where that begins: the line, the column, and the
number of characters before it.

## Main definitions

* `Cursor` — a place in a text.
* `Cursor.advance`, `Cursor.skip`, `Cursor.takeWhile` — places further on.
* `isBreak`, `endsWord` — the characters that end a line or a word. The end of the text, where
  there is no character, ends both.
-/

namespace SystemSketch.Yaml

/-- A character that ends a line. -/
def isBreak (c : Char) : Bool :=
  c == '\n' || c == '\r' || c == '\u0085' || c == '\u2028' || c == '\u2029'

/-- Whether a line ends here. -/
def endsLine : Option Char → Bool
  | none => true
  | some c => isBreak c

/-- Whether a line or a run of characters without spaces ends here. -/
def endsAtSpace (c? : Option Char) : Bool :=
  endsLine c? || c? == some ' '

/-- Whether a word ends here, at a space, a tab, or the end of a line. -/
def endsWord (c? : Option Char) : Bool :=
  endsAtSpace c? || c? == some '\t'

/-- A place in a text. -/
structure Cursor where
  rest : List Char
  index : Nat := 0
  line : Nat := 0
  column : Nat := 0
  /-- Why the text cannot be read beyond what is held of it, if there is more. -/
  ending? : Option Fault := none

namespace Cursor

/-- The character `n` places further on. -/
def peek (c : Cursor) (n : Nat := 0) : Option Char :=
  c.rest[n]?

/-- Why something that does not end here is refused. -/
def refusal (c : Cursor) : Fault :=
  if c.rest.isEmpty then c.ending?.getD .malformed else .malformed

/-- The fault that is met here, if all that is held of the text is used up but for the last
character. -/
def metEnding? (c : Cursor) : Option Fault :=
  if c.rest.length ≤ 1 then c.ending? else none

/-- The place after one character. A byte order mark takes no column. -/
def advance (c : Cursor) : Cursor :=
  match c.rest with
  | [] => c
  | ch :: rest =>
    let c := { c with rest := rest, index := c.index + 1 }
    if isBreak ch && !(ch == '\r' && rest.head? == some '\n') then
      { c with line := c.line + 1, column := 0 }
    else if ch == '\uFEFF' then c
    else { c with column := c.column + 1 }

/-- The place after `n` characters. -/
def skip (c : Cursor) : Nat → Cursor
  | 0 => c
  | n + 1 => c.advance.skip n

/-- The characters of a class that follow, and the place after them. -/
def takeWhile (c : Cursor) (p : Char → Bool) : List Char × Cursor :=
  let taken := c.rest.takeWhile p
  (taken, c.skip taken.length)

/-- The place after the characters of a class that follow. -/
def skipWhile (c : Cursor) (p : Char → Bool) : Cursor :=
  (c.takeWhile p).2

/-- The line break that follows, and the place after it. A line separator and a paragraph
separator stand for themselves, all others for a line feed. -/
def takeBreak? (c : Cursor) : Option (Char × Cursor) :=
  match c.rest with
  | '\r' :: '\n' :: _ => some ('\n', c.skip 2)
  | ch :: _ =>
    if isBreak ch then
      some (if ch == '\u2028' || ch == '\u2029' then ch else '\n', c.advance)
    else none
  | [] => none

/-- Whether a text is what follows. -/
def isAt (c : Cursor) (word : String) : Bool :=
  (Text.after? word.toList c.rest).isSome

/-- Whether a mark of a document's start or end follows, as a word of its own. -/
def isAtSeparator (c : Cursor) : Bool :=
  (c.isAt "---" || c.isAt "...") && endsWord (c.peek 3)

end Cursor

end SystemSketch.Yaml
