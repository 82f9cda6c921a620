import SystemSketch.Text.Digits
import SystemSketch.Yaml.Cursor

/-!
# Scalars of a YAML text

A scalar is written plainly, in quotes, or as a block of lines. All forms fold line breaks: one
between two lines of text becomes a space, and of several the first is left out.

## Main definitions

* `quoted` — a scalar in single or double quotes.
* `plain` — a plain scalar.
* `block?` — a literal or folded block.

Each gives the text of the scalar and the place after it.
-/

namespace SystemSketch.Yaml

/-- What a break and the empty lines after it are folded to. -/
def fold (lineBreak : Char) (breaks : List Char) : List Char :=
  if lineBreak != '\n' then lineBreak :: breaks
  else if breaks.isEmpty then [' ']
  else breaks

/-! ### Quoted scalars -/

/-- The character that a letter after a backslash stands for. -/
def escape? (c : Char) : Option Char :=
  match c with
  | '0' => some '\x00'
  | 'a' => some '\x07'
  | 'b' => some '\x08'
  | 't' => some '\t'
  | '\t' => some '\t'
  | 'n' => some '\n'
  | 'v' => some '\x0b'
  | 'f' => some '\x0c'
  | 'r' => some '\r'
  | 'e' => some '\x1b'
  | ' ' => some ' '
  | '\x22' => some '\x22'
  | '\\' => some '\\'
  | '/' => some '/'
  | 'N' => some '\u0085'
  | '_' => some '\u00a0'
  | 'L' => some '\u2028'
  | 'P' => some '\u2029'
  | _ => none

/-- How many digits follow a letter that announces a code point. -/
def codeWidth? (c : Char) : Option Nat :=
  match c with
  | 'x' => some 2
  | 'u' => some 4
  | 'U' => some 8
  | _ => none

/-- The code point that hexadecimal digits give. -/
def codePoint? (digits : List Char) : Option Nat :=
  digits.foldlM (fun n d => (Text.hexValue? d).map (n * 16 + ·)) 0

/-- The character of a code point. A surrogate, which stands for no character, is replaced. -/
def character (code : Nat) : Except Fault Char :=
  if 0x80000000 ≤ code then .error .hugeCodePoint
  else if 0x110000 ≤ code then .error .noCharacter
  else if 0xD800 ≤ code && code < 0xE000 then .ok '\uFFFD'
  else .ok (Char.ofNat code)

/-- The character that `width` hexadecimal digits at the front give. -/
def codeAt (width : Nat) (c : Cursor) : Except Fault Char := do
  let digits := c.rest.take width
  let code ← Fault.require (codePoint? digits)
  if digits.length < width then throw c.refusal
  character code

/-- The empty lines that follow, with the blanks at their starts. A document separator may not
stand within quotes. -/
def quotedBreaks : (fuel : Nat) → Cursor → Except Fault (List Char × Cursor)
  | 0, c => .error c.refusal
  | fuel + 1, c =>
    if c.isAtSeparator then .error .malformed
    else
      let c := c.skipWhile fun ch => ch == ' ' || ch == '\t'
      match c.takeBreak? with
      | none => .ok ([], c)
      | some (ch, c) => do
        let (breaks, c) ← quotedBreaks fuel c
        return (ch :: breaks, c)

/-- The characters that follow up to the closing quote `mark`. -/
def quotedFrom (mark : Char) : (fuel : Nat) → Cursor → Except Fault (List Char × Cursor)
  | 0, c => .error c.refusal
  | fuel + 1, c =>
    let double := mark == '\x22'
    let more (text : List Char) (c : Cursor) : Except Fault (List Char × Cursor) := do
      let (rest, c) ← quotedFrom mark fuel c
      return (text ++ rest, c)
    match c.peek with
    | none => .error c.refusal
    | some ch =>
      if ch == mark then
        if !double && c.peek 1 == some mark then more [mark] (c.skip 2)
        else .ok ([], c.advance)
      else if double && ch == '\\' then
        let c := c.advance
        match c.peek with
        | none => .error c.refusal
        | some e =>
          match escape? e with
          | some d => more [d] c.advance
          | none =>
            match codeWidth? e with
            | some width => do
              let d ← codeAt width c.advance
              more [d] (c.skip (width + 1))
            | none => do
              let (_, c) ← Fault.require c.takeBreak?
              let (breaks, c) ← quotedBreaks (c.rest.length + 1) c
              more breaks c
      else if ch == ' ' || ch == '\t' || isBreak ch then
        let (blanks, c) := c.takeWhile fun ch => ch == ' ' || ch == '\t'
        match c.takeBreak? with
        | none => more blanks c
        | some (lineBreak, c) => do
          let (breaks, c) ← quotedBreaks (c.rest.length + 1) c
          more (fold lineBreak breaks) c
      else more [ch] c.advance

/-- A scalar in quotes; the cursor is at the opening quote. -/
def quoted (c : Cursor) : Except Fault (List Char × Cursor) := do
  let mark ← Fault.require c.peek
  quotedFrom mark (c.rest.length + 1) c.advance

/-! ### Plain scalars -/

/-- Whether a plain scalar ends before a character, given the one after it. Brackets and commas
end it within brackets only. -/
def endsPlain (inFlow : Bool) (c next? : Option Char) : Bool :=
  let isFlowMark (c? : Option Char) := c?.any fun c => [',', '[', ']', '\x7b', '\x7d'].contains c
  endsWord c ||
    (c == some ':' && (endsWord next? || (inFlow && isFlowMark next?))) ||
    (inFlow && (isFlowMark c || c == some '?'))

/-- The characters at the front that a plain scalar takes without a blank. -/
def plainWord (inFlow : Bool) : List Char → List Char
  | [] => []
  | c :: rest =>
    if endsPlain inFlow (some c) rest.head? then [] else c :: plainWord inFlow rest

/-- The empty lines that follow within a plain scalar; `none` at a document separator. -/
def plainBreaks? : (fuel : Nat) → Cursor → Option (List Char) × Cursor
  | 0, c => (none, c)
  | fuel + 1, c =>
    let c := c.skipWhile (· == ' ')
    match c.takeBreak? with
    | none => (some [], c)
    | some (ch, c) =>
      if c.isAtSeparator then (none, c)
      else
        let (breaks?, c) := plainBreaks? fuel c
        (breaks?.map (ch :: ·), c)

/-- What the blanks and breaks that follow are folded to, `none` if the scalar ends with them.
The second value says whether a line has ended. -/
def plainSpaces (c : Cursor) : Option (List Char) × Bool × Cursor :=
  let (blanks, c) := c.takeWhile (· == ' ')
  match c.takeBreak? with
  | none => (if blanks.isEmpty then none else some blanks, false, c)
  | some (lineBreak, c) =>
    if c.isAtSeparator then (none, true, c)
    else
      let (breaks?, c) := plainBreaks? (c.rest.length + 1) c
      (breaks?.map (fold lineBreak), true, c)

/-- The rest of a plain scalar; a line of it must be indented by at least `indent` columns,
unless it stands within brackets. The boolean says whether the last thing passed is the end of
a line. -/
def plainFrom (inFlow : Bool) (indent : Int) : (fuel : Nat) → Cursor → List Char × Bool × Cursor
  | 0, c => ([], false, c)
  | fuel + 1, c =>
    let word := plainWord inFlow c.rest
    if word.isEmpty then ([], false, c)
    else
      let (spaces?, lineEnded, c) := plainSpaces (c.skip word.length)
      match spaces? with
      | none => (word, lineEnded, c)
      | some spaces =>
        if c.peek == some '#' || (!inFlow && (c.column : Int) < indent) ||
            (plainWord inFlow c.rest).isEmpty then (word, lineEnded, c)
        else
          let (rest, lineEnded, c) := plainFrom inFlow indent fuel c
          (word ++ spaces ++ rest, lineEnded, c)

/-- A plain scalar. -/
def plain (inFlow : Bool) (indent : Int) (c : Cursor) : List Char × Bool × Cursor :=
  plainFrom inFlow indent (c.rest.length + 1) c

/-! ### Blocks -/

/-- What happens to the breaks at the end of a block. -/
inductive Chomping where
  /-- The last break is kept, empty lines are left out. -/
  | clip
  /-- All breaks are left out. -/
  | strip
  /-- All breaks are kept. -/
  | keep
  deriving DecidableEq

/-- The chomping that a character asks for. -/
def chomping? (c? : Option Char) : Option Chomping :=
  if c? == some '+' then some .keep else if c? == some '-' then some .strip else none

/-- The indentation that a digit asks for. -/
def increment? (c? : Option Char) : Option Nat :=
  match c? with
  | some c => if c.isDigit then some (c.toNat - '0'.toNat) else none
  | none => none

/-- The marks in the head of a block. -/
def blockMarks (c : Cursor) : Chomping × Option Nat × Cursor :=
  match chomping? c.peek with
  | some chomping =>
    let c := c.advance
    match increment? c.peek with
    | some n => (chomping, some n, c.advance)
    | none => (chomping, none, c)
  | none =>
    match increment? c.peek with
    | some n =>
      let c := c.advance
      match chomping? c.peek with
      | some chomping => (chomping, some n, c.advance)
      | none => (.clip, some n, c)
    | none => (.clip, none, c)

/-- The rest of a line that holds nothing more than a remark. -/
def lineEnd? (c : Cursor) : Option Cursor :=
  let c := c.skipWhile (· == ' ')
  let c := if c.peek == some '#' then c.skipWhile fun ch => !isBreak ch else c
  match c.takeBreak? with
  | some (_, c) => some c
  | none => if c.rest.isEmpty then some c else none

/-- The empty lines at the start of a block, and the deepest column they reach. -/
def blockStart : (fuel : Nat) → (deepest : Nat) → Cursor → List Char × Nat × Cursor
  | 0, deepest, c => ([], deepest, c)
  | fuel + 1, deepest, c =>
    match c.takeBreak? with
    | some (ch, c) =>
      let (breaks, deepest, c) := blockStart fuel deepest c
      (ch :: breaks, deepest, c)
    | none =>
      if c.peek == some ' ' then
        let c := c.advance
        blockStart fuel (max deepest c.column) c
      else ([], deepest, c)

/-- Spaces up to a column. -/
def skipIndent (indent : Nat) : (fuel : Nat) → Cursor → Cursor
  | 0, c => c
  | fuel + 1, c =>
    if c.column < indent && c.peek == some ' ' then skipIndent indent fuel c.advance else c

/-- The empty lines within a block, up to the indentation of the next line. -/
def blockBreaks (indent : Nat) : (fuel : Nat) → Cursor → List Char × Cursor
  | 0, c => ([], c)
  | fuel + 1, c =>
    let c := skipIndent indent (c.rest.length + 1) c
    match c.takeBreak? with
    | none => ([], c)
    | some (ch, c) =>
      let (breaks, c) := blockBreaks indent fuel c
      (ch :: breaks, c)

/-- Whether a line of a block begins with a blank, and is not folded. -/
def isSpaced (c : Cursor) : Bool :=
  c.peek == some ' ' || c.peek == some '\t'

/-- Whether a line of a block begins here. -/
def isInBlock (indent : Nat) (c : Cursor) : Bool :=
  c.column == indent && !c.rest.isEmpty

/-- The lines of a block from the start of a line on, and the breaks after the last one. -/
def blockLines (folded : Bool) (chomping : Chomping) (indent : Nat) :
    (fuel : Nat) → Cursor → List Char × Cursor
  | 0, c => ([], c)
  | fuel + 1, c =>
    let spaced := isSpaced c
    let (line, c) := c.takeWhile fun ch => !isBreak ch
    let (lineBreak, c) :=
      match c.takeBreak? with
      | some (ch, c) => ([ch], c)
      | none => ([], c)
    let (breaks, c) := blockBreaks indent (c.rest.length + 1) c
    if isInBlock indent c then
      let joint :=
        if folded && lineBreak == ['\n'] && !spaced && !isSpaced c then
          if breaks.isEmpty then [' '] else []
        else lineBreak
      let (rest, c) := blockLines folded chomping indent fuel c
      (line ++ joint ++ breaks ++ rest, c)
    else
      match chomping with
      | .strip => (line, c)
      | .clip => (line ++ lineBreak, c)
      | .keep => (line ++ lineBreak ++ breaks, c)

/-- A block in a context of the given indentation; the cursor is at its mark. -/
def block? (folded : Bool) (context : Int) (c : Cursor) : Option (List Char × Cursor) := do
  let (chomping, increment?, c) := blockMarks c.advance
  if increment? == some 0 then none
  if !endsAtSpace c.peek then none
  let c ← lineEnd? c
  let least := max (context + 1) 1 |>.toNat
  let (breaks, indent, c) :=
    match increment? with
    | some n =>
      let indent := least + n - 1
      let (breaks, c) := blockBreaks indent (c.rest.length + 1) c
      (breaks, indent, c)
    | none =>
      let (breaks, deepest, c) := blockStart (c.rest.length + 1) 0 c
      (breaks, max least deepest, c)
  if isInBlock indent c then
    let (text, c) := blockLines folded chomping indent (c.rest.length + 1) c
    some (breaks ++ text, c)
  else some (if chomping == .keep then breaks else [], c)

end SystemSketch.Yaml
