import SystemSketch.Text.Utf8
import SystemSketch.Yaml.Scalar

/-!
# Tokens of a YAML text

A YAML text is cut into tokens. Indentation becomes tokens of its own: a collection is opened
where its first entry begins deeper than what is around it, and closed where a line begins
less deep. A mapping key is only recognised by the colon after it, so the places where a key
may have begun are remembered, one for each level of brackets. A token that may turn out to be
a key is not handed out before this is settled; where the text cannot be scanned further, the
last token says why.

## Main definitions

* `Token` — the tokens.
* `Scanner` — what has been scanned of a text.
* `Source` — what can be read of a text.
* `Token.scan` — the tokens of a text.
-/

namespace SystemSketch.Yaml

/-- A token. -/
inductive Token where
  /-- `%YAML` with the major version. -/
  | version (major : Nat)
  /-- `%TAG` with a handle and what it stands for. -/
  | handle (name expansion : String)
  /-- Any other directive. -/
  | directive
  | documentStart
  | documentEnd
  | blockSequenceStart
  | blockMappingStart
  | blockEnd
  | flowSequenceStart
  | flowMappingStart
  | flowSequenceEnd
  | flowMappingEnd
  | blockEntry
  | flowEntry
  | key
  | value
  | alias (name : String)
  | anchor (name : String)
  /-- A tag with its handle, if it has one. -/
  | tag (handle? : Option String) (name : String)
  | scalar (text : String) (isPlain : Bool)
  /-- No token can be had here. -/
  | unreadable (fault : Fault)
  deriving DecidableEq

/-- A place where a key may have begun. -/
structure KeyStart where
  /-- The number of tokens before it. -/
  tokens : Nat
  /-- Whether there must be a key, since nothing else can stand at the indentation. -/
  required : Bool
  cursor : Cursor

/-- What has been scanned of a text. -/
structure Scanner where
  cursor : Cursor
  /-- The indentation of the innermost block, -1 outside of all blocks. -/
  indent : Int := -1
  /-- The indentations of the blocks around it. -/
  outer : List Int := []
  /-- Whether a key may begin here. -/
  keyAllowed : Bool := true
  /-- Where a key may have begun, for the brackets that are open, the innermost first, and for
  what is around them. -/
  keyStarts : List (Option KeyStart) := [none]
  tokens : List Token := []

namespace Scanner

/-- Whether brackets are open. -/
def inFlow (s : Scanner) : Bool :=
  1 < s.keyStarts.length

/-- Adds a token. -/
def push (s : Scanner) (token : Token) : Scanner :=
  { s with tokens := s.tokens ++ [token] }

/-- Adds tokens before those from number `n` on. -/
def insertAt (s : Scanner) (n : Nat) (tokens : List Token) : Scanner :=
  { s with tokens := s.tokens.take n ++ tokens ++ s.tokens.drop n }

/-- Moves on. -/
def moveTo (s : Scanner) (c : Cursor) : Scanner :=
  { s with cursor := c }

/-! ### Keys and indentation -/

/-- How many characters a key may have. -/
def keyLimit : Nat := 1024

/-- Whether no key can reach from a place to the cursor: a key stands on one line, and is not
long. -/
def isStale (s : Scanner) (start : KeyStart) : Bool :=
  start.cursor.line != s.cursor.line || keyLimit < s.cursor.index - start.cursor.index

/-- Gives up the places from which no key can reach here. -/
def dropStale (s : Scanner) : Except Fault Scanner := do
  let keyStarts ← s.keyStarts.mapM fun start? =>
    match start? with
    | none => .ok none
    | some start =>
      if !s.isStale start then .ok (some start)
      else if start.required then .error Fault.malformed
      else .ok none
  return { s with keyStarts := keyStarts }

/-- The tokens before the first one that may still turn out to be a key. -/
def settled (s : Scanner) : List Token :=
  let starts := (s.keyStarts.filterMap id).filter fun start => !s.isStale start
  s.tokens.take ((starts.map KeyStart.tokens).foldl min s.tokens.length)

/-- Gives up the place where a key may have begun within the innermost brackets. -/
def dropKeyStart (s : Scanner) : Except Fault Scanner :=
  match s.keyStarts with
  | some start :: outer =>
    if start.required then .error .malformed else .ok { s with keyStarts := none :: outer }
  | _ => .ok s

/-- Remembers that a key may begin here. -/
def markKeyStart (s : Scanner) : Except Fault Scanner :=
  if s.keyAllowed then do
    let required := !s.inFlow && s.indent == s.cursor.column
    let s ← s.dropKeyStart
    return { s with keyStarts := some ⟨s.tokens.length, required, s.cursor⟩ :: s.keyStarts.tail }
  else .ok s

/-- Closes the blocks, given from the innermost, that are deeper than a column. -/
def closeBlocks (column indent : Int) : List Int → List Token × Int × List Int
  | [] => if column < indent then ([.blockEnd], -1, []) else ([], indent, [])
  | next :: outer =>
    if column < indent then
      let (tokens, indent, outer) := closeBlocks column next outer
      (.blockEnd :: tokens, indent, outer)
    else ([], indent, next :: outer)

/-- Closes the blocks that are deeper than a column. Brackets hide indentation. -/
def unwind (s : Scanner) (column : Int) : Scanner :=
  if s.inFlow then s
  else
    let (tokens, indent, outer) := closeBlocks column s.indent s.outer
    { s with tokens := s.tokens ++ tokens, indent := indent, outer := outer }

/-- Opens a block at a column, before token number `n`, if it is deeper than what is around. -/
def openBlock (s : Scanner) (column : Nat) (n : Nat) (start : Token) : Scanner :=
  if s.indent < column then
    { s.insertAt n [start] with indent := column, outer := s.indent :: s.outer }
  else s

/-! ### Tokens -/

/-- A character of an anchor, of a handle or of the name of a directive. -/
def isNameChar (c : Char) : Bool :=
  c.isAlphanum || c == '-' || c == '_'

/-- A character of a tag. -/
def isTagChar (c : Char) : Bool :=
  c.isAlphanum || "-;/?:@&=+$,_.!~*'()[]".toList.contains c

/-- A token of one character that closes nothing and opens nothing. -/
def pushMark (s : Scanner) (token : Token) : Scanner :=
  { s.push token with cursor := s.cursor.advance }

/-- A mark of a document's start or end. -/
def scanSeparator (s : Scanner) (token : Token) : Except Fault Scanner := do
  let s ← (s.unwind (-1)).dropKeyStart
  return { s.push token with keyAllowed := false, cursor := s.cursor.skip 3 }

/-- A number of a version. -/
def versionNumber (c : Cursor) : Except Fault (Nat × Cursor) := do
  let (ds, c) := c.takeWhile Char.isDigit
  if ds.isEmpty then throw c.refusal
  let n ← (Text.readInteger 10 ds).mapError .numeral
  return (n.toNat, c)

/-- A handle, from one exclamation mark to the next one, or a single one. -/
def tagHandle (c : Cursor) : Except Fault (String × Cursor) := do
  if c.peek != some '!' then throw c.refusal
  let (name, next) := c.advance.takeWhile isNameChar
  if next.peek == some '!' then return (String.ofList ('!' :: name ++ ['!']), next.advance)
  else if name.isEmpty && next.peek == some ' ' then return ("!", next)
  else throw next.refusal

/-- The bytes at the front that are written by two hexadecimal digits behind a percent sign. -/
def escapedBytes : (fuel : Nat) → Cursor → Except Fault (List UInt8 × Cursor)
  | 0, c => .error c.refusal
  | fuel + 1, c =>
    match c.rest with
    | '%' :: a :: b :: _ => do
      let a ← Fault.require (Text.hexValue? a)
      let b ← Fault.require (Text.hexValue? b)
      let (bytes, c) ← escapedBytes fuel (c.skip 3)
      return ((a * 16 + b).toUInt8 :: bytes, c)
    | '%' :: _ => .error .malformed
    | _ => .ok ([], c)

/-- The characters of a tag, some of which may be written by their bytes. -/
def tagText : (fuel : Nat) → Cursor → Except Fault (List Char × Cursor)
  | 0, c => .error c.refusal
  | fuel + 1, c => do
    let (plain, c) := c.takeWhile isTagChar
    if c.peek != some '%' then return (plain, c)
    let (bytes, c) ← escapedBytes (c.rest.length + 1) c
    let escaped ← (Text.Utf8.decode bytes).mapError fun _ => Fault.malformed
    let (rest, c) ← tagText fuel c
    return (plain ++ escaped ++ rest, c)

/-- The name of a tag. -/
def tagName (c : Cursor) : Except Fault (String × Cursor) := do
  let (name, next) ← tagText (c.rest.length + 1) c
  if next.index == c.index then throw c.refusal
  return (String.ofList name, next)

/-- A directive, and the rest of its line. -/
def directive (c : Cursor) : Except Fault (Token × Cursor) := do
  let (name, c) := c.advance.takeWhile isNameChar
  if name.isEmpty || !endsAtSpace c.peek then throw c.refusal
  if name == "YAML".toList then
    let (major, c) ← versionNumber (c.skipWhile (· == ' '))
    if c.peek != some '.' then throw c.refusal
    let (_, c) ← versionNumber c.advance
    if !endsAtSpace c.peek then throw c.refusal
    return (.version major, ← Fault.require (lineEnd? c))
  else if name == "TAG".toList then
    let (handle, c) ← tagHandle (c.skipWhile (· == ' '))
    if c.peek != some ' ' then throw c.refusal
    let (expansion, c) ← tagName (c.skipWhile (· == ' '))
    if !endsAtSpace c.peek then throw c.refusal
    return (.handle handle expansion, ← Fault.require (lineEnd? c))
  else
    return (.directive, ← Fault.require (lineEnd? (c.skipWhile fun ch => !isBreak ch)))

/-- A directive. -/
def scanDirective (s : Scanner) : Except Fault Scanner := do
  let s ← (s.unwind (-1)).dropKeyStart
  let (token, c) ← directive s.cursor
  return { s.push token with keyAllowed := false, cursor := c }

/-- An opening bracket. -/
def scanFlowStart (s : Scanner) (token : Token) : Except Fault Scanner := do
  let s ← s.markKeyStart
  return { s.pushMark token with keyAllowed := true, keyStarts := none :: s.keyStarts }

/-- A closing bracket; there must be one that is open. -/
def scanFlowEnd (s : Scanner) (token : Token) : Except Fault Scanner := do
  if !s.inFlow then throw .malformed
  let s ← s.dropKeyStart
  return { s.pushMark token with keyAllowed := false, keyStarts := s.keyStarts.tail }

/-- A comma within brackets. -/
def scanFlowEntry (s : Scanner) : Except Fault Scanner := do
  let s ← s.dropKeyStart
  return { s.pushMark .flowEntry with keyAllowed := true }

/-- The scanner before a mark that opens a block, with the block opened. Outside of brackets
such a mark must stand where a key may stand. -/
def opened (s : Scanner) (start : Token) : Except Fault Scanner :=
  if s.inFlow then .ok s
  else if s.keyAllowed then .ok (s.openBlock s.cursor.column s.tokens.length start)
  else .error .malformed

/-- A dash before an entry. -/
def scanBlockEntry (s : Scanner) : Except Fault Scanner := do
  let s ← (← s.opened .blockSequenceStart).dropKeyStart
  return { s.pushMark .blockEntry with keyAllowed := true }

/-- A question mark before a key. -/
def scanKey (s : Scanner) : Except Fault Scanner := do
  let s ← (← s.opened .blockMappingStart).dropKeyStart
  return { s.pushMark .key with keyAllowed := !s.inFlow }

/-- A colon before a value. If a key may have begun before it, this is the key. -/
def scanValue (s : Scanner) : Except Fault Scanner :=
  match s.keyStarts with
  | some start :: outer =>
    let s := { s with keyStarts := none :: outer, keyAllowed := false }
    let s := s.insertAt start.tokens [.key]
    let s :=
      if s.inFlow then s else s.openBlock start.cursor.column start.tokens .blockMappingStart
    .ok (s.pushMark .value)
  | _ => do
    let s ← (← s.opened .blockMappingStart).dropKeyStart
    return { s.pushMark .value with keyAllowed := !s.inFlow }

/-- Whether the name of an anchor or an alias ends here. -/
def endsAnchor (c? : Option Char) : Bool :=
  endsWord c? || c?.any fun c => "?:,]\x7d%@`".toList.contains c

/-- The name of an anchor or an alias. -/
def scanAnchor (s : Scanner) (token : String → Token) : Except Fault Scanner := do
  let s ← s.markKeyStart
  let (name, c) := s.cursor.advance.takeWhile isNameChar
  if name.isEmpty || !endsAnchor c.peek then throw c.refusal
  return { s.push (token (String.ofList name)) with keyAllowed := false, cursor := c }

/-- A tag: a full one in angle brackets, a lone exclamation mark, or a name after a handle. -/
def tag (c : Cursor) : Except Fault (Token × Cursor) := do
  let (token, c) ←
    if c.peek 1 == some '<' then do
      let (name, c) ← tagName (c.skip 2)
      if c.peek != some '>' then throw c.refusal
      pure (Token.tag none name, c.advance)
    else if endsWord (c.peek 1) then pure (Token.tag none "!", c.advance)
    else do
      let word := c.advance.rest.takeWhile fun ch => !endsAtSpace (some ch)
      let (handle, c) ← if word.contains '!' then tagHandle c else pure ("!", c.advance)
      let (name, c) ← tagName c
      pure (Token.tag (some handle) name, c)
  if endsAtSpace c.peek then return (token, c) else throw c.refusal

/-- A tag. -/
def scanTag (s : Scanner) : Except Fault Scanner := do
  let s ← s.markKeyStart
  let (token, c) ← tag s.cursor
  return { s.push token with keyAllowed := false, cursor := c }

/-- A block of lines. -/
def scanBlock (s : Scanner) (folded : Bool) : Except Fault Scanner := do
  let s ← s.dropKeyStart
  let (text, c) ← Fault.require (block? folded s.indent s.cursor)
  return { s.push (.scalar (String.ofList text) false) with keyAllowed := true, cursor := c }

/-- A scalar in quotes. -/
def scanQuoted (s : Scanner) : Except Fault Scanner := do
  let s ← s.markKeyStart
  let (text, c) ← quoted s.cursor
  return { s.push (.scalar (String.ofList text) false) with keyAllowed := false, cursor := c }

/-- A plain scalar. After the end of a line a key may begin. -/
def scanPlain (s : Scanner) : Except Fault Scanner := do
  let s ← s.markKeyStart
  let (text, lineEnded, c) := plain s.inFlow (s.indent + 1) s.cursor
  if text.isEmpty then throw .malformed
  return { s.push (.scalar (String.ofList text) true) with keyAllowed := lineEnded, cursor := c }

/-! ### Scanning -/

/-- Passes over spaces, remarks and line breaks. A key may begin on a new line. -/
def toNextToken (s : Scanner) : (fuel : Nat) → Scanner
  | 0 => s
  | fuel + 1 =>
    let c := s.cursor.skipWhile (· == ' ')
    let c := if c.peek == some '#' then c.skipWhile fun ch => !isBreak ch else c
    match c.takeBreak? with
    | some (_, c) =>
      toNextToken { s with cursor := c, keyAllowed := s.keyAllowed || !s.inFlow } fuel
    | none => s.moveTo c

/-- Whether a plain scalar can begin here. -/
def beginsPlain (s : Scanner) (ch : Char) : Bool :=
  !(endsWord (some ch) || "-?:,[]\x7b\x7d#&*!|>'\"%@`".toList.contains ch) ||
    (!endsWord (s.cursor.peek 1) && (ch == '-' || (!s.inFlow && (ch == '?' || ch == ':'))))

/-- Scans the token that begins with the character `ch` at the cursor. -/
def scanToken (s : Scanner) (ch : Char) : Except Fault Scanner :=
  let atStart := s.cursor.column == 0
  let wordEnds := endsWord (s.cursor.peek 1)
  if ch == '%' && atStart then s.scanDirective
  else if atStart && s.cursor.isAtSeparator then
    s.scanSeparator (if ch == '-' then .documentStart else .documentEnd)
  else if ch == '[' then s.scanFlowStart .flowSequenceStart
  else if ch == '\x7b' then s.scanFlowStart .flowMappingStart
  else if ch == ']' then s.scanFlowEnd .flowSequenceEnd
  else if ch == '\x7d' then s.scanFlowEnd .flowMappingEnd
  else if ch == ',' then s.scanFlowEntry
  else if ch == '-' && wordEnds then s.scanBlockEntry
  else if ch == '?' && (s.inFlow || wordEnds) then s.scanKey
  else if ch == ':' && (s.inFlow || wordEnds) then s.scanValue
  else if ch == '*' then s.scanAnchor .alias
  else if ch == '&' then s.scanAnchor .anchor
  else if ch == '!' then s.scanTag
  else if ch == '|' && !s.inFlow then s.scanBlock false
  else if ch == '>' && !s.inFlow then s.scanBlock true
  else if ch == '\x27' || ch == '\x22' then s.scanQuoted
  else if s.beginsPlain ch then s.scanPlain
  else .error .malformed

/-- The scanner after one more token and the blocks that end before it, or the last scanner if
the text ends. -/
def step (s : Scanner) : Except Fault (Scanner × Bool) := do
  let s := s.toNextToken (s.cursor.rest.length + 1)
  if let some fault := s.cursor.metEnding? then throw fault
  let s ← s.dropStale
  let s := s.unwind s.cursor.column
  match s.cursor.peek with
  | none => return (← (s.unwind (-1)).dropKeyStart, true)
  | some ch =>
    let s ← s.scanToken ch
    if let some fault := s.cursor.metEnding? then throw fault
    return (s, false)

/-- The tokens up to the end of the text, or up to what cannot be scanned. -/
def scanAll (s : Scanner) : (fuel : Nat) → List Token
  | 0 => s.tokens
  | fuel + 1 =>
    match s.step with
    | .ok (s, true) => s.tokens
    | .ok (s, false) => s.scanAll fuel
    | .error fault => s.settled ++ [.unreadable fault]

end Scanner

/-! ### Sources -/

/-- What can be read of a text. -/
structure Source where
  text : List Char
  /-- Why there is more that cannot be read. -/
  ending? : Option Fault := none

/-- Whether a character may occur in a YAML text. -/
def isAllowed (c : Char) : Bool :=
  let n := c.toNat
  n == 0x09 || n == 0x0A || n == 0x0D || (0x20 ≤ n && n ≤ 0x7E) || n == 0x85 ||
    (0xA0 ≤ n && n ≤ 0xD7FF) || (0xE000 ≤ n && n ≤ 0xFFFD) || 0x10000 ≤ n

/-- How many characters of a text are taken in at a time. -/
def pieceSize : Nat := 4096

/-- How many characters are held once the piece with character number `n` is needed, before it
is taken in. The first two pieces are needed from the start. -/
def heldBefore (n : Nat) : Nat :=
  if n < 2 * pieceSize then 0 else n / pieceSize * pieceSize

namespace Source

/-- What can be read of a text before a piece with a character that may not occur in it. -/
def checked (s : Source) : Source :=
  match s.text.findIdx? fun c => !isAllowed c with
  | some n => ⟨s.text.take (heldBefore n), some .malformed⟩
  | none => s

end Source

/-- The tokens of a text. A byte order mark at its start is passed over. -/
def Token.scan (source : Source) : List Token :=
  let source := source.checked
  let start : Cursor := { rest := source.text, ending? := source.ending? }
  let start := if start.peek == some '\uFEFF' then start.advance else start
  Scanner.scanAll { cursor := start } (source.text.length + 2)

end SystemSketch.Yaml
