import SystemSketch.Text.Printable

/-!
# Quoted text

Messages show a piece of foreign text between quotes, with everything that a terminal cannot
show written by its code point. Single quotes are used, unless the text holds a single quote
and no double one. Bytes are quoted in the same way behind a `b`.

## Main definitions

* `quote` — a text in quotes.
* `quoteBytes` — a sequence of bytes in quotes.
-/

namespace SystemSketch.Text

/-- The quote put around `text`. -/
def chooseQuote (text : List Char) : Char :=
  if text.contains '\x27' && !text.contains '\x22' then '\x22' else '\x27'

/-- The last `width` hexadecimal digits of `n`, with leading zeros. -/
def hexDigits : (width : Nat) → (n : Nat) → List Char
  | 0, _ => []
  | width + 1, n => hexDigits width (n / 16) ++ [Nat.digitChar (n % 16)]

/-- A character that is not shown as itself, by its code point in two, four or eight digits. -/
def escapeCode (n : Nat) : List Char :=
  if n < 0x100 then '\\' :: 'x' :: hexDigits 2 n
  else if n < 0x10000 then '\\' :: 'u' :: hexDigits 4 n
  else '\\' :: 'U' :: hexDigits 8 n

/-- One character between quotes `mark`: the quote itself and the backslash follow a backslash,
tab, line feed and carriage return have escapes of their own, and a character that `shown`
does not admit is written by its code point. -/
def quoteChar (mark : Char) (shown : Char → Bool) (c : Char) : List Char :=
  if c == mark || c == '\\' then ['\\', c]
  else if c == '\t' then ['\\', 't']
  else if c == '\n' then ['\\', 'n']
  else if c == '\r' then ['\\', 'r']
  else if shown c then [c]
  else escapeCode c.toNat

/-- `text` between quotes, each character written as `quoteChar` says. -/
def quoteWith (shown : Char → Bool) (text : List Char) : List Char :=
  let mark := chooseQuote text
  mark :: (text.flatMap (quoteChar mark shown) ++ [mark])

/-- A text in quotes; printable characters of every script are shown as they are. -/
def quote (text : String) : String :=
  String.ofList (quoteWith isPrintable text.toList)

/-- Bytes in quotes; only printable ASCII is shown as it is. -/
def quoteBytes (bytes : List UInt8) : String :=
  String.ofList ('b' :: quoteWith (fun c => 0x20 ≤ c.toNat && c.toNat < 0x7F)
    (bytes.map fun b => Char.ofNat b.toNat))

end SystemSketch.Text
