/-!
# Lines

Text is cut into lines at every line break. A carriage return with the line feed after it is
one break; each of the other break characters is a break of its own. A break ends a line, so
text that ends in a break has no empty line after it.

## Main definitions

* `isLineBreak` — the break characters.
* `lines` — the lines of a text, without their breaks.
* `unlines` — lines written one under the other.
* `withLineFeeds` — both ways of writing a carriage return become a line feed, as files are
  read.
-/

namespace SystemSketch.Text

/-- The **line breaks**: line feed, vertical tab, form feed, carriage return, the three upper
information separators, next line, and the line and paragraph separators. -/
def isLineBreak (c : Char) : Bool :=
  let n := c.toNat
  (0x0A ≤ n && n ≤ 0x0D) || (0x1C ≤ n && n ≤ 0x1E) || n == 0x85 || n == 0x2028 || n == 0x2029

/-- Puts `c` at the front of the first line, which it opens if there is none. -/
def extendFirst (c : Char) : List (List Char) → List (List Char)
  | [] => [[c]]
  | line :: rest => (c :: line) :: rest

/-- The **lines** of a text, without their breaks. -/
def lines : List Char → List (List Char)
  | [] => []
  | '\r' :: '\n' :: rest => [] :: lines rest
  | c :: rest => if isLineBreak c then [] :: lines rest else extendFirst c (lines rest)

/-- Each line followed by a line feed. -/
def unlines (ls : List (List Char)) : List Char :=
  ls.flatMap (· ++ ['\n'])

/-- A carriage return becomes a line feed, together with the line feed after it if there is
one. -/
def withLineFeeds : List Char → List Char
  | [] => []
  | '\r' :: '\n' :: rest => '\n' :: withLineFeeds rest
  | c :: rest => (if c == '\r' then '\n' else c) :: withLineFeeds rest

end SystemSketch.Text
