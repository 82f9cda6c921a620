/-!
# Blank characters

Blanks separate the words of a source file and of a diagram line. The class is Unicode's
white space together with the four information separators U+001C to U+001F.

## Main definitions

* `isBlank` — the class.
* `trim`, `trimStart`, `trimEnd` — text without the blanks at its ends; `trimBoth` does the
  same for any class of characters.
* `collapse` — every run of characters of a class becomes one given mark.
-/

namespace SystemSketch.Text

/-- A **blank**: white space of any script, or an information separator. -/
def isBlank (c : Char) : Bool :=
  let n := c.toNat
  (0x09 ≤ n && n ≤ 0x0D) || (0x1C ≤ n && n ≤ 0x20) || n == 0x85 || n == 0xA0 || n == 0x1680 ||
    (0x2000 ≤ n && n ≤ 0x200A) || n == 0x2028 || n == 0x2029 || n == 0x202F || n == 0x205F ||
    n == 0x3000

/-- `text` without the characters of class `p` at its end. -/
def dropEndWhile (p : Char → Bool) (text : List Char) : List Char :=
  (text.reverse.dropWhile p).reverse

/-- `text` without the characters of class `p` at either end. -/
def trimBoth (p : Char → Bool) (text : List Char) : List Char :=
  dropEndWhile p (text.dropWhile p)

/-- `text` without the blanks at its start. -/
def trimStart (text : List Char) : List Char :=
  text.dropWhile isBlank

/-- `text` without the blanks at its end. -/
def trimEnd (text : List Char) : List Char :=
  dropEndWhile isBlank text

/-- `text` without the blanks at either end. -/
def trim (text : List Char) : List Char :=
  trimBoth isBlank text

/-- `collapseFrom p mark inRun text` collapses the runs of `text`; `inRun` says that the
character before `text` already belongs to a run, whose mark is written. -/
def collapseFrom (p : Char → Bool) (mark : Char) : Bool → List Char → List Char
  | _, [] => []
  | inRun, c :: rest =>
    if p c then
      if inRun then collapseFrom p mark true rest else mark :: collapseFrom p mark true rest
    else c :: collapseFrom p mark false rest

/-- Every maximal run of characters of class `p` becomes the single character `mark`. -/
def collapse (p : Char → Bool) (mark : Char) (text : List Char) : List Char :=
  collapseFrom p mark false text

end SystemSketch.Text
