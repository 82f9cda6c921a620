import SystemSketch.Text.Blank

/-!
# Labels

A label of a node stands between double quotes, one of an edge between bars. Neither may hold
the character that ends it, which is written by its entity code instead.
-/

namespace SystemSketch.Diagram

open Text

/-- The entity code of the double quote. -/
def quoteCode : List Char := "#quot;".toList

/-- The entity code of the bar. -/
def barCode : List Char := "#124;".toList

/-- `text` with `code` instead of every `c`. -/
def encodeChar (c : Char) (code text : List Char) : List Char :=
  text.flatMap fun d => if d == c then code else [d]

/-- A text as the label of a node. -/
def escapeLabel (text : String) : String :=
  String.ofList (encodeChar '\x22' quoteCode text.toList)

/-- A text with every run of blanks written as one space, and none at its ends. -/
def singleSpaced (text : List Char) : List Char :=
  trim (collapse isBlank ' ' text)

/-- A text as the label of an edge, which stands on one line. -/
def escapeEdgeLabel (text : String) : String :=
  String.ofList
    (encodeChar '|' barCode (encodeChar '\x22' quoteCode (singleSpaced text.toList)))

end SystemSketch.Diagram
