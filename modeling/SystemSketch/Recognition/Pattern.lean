import SystemSketch.Text.Search

/-!
# Patterns and captures

Recognition is heuristic: a file is never parsed, it is searched for short patterns. A pattern
says whether it matches at the front of a text, which parts of the match it names, and how
long the match is. Searching is the same for all patterns.

## Main definitions

* `Pattern` — a name and a recogniser for the front of a text.
* `Pattern.find?` — the leftmost match of a text.
* `Pattern.findAll` — all matches from left to right, each beginning after the one before.
* `Pattern.literal` — the pattern that matches one given word.
-/

namespace SystemSketch

/-- A match at the front of a text: the parts it names, and its length in characters. -/
structure Hit where
  groups : List (List Char)
  length : Nat
  deriving DecidableEq

/-- A pattern of recognition. -/
structure Pattern where
  name : String
  /-- The match at the front of a text, if there is one. -/
  hit? : List Char → Option Hit

/-- A match somewhere in a text. -/
structure Capture where
  /-- The name of the pattern. -/
  name : String
  groups : List String
  /-- The number of characters before the match. -/
  start : Nat
  /-- The number of characters of the match. -/
  length : Nat
  deriving DecidableEq

/-- The first named part of a match, empty if it has none. -/
def Capture.value (c : Capture) : String :=
  c.groups.head?.getD ""

namespace Pattern

/-- The pattern of a reader that returns the named parts and what follows the match. -/
def reading (name : String) (read : List Char → Option (List (List Char) × List Char)) :
    Pattern where
  name := name
  hit? text := (read text).map fun (groups, rest) => ⟨groups, text.length - rest.length⟩

/-- The pattern that matches `word` and names it. -/
def literal (name word : String) : Pattern :=
  reading name fun text => (Text.after? word.toList text).map fun rest => ([word.toList], rest)

/-- The pattern that matches `word` and names nothing. -/
def mark (name word : String) : Pattern :=
  reading name fun text => (Text.after? word.toList text).map fun rest => ([], rest)

/-- The match at the front of `text`, as a capture at `position`. -/
def captureAt? (p : Pattern) (position : Nat) (text : List Char) : Option Capture :=
  (p.hit? text).map fun hit => ⟨p.name, hit.groups.map String.ofList, position, hit.length⟩

/-- The leftmost match of a text that has `position` characters before it. -/
def findFrom? (p : Pattern) (position : Nat) : List Char → Option Capture
  | [] => p.captureAt? position []
  | c :: text =>
    match p.captureAt? position (c :: text) with
    | some capture => some capture
    | none => p.findFrom? (position + 1) text

/-- The leftmost match. -/
def find? (p : Pattern) (text : String) : Option Capture :=
  p.findFrom? 0 text.toList

/-- All matches of a text that has `position` characters before it, of which the first `skip`
characters belong to a match already found. -/
def findAllFrom (p : Pattern) : (position skip : Nat) → List Char → List Capture
  | _, _ + 1, [] => []
  | position, 0, [] => (p.captureAt? position []).toList
  | position, skip + 1, _ :: text => p.findAllFrom (position + 1) skip text
  | position, 0, c :: text =>
    match p.captureAt? position (c :: text) with
    | some capture => capture :: p.findAllFrom (position + 1) (capture.length - 1) text
    | none => p.findAllFrom (position + 1) 0 text

/-- All matches from left to right; each begins where the one before has ended, or later. -/
def findAll (p : Pattern) (text : String) : List Capture :=
  p.findAllFrom 0 0 text.toList

/-- Whether a pattern matches anywhere in a text. -/
def occursIn (p : Pattern) (text : String) : Bool :=
  (p.find? text).isSome

end Pattern

end SystemSketch
