import SystemSketch.Text.Blank
import SystemSketch.Text.Search
import SystemSketch.Text.Word

/-!
# Statements of a diagram

A diagram is written one statement a line. This module holds both directions for one line: how
a statement is written, and which statement a line is read as.

## Main definitions

* `Statement` — the statements that a diagram is made of.
* `Statement.print` — the line of a statement.
* `Statement.ofLine?` — the statement that a line without blanks at its ends declares. Comments,
  style definitions and all other lines declare nothing.
-/

namespace SystemSketch.Diagram

open Text

/-- A statement of a diagram. Labels are held as they are written. -/
inductive Statement where
  /-- What kind of diagram follows. -/
  | directive (text : String)
  /-- The start of a cluster with its id and title. -/
  | openCluster (id title : String)
  /-- The end of a cluster. -/
  | closeCluster
  /-- A node. -/
  | node (id label : String)
  /-- An edge, dotted if it is asynchronous. -/
  | edge (source : String) (isAsync : Bool) (label target : String)
  /-- The nodes that a style class applies to. -/
  | assign (ids : List String) (className : String)
  /-- The look of a style class. -/
  | style (definition : String)
  /-- A remark. -/
  | comment (text : String)
  /-- An empty line. -/
  | space
  deriving DecidableEq

namespace Statement

/-- The arrow of an edge. -/
def arrow (isAsync : Bool) : String :=
  if isAsync then "-.->" else "-->"

/-- The line of a statement. -/
def print : Statement → String
  | directive text => text
  | openCluster id title => "  subgraph " ++ id ++ "[\"" ++ title ++ "\"]"
  | closeCluster => "  end"
  | node id label => "    " ++ id ++ "[\"" ++ label ++ "\"]"
  | edge source isAsync label target =>
    "  " ++ source ++ " " ++ arrow isAsync ++ "|" ++ label ++ "| " ++ target
  | assign ids className => "  class " ++ String.intercalate "," ids ++ " " ++ className
  | style definition => "  " ++ definition
  | comment text => "  %% " ++ text
  | space => ""

/-- A text in square brackets and double quotes, with nothing after it. -/
def bracketed? (text : List Char) : Option (List Char) := do
  let rest ← after? "[\"".toList text
  before? "\"]".toList rest

/-- A run of one or more blanks at the front; what follows it. -/
def afterBlanks? : List Char → Option (List Char)
  | [] => none
  | c :: text => if isBlank c then some (trimStart text) else none

/-- A name of word characters at the front, with what follows it. -/
def nameFirst? (text : List Char) : Option (List Char × List Char) :=
  let name := text.takeWhile isWord
  if name.isEmpty then none else some (name, text.dropWhile isWord)

/-- `subgraph`, an id, and optionally a title. -/
def readOpenCluster? (line : List Char) : Option Statement := do
  let rest ← afterBlanks? (← after? "subgraph".toList line)
  let (id, rest) ← nameFirst? rest
  let title ← if rest.isEmpty then some [] else bracketed? rest
  return openCluster (String.ofList id) (String.ofList title)

/-- `end` alone. -/
def readCloseCluster? (line : List Char) : Option Statement :=
  if line == "end".toList then some closeCluster else none

/-- An id with a label behind it. -/
def readNode? (line : List Char) : Option Statement := do
  let (id, rest) ← nameFirst? line
  let label ← bracketed? rest
  return node (String.ofList id) (String.ofList label)

/-- An arrow at the front and the bar that opens its label. -/
def readArrow? (text : List Char) : Option (Bool × List Char) :=
  match after? "-->|".toList text with
  | some rest => some (false, rest)
  | none => (after? "-.->|".toList text).map fun rest => (true, rest)

/-- Two ids with an arrow between them, whose label reaches to the last bar. -/
def readEdge? (line : List Char) : Option Statement := do
  let (source, rest) ← nameFirst? line
  let (isAsync, rest) ← readArrow? (← afterBlanks? rest)
  let (label, rest) ← splitLast? '|' rest
  let target ← afterBlanks? rest
  if target.isEmpty || !target.all isWord then none
  else some (edge (String.ofList source) isAsync (String.ofList label) (String.ofList target))

/-- `class`, the ids with commas between them, and the name of the class. -/
def readAssign? (line : List Char) : Option Statement := do
  let rest ← afterBlanks? (← after? "class".toList line)
  let ids := rest.takeWhile fun c => !isBlank c
  let className ← afterBlanks? (rest.dropWhile fun c => !isBlank c)
  if ids.isEmpty || className.isEmpty || !className.all isWord then none
  else
    let ids := (splitOn ',' ids).filter fun id => !id.isEmpty
    some (assign (ids.map String.ofList) (String.ofList className))

/-- The statement that a line declares; of several readings the first one holds. -/
def ofLine? (line : List Char) : Option Statement :=
  readOpenCluster? line <|> readCloseCluster? line <|> readNode? line <|> readEdge? line <|>
    readAssign? line

end Statement

end SystemSketch.Diagram
