import SystemSketch.Diagram.Statement
import SystemSketch.Keyed
import SystemSketch.Text.Line

/-!
# Reading a drawing

A drawing is read line by line. Blanks at the ends of a line mean nothing, and empty lines and
remarks are passed over. The first line that is left is the directive; every later one declares
a statement or nothing.

## Main definitions

* `Drawing` — what a drawing declares.
* `Reader.read` — reads one line.
* `read` — reads a text.
-/

namespace SystemSketch.Diagram

open Text

/-- An edge of a drawing. -/
structure Edge where
  source : String
  target : String
  label : String
  isAsync : Bool
  /-- The line that declares the edge, counted from 0. -/
  line : Nat
  deriving DecidableEq

/-- What a drawing declares. -/
structure Drawing where
  directive : Option String := none
  /-- The label of each node; the last declaration holds. -/
  nodes : Table String String := .empty
  /-- The clusters within which a node is declared. -/
  nodeClusters : Table String (List String) := .empty
  /-- The line that first declares a node, counted from 0. -/
  nodeLines : Table String Nat := .empty
  edges : List Edge := []
  /-- The nodes of each style class. -/
  classes : Table String (List String) := .empty
  deriving DecidableEq

/-- A drawing that has been read up to some line, and the cluster that is open there. -/
structure Reader where
  drawing : Drawing := {}
  cluster? : Option String := none
  deriving DecidableEq

/-- Whether a line without blanks at its ends says nothing: it is empty, or a remark. -/
def isPassedOver (line : List Char) : Bool :=
  line.isEmpty || (after? "%%".toList line).isSome

namespace Reader

/-- Declares a node. -/
def declareNode (r : Reader) (number : Nat) (id label : String) : Reader :=
  { r with
    drawing := { r.drawing with
      nodes := r.drawing.nodes.set id label
      nodeLines := r.drawing.nodeLines.setNew id number
      nodeClusters :=
        match r.cluster? with
        | some cluster => r.drawing.nodeClusters.extend id [cluster]
        | none => r.drawing.nodeClusters } }

/-- Takes up the statement of line `number`. -/
def declare (r : Reader) (number : Nat) : Statement → Reader
  | .openCluster id _ => { r with cluster? := some id }
  | .closeCluster => { r with cluster? := none }
  | .node id label => r.declareNode number id label
  | .edge source isAsync label target =>
    { r with drawing := { r.drawing with
      edges := r.drawing.edges ++ [⟨source, target, label, isAsync, number⟩] } }
  | .assign ids className =>
    { r with drawing := { r.drawing with
      classes := r.drawing.classes.extend className ids } }
  | _ => r

/-- Reads line `number`, which has no blanks at its ends. -/
def readTrimmed (r : Reader) (number : Nat) (line : List Char) : Reader :=
  if isPassedOver line then r
  else if r.drawing.directive.isNone then
    { r with drawing := { r.drawing with directive := some (String.ofList line) } }
  else
    match Statement.ofLine? line with
    | some s => r.declare number s
    | none => r

/-- Reads line `number`. -/
def read (r : Reader) (number : Nat) (line : List Char) : Reader :=
  r.readTrimmed number (trim line)

/-- Reads lines of which the first one has the given number. -/
def readLines (r : Reader) (number : Nat) : List (List Char) → Reader
  | [] => r
  | line :: rest => (r.read number line).readLines (number + 1) rest

end Reader

/-- What the text of a drawing declares. -/
def read (text : String) : Drawing :=
  (Reader.readLines {} 0 (lines text.toList)).drawing

end SystemSketch.Diagram
