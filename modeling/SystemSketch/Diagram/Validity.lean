import SystemSketch.Diagram.Statement
import SystemSketch.Text.Case
import SystemSketch.Text.Line

/-!
# Valid drawings

A text can be shown as a diagram when it begins with a directive, holds nothing that could leave
the diagram's frame, and closes as many clusters as it opens.

## Main definitions

* `isDirective` — the directives.
* `isValid` — the texts that can be shown.
-/

namespace SystemSketch.Diagram

open Text

/-- Whether a line is a directive: `graph` or `flowchart`, and a direction, in any case. -/
def isDirective (line : List Char) : Bool :=
  let line := line.map foldCase
  ["graph", "flowchart"].any fun word =>
    match (after? word.toList line).bind Statement.afterBlanks? with
    | some direction => ["td", "lr", "tb", "rl", "bt"].any fun d => direction == d.toList
    | none => false

/-- The words that no drawing may hold: the fence of a document, and the start of a script. -/
def isUnsafe (text : List Char) : Bool :=
  occursIn "```".toList text || occursIn "<script".toList (text.map foldCase)

/-- Whether a line begins a cluster. -/
def opensCluster (line : List Char) : Bool :=
  (after? "subgraph ".toList line).isSome

/-- Whether a line ends a cluster. -/
def closesCluster (line : List Char) : Bool :=
  line == "end".toList

/-- Whether a text can be shown as a diagram. -/
def isValid (text : String) : Bool :=
  match ((lines text.toList).map trim).filter fun line => !line.isEmpty with
  | [] => false
  | first :: rest =>
    isDirective first && !isUnsafe text.toList &&
      (first :: rest).countP opensCluster == (first :: rest).countP closesCluster

end SystemSketch.Diagram
