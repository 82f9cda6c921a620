import SystemSketch.Keyed
import SystemSketch.Text.Blank
import SystemSketch.Text.Word

/-!
# Node ids

A diagram names its nodes by short ids of ASCII letters, digits and underscores, none of which
may be a keyword of the diagram language. Identifiers of components are any text, so each is
given a safe id when it is first asked for; a number is added where two identifiers would get
the same one.

## Main definitions

* `safeId` — the safe id that an identifier asks for.
* `NodeIds` — the ids given so far; `NodeIds.request` asks for the id of an identifier.
-/

namespace SystemSketch.Diagram

open Text

/-- The words that the diagram language reads as keywords, in any case. -/
def keywords : List String :=
  ["end", "graph", "flowchart", "subgraph", "class", "classdef", "style", "linkstyle", "click",
    "default", "direction"]

/-- Whether a text is a keyword, in any case. -/
def isKeyword (text : List Char) : Bool :=
  keywords.contains (String.ofList (text.map Char.toLower))

/-- The **safe id** of an identifier. Every run of characters that an id cannot hold becomes one
underscore, and there is none at the ends. What is then empty becomes `node`, and a keyword
gets `n_` in front. -/
def safeId (identifier : String) : String :=
  let plain := trimBoth (· == '_') (collapse (fun c => !isPlainWord c) '_' identifier.toList)
  let named := if plain.isEmpty then "node".toList else plain
  String.ofList (if isKeyword named then "n_".toList ++ named else named)

/-- The ids given so far, in order. -/
structure NodeIds where
  /-- The id of each identifier. -/
  assigned : Table String String := .empty
  /-- The ids that cannot be given any more. -/
  used : List String := []

/-- An id with a number behind it. -/
def numbered (base : String) (k : Nat) : String :=
  base ++ "_" ++ toString k

/-- `base` itself if it is unused, otherwise `base` with the least unused number from 2 on. One
of the first `used.length + 1` numbers is unused. -/
def firstUnused (used : List String) (base : String) : String :=
  if used.contains base then
    match (List.range' 2 (used.length + 1)).find? fun k => !used.contains (numbered base k) with
    | some k => numbered base k
    | none => base
  else base

namespace NodeIds

/-- Nothing is given, and some ids are reserved for other uses. -/
def reserving (reserved : List String) : NodeIds :=
  { used := reserved }

/-- The id of an identifier, and the ids given after asking for it. -/
def request (identifier : String) (ids : NodeIds) : String × NodeIds :=
  match ids.assigned.value? identifier with
  | some id => (id, ids)
  | none =>
    let id := firstUnused ids.used (safeId identifier)
    (id, ⟨ids.assigned.set identifier id, ids.used ++ [id]⟩)

/-- The ids of several identifiers, asked for one after the other. -/
def requestAll (ids : NodeIds) : List String → List String × NodeIds
  | [] => ([], ids)
  | identifier :: rest =>
    let (id, ids) := ids.request identifier
    let (others, ids) := ids.requestAll rest
    (id :: others, ids)

/-- The id of an identifier. -/
def idOf (ids : NodeIds) (identifier : String) : String :=
  (ids.request identifier).1

end NodeIds

end SystemSketch.Diagram
