import SystemSketch.Yaml.Node
import SystemSketch.Yaml.Value

/-!
# The content of a YAML text

The content of a text is the document that its graph stands for. A mapping takes over the
entries of the mappings that it merges; its own entries come after them and win. Collections are
filled in the order in which they are met, after everything that stands beside them, so of two
faults the one that is less deep is found first.

## Main definitions

* `Graph.flatten` — a mapping with the entries that it takes over.
* `Built` — what a node stands for, by the nodes in it.
* `Building.touch`, `Building.fill` — what is built of a node when it is met, and after that.
* `read` — the document of a text; a text without a document stands for nothing.
-/

namespace SystemSketch.Yaml

/-- Entries of a mapping node. -/
abbrev Entries : Type := List (NodeId × NodeId)

namespace Graph

/-! ### Merging -/

/-- The entries of a mapping node. -/
def entries? (g : Graph) (n : NodeId) : Option Entries :=
  match (g.node n).content with
  | .mapping entries => some entries
  | _ => none

/-- The graph with other entries of a mapping node. -/
def setEntries (g : Graph) (n : NodeId) (entries : Entries) : Graph :=
  g.set n { g.node n with content := .mapping entries }

/-- Whether a node has a tag. -/
def hasTag (g : Graph) (tag : Tag) (n : NodeId) : Bool :=
  (g.node n).tag == tag

/-- The first entry that merges other mappings into this one, and the other entries. -/
def takeMerge? (g : Graph) (entries : Entries) : Option (NodeId × Entries) :=
  (entries.findIdx? fun entry => g.hasTag .merge entry.1).bind fun i =>
    entries[i]?.map fun entry => (entry.2, entries.eraseIdx i)

/-- The graph in which the keys for a value of their own are texts. -/
def nameValues (g : Graph) (entries : Entries) : Graph :=
  entries.foldl (fun g (key, _) =>
    if g.hasTag .value key then g.set key { g.node key with tag := .text } else g) g

mutual

/-- A mapping without entries that merge others, but with `merged` and what they give in front
of its own entries. -/
def flatten (n : NodeId) (merged : Entries) : (fuel : Nat) → Graph → Except Fault Graph
  | 0, _ => .error .malformed
  | fuel + 1, g =>
    let own := (g.entries? n).getD []
    match g.takeMerge? own with
    | none => .ok ((g.setEntries n (merged ++ own)).nameValues own)
    | some (source, rest) => do
      let (taken, g) ← takeOver source fuel (g.setEntries n rest)
      flatten n (merged ++ taken) fuel g

/-- The entries that a merged node gives: those of a mapping, or those of all mappings of a
sequence, of which the first ones win. -/
def takeOver (source : NodeId) : (fuel : Nat) → Graph → Except Fault (Entries × Graph)
  | 0, _ => .error .malformed
  | fuel + 1, g =>
    match (g.node source).content with
    | .scalar _ => .error .malformed
    | .mapping _ => do
      let g ← flatten source [] fuel g
      return ((g.entries? source).getD [], g)
    | .sequence items => do
      let (parts, g) ← takeOverAll items fuel g
      return (parts.reverse.flatten, g)

/-- The entries of each of several mappings. -/
def takeOverAll (items : List NodeId) : (fuel : Nat) → Graph → Except Fault (List Entries × Graph)
  | 0, _ => .error .malformed
  | fuel + 1, g =>
    match items with
    | [] => .ok ([], g)
    | item :: items =>
      match (g.node item).content with
      | .mapping _ => do
        let g ← flatten item [] fuel g
        let part := (g.entries? item).getD []
        let (parts, g) ← takeOverAll items fuel g
        return (part :: parts, g)
      | _ => .error .malformed

end

/-- How many steps are enough to flatten a mapping: three for every entry and item of the
graph. -/
def mergeSteps (g : Graph) : Nat :=
  g.nodes.foldl (fun n node =>
    match node.content with
    | .scalar _ => n
    | .sequence items => n + 3 * items.length
    | .mapping entries => n + 3 * entries.length) 3

/-! ### Scalars -/

/-- The text of a scalar. A mapping with a value of its own stands for that value. -/
def scalarText (g : Graph) : (fuel : Nat) → NodeId → Except Fault String
  | 0, _ => .error .endless
  | fuel + 1, n =>
    match (g.node n).content with
    | .scalar text => .ok text
    | .sequence _ => .error .malformed
    | .mapping entries =>
      match entries.find? fun entry => g.hasTag .value entry.1 with
      | some (_, value) => g.scalarText fuel value
      | none => .error .malformed

/-- The document of a node whose tag is that of a scalar. -/
def scalarDocument (g : Graph) (n : NodeId) : Except Fault Document := do
  let text := g.scalarText (g.nodes.size + 1) n
  match (g.node n).tag with
  | .null => return (fun _ => .null) (← text)
  | .bool => return .bool (← boolValue (← text).toList)
  | .int => return .int (← intValue (← text).toList)
  | .decimal => return .decimal (← decimalValue (← text).toList)
  | .binary => return .bytes (← bytesValue (← text).toList)
  | .text => return .text (← text)
  | .timestamp =>
    let text ← text
    if (g.entries? n).isSome then throw .nestedTime
    timeValue text.toList
  | .sequence | .orderedMap | .pairs | .set | .mapping | .merge | .value | .other =>
    throw .malformed

end Graph

/-! ### Building -/

/-- What a node stands for, by the nodes in it. -/
inductive Built where
  | leaf (document : Document)
  | list (items : List NodeId)
  | pairs (items : Entries)
  | set (items : List NodeId)
  | mapping (entries : Entries)

namespace Built

/-- The collection that a tag is for, as yet without content. -/
def empty? : Tag → Option Built
  | .sequence => some (list [])
  | .orderedMap | .pairs => some (pairs [])
  | .set => some (set [])
  | .mapping => some (mapping [])
  | _ => none

/-- Whether a node can be a key. -/
def isKey : Built → Bool
  | leaf _ => true
  | _ => false

end Built

/-- What has been built of a graph. -/
structure Building where
  graph : Graph
  /-- What the nodes that have been met stand for. -/
  built : Array (Option Built)
  /-- The collections that are not filled yet. -/
  waiting : List NodeId := []

namespace Building

/-- What has been built of a node. -/
def at? (b : Building) (n : NodeId) : Option Built :=
  b.built.getD n none

/-- The building with what a node stands for. -/
def put (b : Building) (n : NodeId) (what : Built) : Building :=
  { b with built := b.built.setIfInBounds n (some what) }

/-- Meets a node. A scalar is built at once, and a collection has to wait. -/
def touch (b : Building) (n : NodeId) : Except Fault Building :=
  if (b.at? n).isSome then .ok b
  else
    match Built.empty? (b.graph.node n).tag with
    | some what => .ok { b.put n what with waiting := b.waiting ++ [n] }
    | none => do return b.put n (.leaf (← b.graph.scalarDocument n))

/-- Meets the key and the value of an entry. -/
def touchEntry (b : Building) (entry : NodeId × NodeId) : Except Fault Building := do
  (← b.touch entry.1).touch entry.2

/-- Meets the key and the value of an entry of a mapping. -/
def touchKeyed (b : Building) (entry : NodeId × NodeId) : Except Fault Building := do
  let b ← b.touch entry.1
  if !(b.at? entry.1).any Built.isKey then throw .malformed
  b.touch entry.2

/-- Meets the items of a list of mappings with one entry each. -/
def touchPairs (b : Building) : List NodeId → Except Fault (Entries × Building)
  | [] => .ok ([], b)
  | item :: items =>
    match b.graph.entries? item with
    | some [entry] => do
      let (entries, b) ← (← b.touchEntry entry).touchPairs items
      return (entry :: entries, b)
    | _ => .error .malformed

/-- Meets the entries of a mapping, merged ones included. -/
def touchEntries (b : Building) (n : NodeId) : Except Fault (Entries × Building) := do
  let _ ← Fault.require (b.graph.entries? n)
  let graph ← b.graph.flatten n [] b.graph.mergeSteps
  let entries := (graph.entries? n).getD []
  return (entries, ← entries.foldlM touchKeyed { b with graph := graph })

/-- Fills a collection. -/
def fill (b : Building) (n : NodeId) : Except Fault Building := do
  match (b.graph.node n).tag, (b.graph.node n).content with
  | .sequence, .sequence items => return (← items.foldlM touch b).put n (.list items)
  | .orderedMap, .sequence items | .pairs, .sequence items =>
    let (entries, b) ← b.touchPairs items
    return b.put n (.pairs entries)
  | .set, _ =>
    let (entries, b) ← b.touchEntries n
    return b.put n (.set (entries.map Prod.fst))
  | .mapping, _ =>
    let (entries, b) ← b.touchEntries n
    return b.put n (.mapping entries)
  | _, _ => throw .malformed

/-- Fills all collections. -/
def fillAll : (fuel : Nat) → Building → Except Fault Building
  | 0, b => .ok b
  | fuel + 1, b =>
    match b.waiting with
    | [] => .ok b
    | n :: waiting => do fillAll fuel (← fill { b with waiting := waiting } n)

/-! ### Documents -/

/-- A mapping of entries, of which later ones win. -/
def collect (entries : List (Document × Document)) : List (Document × Document) :=
  entries.foldl (fun all entry => Document.enter entry.1 entry.2 all) []

/-- The document of what a node stands for, by the documents of the nodes in it. -/
def assemble (document : NodeId → Document) : Built → Document
  | .leaf d => d
  | .list items => .list (items.map document)
  | .pairs entries => .list (entries.map fun (k, v) => .tuple [document k, document v])
  | .set items => .set ((collect (items.map fun k => (document k, .null))).map Prod.fst)
  | .mapping entries => .mapping (collect (entries.map fun (k, v) => (document k, document v)))

/-- The document of a node that stands within itself: a collection without content. -/
def cut (b : Building) (n : NodeId) : Document :=
  ((Built.empty? (b.graph.node n).tag).map (assemble fun _ => .null)).getD .null

/-- The documents of all nodes that have been built, in the order in which the nodes are
complete. -/
def documents (b : Building) : Array (Option Document) :=
  b.graph.completed.foldr (fun n documents =>
    match b.at? n with
    | none => documents
    | some what =>
      let document (m : NodeId) : Document := (documents.getD m none).getD (b.cut m)
      documents.setIfInBounds n (some (assemble document what)))
    (Array.replicate b.graph.nodes.size none)

end Building

/-- The document of a graph. -/
def Graph.document (g : Graph) (top : NodeId) : Except Fault Document := do
  let b : Building := { graph := g, built := Array.replicate g.nodes.size none }
  let b ← (← b.touch top).fillAll (g.nodes.size + 1)
  return (b.documents.getD top none).getD (b.cut top)

/-- The document of a text. -/
def read (source : Source) : Except Fault Document := do
  match ← Graph.ofTokens (Token.scan source) with
  | none => return .null
  | some (top, graph) => graph.document top

end SystemSketch.Yaml
