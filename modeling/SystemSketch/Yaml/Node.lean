import SystemSketch.Yaml.Tag
import SystemSketch.Yaml.Token

/-!
# Nodes of a YAML text

The tokens of a text form a graph of scalars, sequences and mappings. Every node has a tag: the
one that is written, or one that follows from its form. An alias stands for the very node that
its anchor marks, so a node may stand in several places, and within itself.

## Main definitions

* `Node` — the nodes.
* `Graph` — the nodes of a document.
* `Graph.ofTokens` — the graph of a text with at most one document, and its top.
-/

namespace SystemSketch.Yaml

/-- The number of a node. -/
abbrev NodeId : Type := Nat

/-- What a node holds. -/
inductive NodeContent where
  | scalar (text : String)
  | sequence (items : List NodeId)
  | mapping (entries : List (NodeId × NodeId))

/-- A node of a document. -/
structure Node where
  tag : Tag
  content : NodeContent

/-- The nodes of a document. -/
structure Graph where
  nodes : Array Node := #[]
  /-- The nodes in the order in which they are complete, the last one first. -/
  completed : List NodeId := []

namespace Graph

/-- A node by its number. -/
def node (g : Graph) (n : NodeId) : Node :=
  g.nodes.getD n ⟨.null, .scalar ""⟩

/-- The graph with another node under a number. -/
def set (g : Graph) (n : NodeId) (node : Node) : Graph :=
  { g with nodes := g.nodes.setIfInBounds n node }

end Graph

/-- What is known while a document is read. -/
structure Reading where
  /-- The tokens that are left. -/
  tokens : List Token
  graph : Graph := {}
  /-- The nodes that anchors mark. -/
  anchors : List (String × NodeId) := []
  /-- What the handles of tags stand for. -/
  handles : List (String × String) := [("!", "!"), ("!!", Tag.domain)]

namespace Reading

/-- The reading with other tokens left. -/
def leaving (r : Reading) (tokens : List Token) : Reading :=
  { r with tokens := tokens }

/-- Why the next token is refused where it does not fit. -/
def refusal (r : Reading) : Fault :=
  match r.tokens with
  | .unreadable fault :: _ => fault
  | _ => .malformed

/-- Refuses the next token if it cannot be had. -/
def ensureReadable (r : Reading) : Except Fault Unit :=
  match r.tokens with
  | .unreadable fault :: _ => .error fault
  | _ => .ok ()

/-- Whether the next token is one of those that let an empty node stand before them. -/
def isBefore (r : Reading) (marks : List Token) : Bool :=
  r.tokens.head?.any fun token => marks.contains token

/-- Adds a node that is not complete, with an anchor if there is one. -/
def begin (r : Reading) (anchor? : Option String) (node : Node) : NodeId × Reading :=
  let n := r.graph.nodes.size
  let anchors := match anchor? with
    | none => r.anchors
    | some name => (name, n) :: r.anchors
  (n, { r with graph := { r.graph with nodes := r.graph.nodes.push node }, anchors := anchors })

/-- Completes a node. -/
def complete (r : Reading) (n : NodeId) (content : NodeContent) : NodeId × Reading :=
  let graph := r.graph.set n { r.graph.node n with content := content }
  (n, { r with graph := { graph with completed := n :: graph.completed } })

/-- Adds a scalar. -/
def scalar (r : Reading) (anchor? : Option String) (tag : Tag) (text : String) :
    NodeId × Reading :=
  let (n, r) := r.begin anchor? ⟨tag, .scalar text⟩
  r.complete n (.scalar text)

/-- Adds the node that stands where nothing is written. -/
def empty (r : Reading) : NodeId × Reading :=
  r.scalar none .null ""

end Reading

/-- The properties of a node: its anchor and its tag, in any order, each at most once. -/
def properties (tokens : List Token) :
    Option String × Option (Option String × String) × List Token :=
  match tokens with
  | .anchor a :: .tag h t :: rest => (some a, some (h, t), rest)
  | .tag h t :: .anchor a :: rest => (some a, some (h, t), rest)
  | .anchor a :: rest => (some a, none, rest)
  | .tag h t :: rest => (none, some (h, t), rest)
  | rest => (none, none, rest)

/-- The full name of a tag. -/
def tagName? (handles : List (String × String)) : Option String × String → Option String
  | (none, name) => some name
  | (some handle, name) => (handles.lookup handle).map (· ++ name)

/-- The tag of a collection. -/
def collectionTag (name? : Option String) (default : Tag) : Tag :=
  match name? with
  | none | some "!" => default
  | some name => .ofName name

/-- The tag of a scalar. A plain one has its tag by its form, and so has one whose tag is a
lone exclamation mark. -/
def scalarTag (name? : Option String) (isPlain : Bool) (text : String) : Tag :=
  match name? with
  | none => if isPlain then .ofForm text else .text
  | some "!" => .ofForm text
  | some name => .ofName name

mutual

/-- The node at the front. `block` says whether it may be a block collection, and `indentless`
whether it may be a sequence whose dashes stand under the key. -/
def readNode (block indentless : Bool) : (fuel : Nat) → Reading → Except Fault (NodeId × Reading)
  | 0, r => .error r.refusal
  | fuel + 1, r =>
    match r.tokens with
    | .alias name :: rest =>
      (Fault.require (r.anchors.lookup name)).map fun n => (n, r.leaving rest)
    | tokens => do
      let (anchor?, property?, rest) := properties tokens
      let r := r.leaving rest
      r.ensureReadable
      let name? ← match property? with
        | none => pure none
        | some property => (Fault.require (tagName? r.handles property)).map some
      if anchor?.any fun a => (r.anchors.lookup a).isSome then throw .malformed
      let (n, sequence) := r.begin anchor? ⟨collectionTag name? .sequence, .sequence []⟩
      let (_, mapping) := r.begin anchor? ⟨collectionTag name? .mapping, .mapping []⟩
      let emptyScalar : Except Fault (NodeId × Reading) :=
        if anchor?.isSome || name?.isSome then .ok (r.scalar anchor? (scalarTag name? true "") "")
        else .error .malformed
      match rest with
      | .blockEntry :: _ =>
        if indentless then
          let (items, r) ← readIndentless fuel sequence
          return r.complete n (.sequence items)
        else emptyScalar
      | .scalar text isPlain :: rest =>
        return (r.leaving rest).scalar anchor? (scalarTag name? isPlain text) text
      | .flowSequenceStart :: rest =>
        let (items, r) ← readFlowItems true fuel (sequence.leaving rest)
        return r.complete n (.sequence items)
      | .flowMappingStart :: rest =>
        let (entries, r) ← readFlowEntries true fuel (mapping.leaving rest)
        return r.complete n (.mapping entries)
      | .blockSequenceStart :: rest =>
        if block then
          let (items, r) ← readBlockItems fuel (sequence.leaving rest)
          return r.complete n (.sequence items)
        else emptyScalar
      | .blockMappingStart :: rest =>
        if block then
          let (entries, r) ← readBlockEntries fuel (mapping.leaving rest)
          return r.complete n (.mapping entries)
        else emptyScalar
      | _ => emptyScalar

/-- A node, or an empty one before one of some marks. -/
def readOptional (block indentless : Bool) (marks : List Token) :
    (fuel : Nat) → Reading → Except Fault (NodeId × Reading)
  | 0, r => .error r.refusal
  | fuel + 1, r =>
    if r.isBefore marks then .ok r.empty else readNode block indentless fuel r

/-- The value that follows a key, or an empty one. -/
def readValue (block : Bool) (marks : List Token) :
    (fuel : Nat) → Reading → Except Fault (NodeId × Reading)
  | 0, r => .error r.refusal
  | fuel + 1, r =>
    match r.tokens with
    | .value :: rest => readOptional block block marks fuel (r.leaving rest)
    | _ => do
      r.ensureReadable
      return r.empty

/-- The items of a block sequence, up to its end. -/
def readBlockItems : (fuel : Nat) → Reading → Except Fault (List NodeId × Reading)
  | 0, r => .error r.refusal
  | fuel + 1, r =>
    match r.tokens with
    | .blockEnd :: rest => .ok ([], r.leaving rest)
    | .blockEntry :: rest => do
      let (item, r) ← readOptional true false [.blockEntry, .blockEnd] fuel (r.leaving rest)
      let (items, r) ← readBlockItems fuel r
      return (item :: items, r)
    | _ => .error r.refusal

/-- The items of a sequence whose dashes stand under the key. -/
def readIndentless : (fuel : Nat) → Reading → Except Fault (List NodeId × Reading)
  | 0, r => .error r.refusal
  | fuel + 1, r =>
    match r.tokens with
    | .blockEntry :: rest => do
      let marks := [Token.blockEntry, .key, .value, .blockEnd]
      let (item, r) ← readOptional true false marks fuel (r.leaving rest)
      let (items, r) ← readIndentless fuel r
      return (item :: items, r)
    | _ => do
      r.ensureReadable
      return ([], r)

/-- The entries of a block mapping, up to its end. -/
def readBlockEntries : (fuel : Nat) → Reading → Except Fault (List (NodeId × NodeId) × Reading)
  | 0, r => .error r.refusal
  | fuel + 1, r =>
    match r.tokens with
    | .blockEnd :: rest => .ok ([], r.leaving rest)
    | .key :: rest => do
      let marks := [Token.key, .value, .blockEnd]
      let (key, r) ← readOptional true true marks fuel (r.leaving rest)
      let (value, r) ← readValue true marks fuel r
      let (entries, r) ← readBlockEntries fuel r
      return ((key, value) :: entries, r)
    | _ => .error r.refusal

/-- The items of a sequence in brackets, up to its end. An item may be a single entry of a
mapping. -/
def readFlowItems (isFirst : Bool) : (fuel : Nat) → Reading → Except Fault (List NodeId × Reading)
  | 0, r => .error r.refusal
  | fuel + 1, r =>
    match r.tokens with
    | .flowSequenceEnd :: rest => .ok ([], r.leaving rest)
    | tokens => do
      let rest ← if isFirst then pure tokens else
        match tokens with
        | .flowEntry :: rest => pure rest
        | _ => throw r.refusal
      match rest with
      | .flowSequenceEnd :: rest => return ([], r.leaving rest)
      | .key :: rest =>
        let (n, r) := r.begin none ⟨.mapping, .mapping []⟩
        let keyMarks := [Token.value, .flowEntry, .flowSequenceEnd]
        let (key, r) ← readOptional false false keyMarks fuel (r.leaving rest)
        let (value, r) ← readValue false [.flowEntry, .flowSequenceEnd] fuel r
        let (_, r) := r.complete n (.mapping [(key, value)])
        let (items, r) ← readFlowItems false fuel r
        return (n :: items, r)
      | rest =>
        let (item, r) ← readNode false false fuel (r.leaving rest)
        let (items, r) ← readFlowItems false fuel r
        return (item :: items, r)

/-- The entries of a mapping in braces, up to its end. -/
def readFlowEntries (isFirst : Bool) :
    (fuel : Nat) → Reading → Except Fault (List (NodeId × NodeId) × Reading)
  | 0, r => .error r.refusal
  | fuel + 1, r =>
    match r.tokens with
    | .flowMappingEnd :: rest => .ok ([], r.leaving rest)
    | tokens => do
      let rest ← if isFirst then pure tokens else
        match tokens with
        | .flowEntry :: rest => pure rest
        | _ => throw r.refusal
      match rest with
      | .flowMappingEnd :: rest => return ([], r.leaving rest)
      | .key :: rest =>
        let keyMarks := [Token.value, .flowEntry, .flowMappingEnd]
        let (key, r) ← readOptional false false keyMarks fuel (r.leaving rest)
        let (value, r) ← readValue false [.flowEntry, .flowMappingEnd] fuel r
        let (entries, r) ← readFlowEntries false fuel r
        return ((key, value) :: entries, r)
      | rest =>
        let (key, r) ← readNode false false fuel (r.leaving rest)
        let (value, r) := r.empty
        let (entries, r) ← readFlowEntries false fuel r
        return ((key, value) :: entries, r)

end

/-! ### Documents -/

/-- The directives before a document. A version may be given once and must be 1, and a handle
may be given a meaning once. -/
def readDirectives (versioned : Bool) (own : List (String × String)) (r : Reading) :
    List Token → Except Fault Reading
  | .version major :: rest =>
    if versioned || major != 1 then .error .malformed else readDirectives true own r rest
  | .handle name expansion :: rest =>
    if (own.lookup name).isSome then .error .malformed
    else readDirectives versioned ((name, expansion) :: own) r rest
  | .directive :: rest => readDirectives versioned own r rest
  | tokens => .ok { r with tokens := tokens, handles := own ++ r.handles }

/-- Whether a token stands between documents. -/
def isBetweenDocuments : Token → Bool
  | .version _ | .handle .. | .directive | .documentStart | .documentEnd => true
  | _ => false

/-- How many steps are enough to read a node of some tokens: three for each token. -/
def stepsFor (tokens : List Token) : Nat :=
  3 * tokens.length + 3

/-- The document after its start mark; nothing may be written in it. -/
def readExplicit (r : Reading) : Except Fault (NodeId × Reading) :=
  match r.tokens with
  | [] => .ok r.empty
  | token :: _ =>
    if isBetweenDocuments token then .ok r.empty else readNode true false (stepsFor r.tokens) r

/-- A document with its start mark, or nothing at the end of the tokens. End marks may stand
before it. -/
def readStarted? (r : Reading) : Except Fault (Option (NodeId × Reading)) :=
  match r.tokens.dropWhile (· == .documentEnd) with
  | [] => .ok none
  | tokens => do
    let r ← readDirectives false [] r tokens
    match r.tokens with
    | .documentStart :: rest => return some (← readExplicit (r.leaving rest))
    | _ => throw r.refusal

/-- The first document, if there is one. A document without a start mark has no directives. -/
def readDocument? (tokens : List Token) : Except Fault (Option (NodeId × Reading)) :=
  match tokens with
  | [] => .ok none
  | token :: _ =>
    let r : Reading := { tokens := tokens }
    if isBetweenDocuments token && token != .documentEnd then readStarted? r
    else (readNode true false (stepsFor tokens) r).map some

/-- Refuses a second document. Directives before it are looked at first. -/
def refuseDocument (r : Reading) : Except Fault Unit :=
  match r.tokens.dropWhile (· == .documentEnd) with
  | [] => .ok ()
  | tokens => do
    let r ← readDirectives false [] r tokens
    throw r.refusal

/-- The graph of the only document that the tokens hold, and its top. Nothing but end marks may
follow it. -/
def Graph.ofTokens (tokens : List Token) : Except Fault (Option (NodeId × Graph)) := do
  match ← readDocument? tokens with
  | none => return none
  | some (top, r) =>
    refuseDocument r
    return some (top, r.graph)

end SystemSketch.Yaml
