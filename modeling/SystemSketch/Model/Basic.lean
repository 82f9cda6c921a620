import SystemSketch.Model.Interaction
import SystemSketch.Keyed
import SystemSketch.Text.Search
import SystemSketch.Rules.Basic

/-!
# The architecture model

A model collects what the files of a project say: a roster of components, a log of
interactions, the references that found no answer yet, and the collisions that replaced a
component by another one of the same identifier. Interactions and collisions are only ever
appended.

## Main definitions

* `Model.upsert`, `Model.append`, `Model.pend` — the elementary operations.
* `Model.renderable`, `Model.dangling` — the interactions that can be drawn, and the others.
* `Model.answer?` — the interaction that a reference leads to.
* `Model.connect` — asks a reference and records the answer, or the open question.
* `Model.resolvePending` — asks every open question again.
* `Model.synthesize` — adds the two actors that no file declares.
-/

namespace SystemSketch

/-- The components of a model: one of each identifier, in order of first entry. -/
abbrev Roster : Type :=
  Keyed Component.id

/-- A component that took the place of another one of the same identifier. -/
structure Collision where
  replaced : Component
  replacement : Component
  deriving DecidableEq

/-- A remark about a model, in the form in which interfaces hand it out. -/
structure Diagnostic where
  level : String
  code : String
  message : String
  objectId : String
  deriving DecidableEq

namespace Collision

/-- The text of a collision names the kind and the origin of both components. -/
def message (c : Collision) : String :=
  "'" ++ c.replacement.id ++ "' (" ++ c.replaced.kind.name ++ ", " ++ c.replaced.origin ++
    ") replaced by " ++ c.replacement.kind.name ++ " from " ++ c.replacement.origin

/-- A collision as a remark. -/
def diagnostic (c : Collision) : Diagnostic where
  level := "warning"
  code := "IDENTIFIER_COLLISION"
  message := c.message
  objectId := c.replacement.id

end Collision

/-- Whether the label of a component shows a path that begins with `/api/` and `route`. -/
def Component.serves (c : Component) (route : String) : Bool :=
  Text.occursIn ("/api/" ++ route).toList c.label.toList

/-- What is known about an architecture. -/
structure Model where
  components : Roster := .empty
  interactions : List Interaction := []
  pending : List Reference := []
  collisions : List Collision := []
  deriving DecidableEq

namespace Model

/-- The model before any file is read. -/
def empty : Model := {}

/-- The identifier of the actor that uses the pages. -/
def userId : String := "User"

/-- The identifier of the actor that stores the data. -/
def databaseId : String := "Database"

/-! ### Questions -/

/-- Whether an identifier belongs to a component. -/
def has (m : Model) (id : String) : Bool :=
  m.components.contains id

/-- The component of an identifier. -/
def get? (m : Model) (id : String) : Option Component :=
  m.components.get? id

/-- The components of a kind, in roster order. -/
def ofKind (m : Model) (kind : Kind) : List Component :=
  m.components.toList.filter (·.kind == kind)

/-- The components of a cluster, in roster order. -/
def inCluster (m : Model) (cluster : Cluster) : List Component :=
  m.components.toList.filter (·.cluster == cluster)

/-- The first component of a kind. -/
def firstOfKind? (m : Model) (kind : Kind) : Option Component :=
  (m.ofKind kind).head?

/-- The first controller whose label shows the route. -/
def controllerOf? (m : Model) (route : String) : Option Component :=
  (m.ofKind .controller).find? (·.serves route)

/-- Whether both ends of an interaction are components. -/
def draws (m : Model) (i : Interaction) : Bool :=
  m.has i.source && m.has i.target

/-- The interactions between components, in log order. -/
def renderable (m : Model) : List Interaction :=
  m.interactions.filter m.draws

/-- The interactions with an end that is no component, in log order. -/
def dangling (m : Model) : List Interaction :=
  m.interactions.filter fun i => !m.draws i

/-- The remarks about the model. -/
def diagnostics (m : Model) : List Diagnostic :=
  m.collisions.map Collision.diagnostic

/-- The interaction that a reference leads to: to the controller that serves its route, or to
the first gateway. -/
def answer? (m : Model) (r : Reference) : Option Interaction :=
  if r.kind = .controller then
    (m.controllerOf? r.lookupRoute).map fun c =>
      { source := r.source, target := c.id, label := "GET /api/" ++ r.lookupRoute }
  else
    (m.firstOfKind? .gateway).map fun c =>
      { source := r.source, target := c.id, label := "connects to", isAsync := true }

/-! ### Operations -/

/-- Enters a component. If its identifier is taken, the collision is recorded. -/
def upsert (m : Model) (c : Component) : Model :=
  { m with
    components := m.components.insert c
    collisions :=
      match m.get? c.id with
      | some old => m.collisions ++ [⟨old, c⟩]
      | none => m.collisions }

/-- Appends an interaction to the log. -/
def append (m : Model) (i : Interaction) : Model :=
  { m with interactions := m.interactions ++ [i] }

/-- Keeps a reference that found no answer. -/
def pend (m : Model) (r : Reference) : Model :=
  { m with pending := m.pending ++ [r] }

/-- Records the answer to a reference, or keeps the reference if there is none yet. -/
def connect (m : Model) (r : Reference) : Model :=
  match m.answer? r with
  | some i => m.append i
  | none => m.pend r

/-- Asks every pending reference again. The answers are appended to the log in order, the
references without an answer stay pending. -/
def resolvePending (m : Model) : Model :=
  { m with
    interactions := m.interactions ++ m.pending.filterMap m.answer?
    pending := m.pending.filter fun r => (m.answer? r).isNone }

/-- How many pending references find an answer. -/
def resolvedCount (m : Model) : Nat :=
  (m.pending.filterMap m.answer?).length

/-- Adds the user. -/
def addUser (m : Model) : Model :=
  m.upsert { id := userId, kind := .user, label := "👤 User" }

/-- Adds the database. -/
def addDatabase (m : Model) : Model :=
  m.upsert { id := databaseId, kind := .database, label := "🗄️ Database" }

/-- Lets the persistence service query the database, if there is such a component. -/
def linkPersistence (rules : Rules) (m : Model) : Model :=
  if m.has rules.persistenceService then
    m.append { source := rules.persistenceService, target := databaseId, label := "queries" }
  else m

/-- Adds what no single file shows: both actors, and the arrow to the database. -/
def synthesize (rules : Rules) (m : Model) : Model :=
  m.addUser.addDatabase.linkPersistence rules

end Model

end SystemSketch
