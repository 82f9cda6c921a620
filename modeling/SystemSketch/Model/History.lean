import SystemSketch.Extraction.Client
import SystemSketch.Extraction.Server

/-!
# Histories of a model

A model is built by a sequence of operations. An operation that fails leaves the model as it
is, and the sequence goes on.

## Main definitions

* `Operation` — what can be done to a model.
* `Operation.apply` — the model after an operation, or the reason why it failed.
* `Model.after` — the model after a sequence of operations.
-/

namespace SystemSketch

open Recognition

/-- What can be done to a model. -/
inductive Operation where
  | upsert (component : Component)
  | append (interaction : Interaction)
  | pend (reference : Reference)
  | analyzeServer (rules : Rules) (markers : List Marker) (file : SourceFile)
  | analyzePage (root : PageRoot) (rules : Rules) (file : SourceFile)
  | addUser
  | addDatabase
  | linkPersistence (rules : Rules)
  | synthesize (rules : Rules)
  | resolvePending

/-- The model after an operation. -/
def Operation.apply (m : Model) : Operation → Except PageError Model
  | upsert component => .ok (m.upsert component)
  | append interaction => .ok (m.append interaction)
  | pend reference => .ok (m.pend reference)
  | analyzeServer rules markers file => .ok (m.analyzeServer rules markers file)
  | analyzePage root rules file => m.analyzePage root rules file
  | addUser => .ok m.addUser
  | addDatabase => .ok m.addDatabase
  | linkPersistence rules => .ok (m.linkPersistence rules)
  | synthesize rules => .ok (m.synthesize rules)
  | resolvePending => .ok m.resolvePending

namespace Model

/-- The model after an operation; one that fails changes nothing. -/
def perform (m : Model) (operation : Operation) : Model :=
  match operation.apply m with
  | .ok m' => m'
  | .error _ => m

/-- The model after a sequence of operations. -/
def after (m : Model) (operations : List Operation) : Model :=
  operations.foldl perform m

end Model

end SystemSketch
