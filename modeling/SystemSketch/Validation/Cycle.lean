import SystemSketch.Model.Basic

/-!
# Circular dependencies

Cycles are found by walking the interactions depth first. The walk enters every component
once, starting from the components in roster order, and looks at the interactions of a
component in log order. An interaction that leads back to a component on the current path
closes a cycle. Parallel interactions are all looked at; interactions of a component with
itself are left out.

## Main definitions

* `Walk` — where a walk stands; `Walk.step` is one step with what happens in it.
* `events` — everything that happens in the walk of a model.
* `cycles` — the cycles that the walk closes, in the order in which it closes them.
-/

namespace SystemSketch.Validation

/-- The dependencies of a model: the ends of its drawn interactions, without those of a
component with itself. -/
def dependencies (m : Model) : List (String × String) :=
  (m.renderable.filter fun i => i.source != i.target).map fun i => (i.source, i.target)

/-- The targets of the dependencies of a node, in order. -/
def targets (edges : List (String × String)) (node : String) : List String :=
  (edges.filter (·.1 == node)).map (·.2)

/-- A node that has been entered and not yet left. -/
structure Frame where
  node : String
  /-- The nodes that lead from a root of the walk to this one, which is the last of them. -/
  path : List String
  /-- The targets of this node that have not been looked at. -/
  left : List String
  deriving DecidableEq

/-- Where a walk stands. -/
structure Walk where
  /-- The components that have not been considered as roots. -/
  roots : List String
  /-- The nodes that have been entered and not yet left, the innermost first. -/
  frames : List Frame := []
  /-- The nodes that have been entered. -/
  visited : List String := []
  /-- The nodes that a dependency can lead back to. -/
  active : List String := []
  deriving DecidableEq

/-- What happens in a step. -/
inductive Event where
  /-- A root is passed over, since it has been entered before. -/
  | pass (node : String)
  /-- A root is entered. -/
  | enter (node : String)
  /-- A dependency is looked at whose target has not been entered; the target is entered with
  this path. -/
  | descend (source target : String) (path : List String)
  /-- A dependency is looked at that leads back to an active node and closes a cycle. -/
  | close (source target : String) (cycle : List String)
  /-- A dependency is looked at whose target has been left. -/
  | cross (source target : String)
  /-- A node is left. -/
  | leave (node : String)
  deriving DecidableEq

/-- The cycle that is closed in a step. -/
def Event.cycle? : Event → Option (List String)
  | close _ _ cycle => some cycle
  | _ => none

namespace Walk

/-- The walk after entering a node on a path. -/
def enter (edges : List (String × String)) (w : Walk) (node : String) (path : List String) :
    Walk :=
  { w with
    frames := ⟨node, path, targets edges node⟩ :: w.frames
    visited := node :: w.visited
    active := node :: w.active }

/-- One step of a walk and what happens in it; `none` when the walk has ended. -/
def step (edges : List (String × String)) (w : Walk) : Option (Event × Walk) :=
  match w.frames with
  | [] =>
    match w.roots with
    | [] => none
    | root :: roots =>
      let w := { w with roots := roots }
      if w.visited.contains root then some (.pass root, w)
      else some (.enter root, w.enter edges root [root])
  | frame :: frames =>
    match frame.left with
    | [] =>
      some (.leave frame.node, { w with frames := frames, active := w.active.erase frame.node })
    | target :: left =>
      let w := { w with frames := { frame with left := left } :: frames }
      if !w.visited.contains target then
        let path := frame.path ++ [target]
        some (.descend frame.node target path, w.enter edges target path)
      else if w.active.contains target then
        let cycle := frame.path.dropWhile (· != target) ++ [target]
        some (.close frame.node target cycle, w)
      else some (.cross frame.node target, w)

/-- What happens in the next `count` steps, and where the walk stands after them. -/
def run (edges : List (String × String)) : (count : Nat) → Walk → List Event × Walk
  | 0, w => ([], w)
  | count + 1, w =>
    match w.step edges with
    | none => ([], w)
    | some (event, w) =>
      let (events, w) := w.run edges count
      (event :: events, w)

end Walk

/-- The number of steps of a whole walk: every component is considered as a root and left
once, and every dependency is looked at once. -/
def walkLength (m : Model) : Nat :=
  2 * m.components.size + (dependencies m).length

/-- The whole walk of a model. -/
def walk (m : Model) : List Event × Walk :=
  Walk.run (dependencies m) (walkLength m) { roots := m.components.keys }

/-- Everything that happens in the walk of a model. -/
def events (m : Model) : List Event :=
  (walk m).1

/-- The cycles of a model, each with its first node repeated at the end. -/
def cycles (m : Model) : List (List String) :=
  (events m).filterMap Event.cycle?

end SystemSketch.Validation
