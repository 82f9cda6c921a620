import SystemSketch.Validation.Cycle
import SystemSketch.Validation.Issue

/-!
# Validating a model

A report says what the drawing of a model will and will not show. Validation changes nothing,
and a model that is not valid can still be drawn.

## Main definitions

* `issues` — the issues of a model, family by family.
* `Report` — the issues with counts; `validate` gives the report of a model.
* `check` — the report of a model that is valid, or the issues for which it is not.
-/

namespace SystemSketch.Validation

/-! ### The families of issues -/

/-- The actors that every drawing has. -/
def requiredActors : List String :=
  [Model.userId, Model.databaseId]

/-- The required actors that are no components. -/
def missingActors (m : Model) : List Issue :=
  (requiredActors.filter fun id => !m.has id).map .missingActor

/-- The collisions of the model. -/
def collisions (m : Model) : List Issue :=
  m.collisions.map .collision

/-- The ends of an interaction that are no components. -/
def missingEnds (m : Model) (i : Interaction) : List String :=
  [i.source, i.target].filter fun id => !m.has id

/-- The interactions that are not drawn. -/
def danglingInteractions (m : Model) : List Issue :=
  m.dangling.map fun i => .dangling i (missingEnds m i)

/-- The drawn interactions of a component with itself. -/
def selfLoops (m : Model) : List Issue :=
  (m.renderable.filter fun i => i.source == i.target).map .selfLoop

/-- The arrows that are drawn more than once, in order of their first interaction. -/
def duplicateEdges (m : Model) : List Issue :=
  let arrows := m.renderable.map arrowOf
  (arrows.eraseDups.filter fun a => 1 < arrows.count a).map fun a => .duplicate a (arrows.count a)

/-- Whether an interaction has an identifier as one of its ends. -/
def touches (id : String) (i : Interaction) : Bool :=
  i.source == id || i.target == id

/-- Whether a component is expected to have drawn interactions. Every page has an edge from the
user, and the database has a family of its own. -/
def needsConnection (c : Component) : Bool :=
  match c.kind with
  | .controller | .service | .gateway => true
  | .clientPage | .user | .database => false

/-- The components without drawn interactions. -/
def orphans (m : Model) : List Issue :=
  (m.components.toList.filter fun c =>
    needsConnection c && !m.renderable.any (touches c.id)).map .orphan

/-- How many cycles are reported. -/
def cycleLimit : Nat := 3

/-- The first cycles of the model. -/
def circularDependencies (m : Model) : List Issue :=
  ((cycles m).take cycleLimit).map .cycle

/-- The database, if it is a component that no drawn interaction reaches. -/
def unusedDatabase (m : Model) : List Issue :=
  if m.has Model.databaseId && !m.renderable.any (·.target == Model.databaseId) then
    [.unusedDatabase]
  else []

/-- All issues of a model. -/
def issues (m : Model) : List Issue :=
  missingActors m ++ collisions m ++ danglingInteractions m ++ selfLoops m ++ duplicateEdges m ++
    orphans m ++ circularDependencies m ++ unusedDatabase m

/-! ### Reports -/

/-- The counts of a report. -/
structure Stats where
  components : Nat
  interactions : Nat
  renderedInteractions : Nat
  danglingInteractions : Nat
  pendingReferences : Nat
  pages : Nat
  controllers : Nat
  services : Nat
  gateways : Nat
  deriving DecidableEq

/-- The counts of a model. -/
def stats (m : Model) : Stats where
  components := m.components.size
  interactions := m.interactions.length
  renderedInteractions := m.renderable.length
  danglingInteractions := m.interactions.length - m.renderable.length
  pendingReferences := m.pending.length
  pages := (m.ofKind .clientPage).length
  controllers := (m.ofKind .controller).length
  services := (m.ofKind .service).length
  gateways := (m.ofKind .gateway).length

/-- Whether a severity makes a model invalid. Strict validation does not let warnings pass. -/
def Severity.fails (strict : Bool) : Severity → Bool
  | .error => true
  | .warning => strict
  | .info => false

/-- What validation says about a model. -/
structure Report where
  strict : Bool
  issues : List Issue
  stats : Stats
  deriving DecidableEq

namespace Report

/-- The number of issues of a severity. -/
def count (r : Report) (severity : Severity) : Nat :=
  r.issues.countP (·.severity == severity)

/-- The number of errors. -/
def errorCount (r : Report) : Nat := r.count .error

/-- The number of warnings. -/
def warningCount (r : Report) : Nat := r.count .warning

/-- The number of remarks. -/
def infoCount (r : Report) : Nat := r.count .info

/-- The issues that make the model invalid. -/
def failures (r : Report) : List Issue :=
  r.issues.filter fun issue => issue.severity.fails r.strict

/-- Whether no issue makes the model invalid. -/
def isValid (r : Report) : Bool :=
  !r.issues.any fun issue => issue.severity.fails r.strict

/-- Whether everything that was recognised is drawn. -/
def isComplete (r : Report) : Bool :=
  !r.issues.any (fun issue => issue.severity == .error) && r.stats.danglingInteractions == 0

/-- The report on one line. -/
def summary (r : Report) : String :=
  (if r.isValid then "✅ Valid" else "❌ Invalid") ++ " | " ++
    (if r.isComplete then "Complete" else "Incomplete") ++
    " | Errors: " ++ toString r.errorCount ++ ", Warnings: " ++ toString r.warningCount ++
    ", Info: " ++ toString r.infoCount

end Report

/-- The report of a model. -/
def validate (m : Model) (strict : Bool := false) : Report where
  strict := strict
  issues := issues m
  stats := stats m

/-- The issues for which a model is not valid. -/
structure Invalid where
  failures : List Issue
  deriving DecidableEq

/-- The text of a failed check. -/
def Invalid.message (e : Invalid) : String :=
  "Diagram validation failed with " ++ toString e.failures.length ++ " issues:\n" ++
    String.intercalate "\n" (e.failures.map Issue.line)

/-- The report of a model, if the model is valid. -/
def check (m : Model) (strict : Bool := false) : Except Invalid Report :=
  let report := validate m strict
  if report.isValid then .ok report else .error ⟨report.failures⟩

end SystemSketch.Validation
