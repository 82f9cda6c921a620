import SystemSketch.Model.Basic

/-!
# Issues

An issue is something that the drawing of a model does not show, or shows in a way that asks
for attention. It is held by its cause, from which its code, its severity and its wording
follow.
-/

namespace SystemSketch.Validation

/-- How much an issue matters. -/
inductive Severity where
  /-- The drawing lacks what every drawing must have. -/
  | error
  /-- The drawing hides or loses something. -/
  | warning
  /-- Worth knowing. -/
  | info
  deriving DecidableEq

/-- The name of a severity. -/
def Severity.name : Severity → String
  | .error => "error"
  | .warning => "warning"
  | .info => "info"

/-- What makes two arrows look the same. -/
structure Arrow where
  source : String
  target : String
  label : String
  deriving DecidableEq

/-- What an interaction looks like, apart from its line. -/
def arrowOf (i : Interaction) : Arrow :=
  ⟨i.source, i.target, i.label⟩

/-- The causes of issues. -/
inductive Issue where
  /-- An actor that every drawing has is missing. -/
  | missingActor (id : String)
  /-- A component has taken the place of another one. -/
  | collision (collision : Collision)
  /-- An interaction is not drawn, since these of its ends are no components. -/
  | dangling (interaction : Interaction) (missing : List String)
  /-- A component interacts with itself. -/
  | selfLoop (interaction : Interaction)
  /-- The same arrow is drawn several times. -/
  | duplicate (arrow : Arrow) (count : Nat)
  /-- No interaction of a component is drawn. -/
  | orphan (component : Component)
  /-- Components depend on each other in a circle. -/
  | cycle (nodes : List String)
  /-- Nothing reaches the database. -/
  | unusedDatabase
  deriving DecidableEq

namespace Issue

/-- How much an issue matters. -/
def severity : Issue → Severity
  | missingActor _ => .error
  | collision _ | dangling .. | selfLoop _ | orphan _ | cycle _ => .warning
  | duplicate .. | unusedDatabase => .info

/-- The code of an issue. -/
def code : Issue → String
  | missingActor _ => "MISSING_ACTOR"
  | collision _ => "IDENTIFIER_COLLISION"
  | dangling .. => "DANGLING_INTERACTION"
  | selfLoop _ => "SELF_LOOP"
  | duplicate .. => "DUPLICATE_EDGE"
  | orphan _ => "ORPHANED_COMPONENT"
  | cycle _ => "CIRCULAR_DEPENDENCY"
  | unusedDatabase => "DATABASE_NO_INCOMING"

/-- The text of an issue. -/
def message : Issue → String
  | missingActor id => "Synthesized actor '" ++ id ++ "' is missing"
  | collision c => c.message
  | dangling _ missing =>
    "Interaction references unknown component(s) " ++
      String.intercalate ", " (missing.map Text.quote) ++ "; it will not be drawn"
  | selfLoop i => "Edge creates self-loop on '" ++ i.source ++ "'"
  | duplicate a count =>
    "Duplicate edge '" ++ a.source ++ "' -> '" ++ a.target ++ "' (" ++ a.label ++ ") appears " ++
      toString count ++ " times"
  | orphan c => c.kind.name ++ " '" ++ c.id ++ "' has no connections"
  | cycle nodes => "Circular dependency detected: " ++ String.intercalate " -> " nodes
  | unusedDatabase => "Database has no incoming connections"

/-- The component that an issue is about. -/
def nodeId? : Issue → Option String
  | missingActor id => some id
  | collision c => some c.replacement.id
  | selfLoop i => some i.source
  | orphan c => some c.id
  | unusedDatabase => some Model.databaseId
  | dangling .. | duplicate .. | cycle _ => none

/-- The ends of an arrow. -/
def ends (source target : String) : String :=
  source ++ " -> " ++ target

/-- The arrow that an issue is about. -/
def edgeInfo? : Issue → Option String
  | dangling i _ | selfLoop i => some (ends i.source i.target ++ " (" ++ i.label ++ ")")
  | duplicate a _ => some (ends a.source a.target)
  | missingActor _ | collision _ | orphan _ | cycle _ | unusedDatabase => none

/-- What can be done about an issue. -/
def suggestion? : Issue → Option String
  | missingActor _ => some "Run actor synthesis after all files are analyzed"
  | collision _ => some "Rename one of the classes; only the last one is shown"
  | dangling .. => some "Add a recognized decorator to the referenced class or ignore"
  | selfLoop _ => some "Usually the persistence service mentioning itself"
  | duplicate .. => none
  | orphan _ => some "Check that its constructor and callers follow the recognized patterns"
  | cycle _ => some "Consider breaking the cycle (forwardRef usually hides one)"
  | unusedDatabase => some "No persistence service component was found"

/-- An issue on one line, with its code. -/
def line (issue : Issue) : String :=
  "[" ++ issue.code ++ "] " ++ issue.message

end Issue

end SystemSketch.Validation
