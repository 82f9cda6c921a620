import SystemSketch.Extraction.Source
import SystemSketch.Model.Basic
import SystemSketch.Recognition.Server

/-!
# Server files

What a server file says does not depend on any other file: the component that its exported
class is, and the interactions of the class with those that it is given or mentions.

## Main definitions

* `serverFacts` — what a server file says.
* `Model.recordServer` — a model with the facts of a server file.
-/

namespace SystemSketch

open Recognition

/-- What a server file says. -/
structure ServerFacts where
  /-- The exported class, if a marker says what it is. -/
  component? : Option Component := none
  interactions : List Interaction := []
  deriving DecidableEq

/-- The name of the first exported class of a text. -/
def exportedName? (text : String) : Option String :=
  (exportedClass.find? text).map Capture.value

/-- The component that a text declares under the name `className`. -/
def serverComponent? (markers : List Marker) (file : SourceFile) (className : String) :
    Option Component :=
  (classify markers file.text).map fun (marker, capture) =>
    { id := className
      kind := marker.kind
      label := marker.label className capture
      filePath := file.path }

/-- Whether a text mentions the persistence service. -/
def mentionsPersistence (rules : Rules) (text : String) : Bool :=
  (Pattern.literal "persistence" rules.persistenceService).occursIn text

/-- The interactions that a text declares for the class `className`: one for every dependency
of its constructor, and one if it mentions the persistence service. -/
def serverInteractions (rules : Rules) (text className : String) : List Interaction :=
  (constructorDependencies text).map
    (fun dependency => { source := className, target := dependency, label := "injects" }) ++
  if mentionsPersistence rules text then
    [{ source := className, target := rules.persistenceService, label := "uses" }]
  else []

/-- What a server file says. A file without an exported class says nothing, and a class that
no marker classifies still has its interactions. -/
def serverFacts (rules : Rules) (markers : List Marker) (file : SourceFile) : ServerFacts :=
  match exportedName? file.text with
  | none => {}
  | some className =>
    { component? := serverComponent? markers file className
      interactions := serverInteractions rules file.text className }

namespace Model

/-- Enters a component if there is one. -/
def upsertAny (m : Model) : Option Component → Model
  | none => m
  | some c => m.upsert c

/-- Takes up the facts of a server file. -/
def recordServer (m : Model) (facts : ServerFacts) : Model :=
  facts.interactions.foldl append (m.upsertAny facts.component?)

/-- Takes up a server file. -/
def analyzeServer (rules : Rules) (markers : List Marker) (m : Model) (file : SourceFile) :
    Model :=
  m.recordServer (serverFacts rules markers file)

end Model

end SystemSketch
