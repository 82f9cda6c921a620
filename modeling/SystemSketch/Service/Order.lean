import SystemSketch.Analysis
import SystemSketch.Diagram.Markdown
import SystemSketch.Json.Reader
import SystemSketch.Rules.Overrides
import SystemSketch.Service.Value

/-!
# Orders for a drawing

The body of a request for a drawing is an order: the files of a project with the overrides of
the rules and the title of the document. All of it may be left out. The texts of an order may hold
surrogates, so it comes with the characters that stand in for them.

## Main definitions

* `Order` — what a request for a drawing asks for.
* `BodyError` — why a body is no order.
* `Order.ofBody` — the order of a body.
* `Order.project` — the project that an order describes.
-/

namespace SystemSketch.Service

/-- What a request for a drawing asks for. -/
structure Order where
  standIns : Json.StandIns
  serverFiles : List SourceFile
  clientFiles : List SourceFile
  clientRoot : String
  title? : Option String
  resolvePending : Bool
  /-- The overrides of the rules. -/
  overrides? : Option Json

/-- A file of an order. -/
def readFile (place : List Step) : Json → Checked SourceFile
  | .object members =>
    let o := Json.object members
    .andAlso (.andAlso (.ok SourceFile.mk) (required readText place o "path"))
      (required readText place o "content")
  | json => .complain .notRecord place json

/-- Why a body is no order. -/
inductive BodyError where
  /-- The body cannot be read at all. -/
  | unreadable
  | invalid (standIns : Json.StandIns) (complaints : List Complaint)

namespace Order

/-- The order of a value with these stand-ins. -/
def read (standIns : Json.StandIns) (place : List Step) : Json → Checked Order
  | .object members =>
    let member {α : Type} (default : α) (reader : List Step → Json → Checked α) (name : String) :=
      withDefault default reader place (.object members) name
    Checked.andAlso (Checked.andAlso (Checked.andAlso (Checked.andAlso (Checked.andAlso
      (Checked.andAlso (.ok (Order.mk standIns))
        (member [] (readList readFile) "server_files"))
        (member [] (readList readFile) "client_files"))
        (member "client/app" readText "client_root"))
        (member (some Diagram.defaultTitle) readOptionalText "title"))
        (member false readBool "resolve_pending"))
        (member none readDict "rules")
  | json => .complain .notRecord place json

/-- The order of a body. -/
def ofBody (body : List UInt8) : Except BodyError Order :=
  let place := [Step.member "body"]
  if body.isEmpty then .error (.invalid {} [⟨.missing, place, .null⟩])
  else
    match Json.decode? body with
    | none => .error .unreadable
    | some points =>
      let standIns := Json.StandIns.of points
      match Json.read (points.map standIns.charOf) standIns with
      | .error .excessive => .error .unreadable
      | .error (.malformed position) =>
        .error (.invalid standIns [⟨.notJson, place ++ [.item position], .null⟩])
      | .ok json => (read standIns place json).mapError (.invalid standIns)

/-- The rules that an order asks for. -/
def rules (o : Order) : Except RulesError Rules :=
  match o.overrides? with
  | none => .ok {}
  | some overrides => Rules.ofOptionalDocument "request" (.ofJson overrides)

/-- The project that an order describes, read by the given rules. -/
def project (o : Order) (workingDirectory : Path.Directory) (rules : Rules) : Project where
  serverFiles := o.serverFiles
  clientFiles := o.clientFiles
  clientRoot := ⟨workingDirectory, o.clientRoot⟩
  rules := rules
  resolvePending := o.resolvePending

end Order

end SystemSketch.Service
