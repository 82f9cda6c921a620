import SystemSketch.Diagram.Markdown
import SystemSketch.Exchange.Object
import SystemSketch.Exchange.Report
import SystemSketch.Rules.Overrides
import SystemSketch.Service.Complaint
import SystemSketch.Service.GenerationLog

/-!
# Replies of the service

A reply is held by what it says. Its status and its content follow from that.

## Main definitions

* `Reply` — the replies.
* `Reply.status`, `Reply.content` — the status and the content of a reply.
-/

namespace SystemSketch.Service

/-- What the service replies. -/
inductive Reply where
  /-- The service is well. -/
  | health
  /-- A drawing is made, for a document of this title. -/
  | drawing (title? : Option String) (outcome : Outcome)
  /-- The last entries of the log. -/
  | entries (shown : List Entry)
  /-- The overrides of the rules are refused. -/
  | refused (error : RulesError)
  | notFound
  | methodNotAllowed
  /-- The body cannot be read. -/
  | unreadable
  /-- The request does not fit. -/
  | invalid (complaints : List Complaint)
  /-- The service broke down over the request. -/
  | failure
  /-- The log cannot be read. -/
  | logUnavailable

/-- The content of a reply. -/
inductive Content where
  | json (value : Json)
  | text (value : String)

namespace Reply

/-- The status of a reply. -/
def status : Reply → Nat
  | health | drawing .. | entries _ => 200
  | refused _ | unreadable => 400
  | notFound => 404
  | methodNotAllowed => 405
  | invalid _ => 422
  | failure => 500
  | logUnavailable => 503

/-- The reply to a request that does not fit. The service breaks down over complaints that cannot
be handed out. -/
def ofComplaints (standIns : Json.StandIns) (complaints : List Complaint) : Reply :=
  if complaints.all (·.isShowable standIns) then .invalid complaints else .failure

/-- An object with nothing but a detail. -/
def detail (value : Json) : Json :=
  .object [("detail", value)]

/-- How a drawing is called that validation has an error or a warning for. -/
def verdict (r : Validation.Report) : String :=
  if r.warningCount = 0 ∧ r.errorCount = 0 then "success" else "warning"

/-- A drawing as it is handed out. -/
def drawingJson (title? : Option String) (outcome : Outcome) : Json :=
  .object [
    ("status", .text (verdict outcome.report)),
    ("mermaid", .text outcome.diagram),
    ("markdown", .text (Diagram.markdown outcome.diagram title?)),
    ("validation", outcome.report.toJson),
    ("diagnostics",
      .list (outcome.model.diagnostics.map fun d => (Datum.ofDiagnostic d).toJson)),
    ("stats", outcome.report.stats.toJson),
    ("components", .list (outcome.model.components.toList.map Component.toJson)),
    ("interactions",
      .list (outcome.model.interactions.map fun i => (Datum.ofInteraction i).toJson))]

/-- An entry of the log as it is handed out. -/
def entryJson (e : Entry) : Json :=
  .object [
    ("id", .int e.number),
    ("server_file_count", .int e.generation.serverFiles),
    ("client_file_count", .int e.generation.clientFiles),
    ("component_count", .int e.generation.components),
    ("interaction_count", .int e.generation.interactions),
    ("valid_mermaid", .bool e.generation.validMermaid)]

/-- The content of a reply. -/
def content : Reply → Content
  | health => .json (.object [("status", .text "ok")])
  | drawing title? outcome => .json (drawingJson title? outcome)
  | entries shown => .json (.list (shown.map entryJson))
  | refused e => .json (detail (.text e.message))
  | notFound => .json (detail (.text "Not Found"))
  | methodNotAllowed => .json (detail (.text "Method Not Allowed"))
  | unreadable => .json (detail (.text "There was an error parsing the body"))
  | invalid complaints => .json (detail (.list (complaints.map Complaint.toJson)))
  | failure => .text "Internal Server Error"
  | logUnavailable => .json (detail (.text "Generation log unavailable"))

/-- Whether a reply can be handed out. -/
def isShowable (standIns : Json.StandIns) (r : Reply) : Bool :=
  match r.content with
  | .json value => Service.isShowable standIns value
  | .text value => standIns.isEncodable value

/-- What becomes of a reply. The service breaks down over one that cannot be handed out. -/
def handedOut (standIns : Json.StandIns) (r : Reply) : Reply :=
  if r.isShowable standIns then r else .failure

end Reply

end SystemSketch.Service
