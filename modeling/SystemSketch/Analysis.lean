import SystemSketch.Diagram.Render
import SystemSketch.Extraction.Client
import SystemSketch.Extraction.Server
import SystemSketch.Validation.Report

/-!
# Analysing a project

An analysis takes up every server file before any client file, because pages find the
controllers and gateways that they call in the model. It then adds the actors, validates the
model and draws it.

## Main definitions

* `Project` — the files of a project and how they are to be read.
* `Project.model` — the model of a project.
* `analyze` — the outcome of an analysis: the model, its report, its drawing, and the log.
-/

namespace SystemSketch

/-- The files of a project and how they are to be read. -/
structure Project where
  serverFiles : List SourceFile
  clientFiles : List SourceFile
  clientRoot : PageRoot
  rules : Rules := {}
  /-- Whether open questions are asked again once all files are read. -/
  resolvePending : Bool := false
  deriving DecidableEq

/-- The stages of an analysis. -/
inductive Stage where
  | serverExtraction
  | clientExtraction
  | resolution
  | synthesis
  deriving DecidableEq

/-- The name of a stage. -/
def Stage.name : Stage → String
  | .serverExtraction => "server_extraction"
  | .clientExtraction => "client_extraction"
  | .resolution => "resolution"
  | .synthesis => "synthesis"

namespace Project

/-- What one stage makes of a model. -/
def runStage (p : Project) (m : Model) : Stage → Except PageError Model
  | .serverExtraction =>
    .ok (p.serverFiles.foldl (Model.analyzeServer p.rules Recognition.markers) m)
  | .clientExtraction => p.clientFiles.foldlM (Model.analyzePage p.clientRoot p.rules) m
  | .resolution => .ok m.resolvePending
  | .synthesis => .ok (m.synthesize p.rules)

/-- The stages that read the files: every server file before any client file. -/
def readingStages : List Stage :=
  [.serverExtraction, .clientExtraction]

/-- The stages after all files are read. -/
def closingStages (p : Project) : List Stage :=
  (if p.resolvePending then [.resolution] else []) ++ [.synthesis]

/-- The stages of the analysis of a project, in order. -/
def stages (p : Project) : List Stage :=
  readingStages ++ p.closingStages

/-- What stages make of a model. -/
def runStages (p : Project) (m : Model) (stages : List Stage) : Except PageError Model :=
  stages.foldlM p.runStage m

/-- The model after all files are read. -/
def extracted (p : Project) : Except PageError Model :=
  p.runStages .empty readingStages

/-- The model of a project. -/
def model (p : Project) : Except PageError Model := do
  p.runStages (← p.extracted) p.closingStages

end Project

/-- What an analysis gives. -/
structure Outcome where
  model : Model
  report : Validation.Report
  diagram : String
  /-- The lines that the analysis writes about itself. -/
  log : List String
  deriving DecidableEq

/-- The line about open questions that were asked again. -/
def resolutionLine (extracted : Model) : String :=
  "[PIPELINE] Resolution pass: " ++ toString extracted.resolvedCount ++ " resolved, " ++
    toString extracted.resolvePending.pending.length ++ " still pending"

/-- The line about the size of a model. -/
def sizeLine (p : Project) (m : Model) : String :=
  "[PIPELINE] " ++ toString p.serverFiles.length ++ " server / " ++
    toString p.clientFiles.length ++ " client files -> " ++ toString m.components.size ++
    " components, " ++ toString m.interactions.length ++ " interactions"

/-- The line about a remark. -/
def diagnosticLine (d : Diagnostic) : String :=
  "[PIPELINE] ⚠️ " ++ d.code ++ ": " ++ d.message

/-- Analyses a project. -/
def analyze (p : Project) : Except PageError Outcome := do
  let extracted ← p.extracted
  let model ← p.runStages extracted p.closingStages
  let report := Validation.validate model
  return {
    model := model
    report := report
    diagram := Diagram.render model
    log :=
      (if p.resolvePending then [resolutionLine extracted] else []) ++
        [sizeLine p model, "[VALIDATOR] " ++ report.summary] ++
        model.diagnostics.map diagnosticLine }

end SystemSketch
