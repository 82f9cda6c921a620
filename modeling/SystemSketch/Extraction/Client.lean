import SystemSketch.Extraction.Page
import SystemSketch.Extraction.Source
import SystemSketch.Model.Basic
import SystemSketch.Recognition.Client

/-!
# Client files

A client file is a page, and its calls are questions about the model: which controller serves
this route, and which gateway is there? The answers depend on the components that the model
has when the page is taken up.

## Main definitions

* `pageFacts` — the page that a client file is, and the questions that it asks.
* `Model.recordPage` — a model with the facts of a client file.
-/

namespace SystemSketch

open Recognition

/-- What a client file says. -/
structure PageFacts where
  page : Component
  /-- The questions of the page, in source order. -/
  references : List Reference
  deriving DecidableEq

/-- The routes that a text fetches, in source order; an endpoint whose first segment is empty
has none. -/
def fetchedRoutes (rules : Rules) (text : String) : List String :=
  (endpointRoots rules.apiBaseVariable text).filter fun route => !route.isEmpty

/-- The questions that a text asks for the page `page`: one for every fetched route, and one
for the gateway if there is a realtime connection. -/
def pageReferences (rules : Rules) (text page : String) : List Reference :=
  (fetchedRoutes rules text).map (Reference.toController page) ++
    if usesRealtime rules.realtimeHook text then [Reference.toGateway page] else []

/-- What a client file says. -/
def pageFacts (root : PageRoot) (rules : Rules) (file : SourceFile) :
    Except PageError PageFacts := do
  let address ← root.address rules.pageFilenames file.path
  return {
    page := {
      id := pageId address
      kind := .clientPage
      label := pageLabel address
      filePath := file.path }
    references := pageReferences rules file.text (pageId address) }

namespace Model

/-- Takes up the facts of a client file: the page first, then its questions in order. -/
def recordPage (m : Model) (facts : PageFacts) : Model :=
  facts.references.foldl connect (m.upsert facts.page)

/-- Takes up a client file. -/
def analyzePage (root : PageRoot) (rules : Rules) (m : Model) (file : SourceFile) :
    Except PageError Model := do
  let facts ← pageFacts root rules file
  return m.recordPage facts

end Model

end SystemSketch
