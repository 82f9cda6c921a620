import SystemSketch.Text.Blank

/-!
# Diagrams in a document

A diagram is handed out in a Markdown document: a heading, if there is a title, and the diagram
in a fence.
-/

namespace SystemSketch.Diagram

/-- The title of a document that is given none. -/
def defaultTitle : String := "Project Architecture Diagram"

/-- A diagram in a fence. Blanks at its end are left out. -/
def fenced (diagram : String) : String :=
  "```mermaid\n" ++ String.ofList (Text.trimEnd diagram.toList) ++ "\n```\n"

/-- The document of a diagram, under a heading if there is a title. -/
def markdown (diagram : String) (title? : Option String) : String :=
  match title? with
  | none => fenced diagram
  | some title => "# " ++ title ++ "\n\n" ++ fenced diagram

end SystemSketch.Diagram
