import SystemSketch.Diagram.NodeId
import SystemSketch.Exchange.Datum
import SystemSketch.Extraction.Source
import SystemSketch.Model.Basic

/-!
# The objects of the library as data

What the library computes is handed out as objects whose attributes bear the names that
interfaces use. In lists of components the cluster of each one is added.
-/

namespace SystemSketch.Datum

/-- A component. -/
def ofComponent (c : Component) : Datum :=
  object [("id", text c.id), ("kind", kind c.kind), ("label", text c.label),
    ("file_path", text c.filePath)]

/-- An interaction. -/
def ofInteraction (i : Interaction) : Datum :=
  object [("source", text i.source), ("target", text i.target), ("label", text i.label),
    ("is_async", bool i.isAsync)]

/-- A reference. -/
def ofReference (r : Reference) : Datum :=
  object [("source", text r.source), ("kind", kind r.kind), ("route", optional r.route),
    ("is_async", bool r.isAsync)]

/-- A remark about a model. -/
def ofDiagnostic (d : Diagnostic) : Datum :=
  object [("level", text d.level), ("code", text d.code), ("message", text d.message),
    ("object_id", text d.objectId)]

/-- A source file. -/
def ofSource (file : SourceFile) : Datum :=
  object [("path", text file.path), ("text", text file.text)]

/-- Rules. -/
def ofRules (rules : Rules) : Datum :=
  object [
    ("persistence_service", text rules.persistenceService),
    ("api_base_variable", text rules.apiBaseVariable),
    ("realtime_hook", text rules.realtimeHook),
    ("page_filenames", texts rules.pageFilenames),
    ("source_extensions", texts rules.sourceExtensions),
    ("ignore_dirs", texts rules.ignoreDirs),
    ("ignore_files", texts rules.ignoreFiles)]

/-- The node ids given so far. All of it is kept to the object. -/
def ofNodeIds (ids : Diagram.NodeIds) : Datum :=
  object [
    ("_map", dict (ids.assigned.toList.map fun (identifier, id) => (identifier, text id))),
    ("_used", texts ids.used)]

/-- A model. Its components are entered under their identifiers. -/
def ofModel (m : Model) : Datum :=
  object [
    ("components", dict (m.components.toList.map fun c => (c.id, ofComponent c))),
    ("interactions", list (m.interactions.map ofInteraction)),
    ("pending", list (m.pending.map ofReference)),
    ("diagnostics", list (m.diagnostics.map ofDiagnostic))]

end SystemSketch.Datum

namespace SystemSketch

/-- A component in a list of components, with its cluster. -/
def Component.toJson (c : Component) : Json :=
  match (Datum.ofComponent c).toJson with
  | .object members => .object (members ++ [("cluster", .text c.cluster.name)])
  | json => json

/-- A model with its components in a list. -/
def Model.toJson (m : Model) : Json :=
  .object [
    ("components", .list (m.components.toList.map Component.toJson)),
    ("interactions", .list (m.interactions.map fun i => (Datum.ofInteraction i).toJson)),
    ("pending", .list (m.pending.map fun r => (Datum.ofReference r).toJson)),
    ("diagnostics", .list (m.diagnostics.map fun d => (Datum.ofDiagnostic d).toJson))]

end SystemSketch
