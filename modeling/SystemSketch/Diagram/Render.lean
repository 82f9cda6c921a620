import SystemSketch.Diagram.Label
import SystemSketch.Diagram.NodeId
import SystemSketch.Diagram.Statement
import SystemSketch.Model.Basic
import SystemSketch.Text.Line

/-!
# Drawing a model

The drawing of a model depends on nothing but the model: components and interactions appear in
the order in which they were entered. Every component is drawn in the block of its cluster,
every interaction between components is an edge, and the user has an edge to every page.

## Main definitions

* `nodeIds` — the node ids of a model's components, given in roster order.
* `statements` — the statements that draw a model.
* `render` — the text of the drawing.
-/

namespace SystemSketch

namespace Cluster

/-- The id of a cluster's block. -/
def blockId : Cluster → String
  | .user => "cluster_user"
  | .client => "cluster_client"
  | .server => "cluster_server"
  | .database => "cluster_database"

/-- The style class of a cluster's nodes. -/
def styleClass : Cluster → String
  | .user => "user"
  | .client => "client"
  | .server => "server"
  | .database => "db"

/-- The clusters in the order in which their style classes are listed. -/
def styleOrder : List Cluster :=
  [.client, .server, .database, .user]

end Cluster

namespace Diagram

/-- The directive of every drawing. -/
def directive : String := "graph TD"

/-- The label of the edges from the user to the pages. -/
def navigationLabel : String := "navigates to"

/-- The look of the style classes. -/
def styleDefinitions : List String :=
  ["classDef client fill:#233,stroke:#39c,stroke-width:2px,color:#fff",
    "classDef server fill:#333,stroke:#f90,stroke-width:2px,color:#fff",
    "classDef db fill:#444,stroke:#ccc,stroke-width:2px,color:#fff",
    "classDef user fill:#111,stroke:#999,stroke-width:2px,color:#fff"]

/-- The node ids before any component has one: the ids of the blocks are taken. -/
def freshIds : NodeIds :=
  .reserving (Cluster.all.map Cluster.blockId)

/-- The node ids of the components, given in roster order, so that a later component never
changes the id of an earlier one. -/
def nodeIds (m : Model) : NodeIds :=
  (freshIds.requestAll m.components.keys).2

/-- The node of a component. -/
def nodeOf (ids : NodeIds) (c : Component) : Statement :=
  .node (ids.idOf c.id) (escapeLabel c.label)

/-- The block of a cluster; an empty cluster has none. -/
def block (ids : NodeIds) (m : Model) (cluster : Cluster) : List Statement :=
  match m.inCluster cluster with
  | [] => []
  | members =>
    .openCluster cluster.blockId cluster.name :: (members.map (nodeOf ids) ++ [.closeCluster])

/-- The edge of an interaction. -/
def edgeOf (ids : NodeIds) (i : Interaction) : Statement :=
  .edge (ids.idOf i.source) i.isAsync (escapeEdgeLabel i.label) (ids.idOf i.target)

/-- The edges from the user, if there is one, to every page. -/
def navigation (ids : NodeIds) (m : Model) : List Statement :=
  if m.has Model.userId then
    (m.ofKind .clientPage).map fun page =>
      .edge (ids.idOf Model.userId) false navigationLabel (ids.idOf page.id)
  else []

/-- The style class of a cluster's nodes; an empty cluster needs none. -/
def styling (ids : NodeIds) (m : Model) (cluster : Cluster) : List Statement :=
  match m.inCluster cluster with
  | [] => []
  | members => [.assign (members.map fun c => ids.idOf c.id) cluster.styleClass]

/-- The statements that draw a model. -/
def statements (m : Model) : List Statement :=
  let ids := nodeIds m
  [.directive directive] ++ Cluster.all.flatMap (block ids m) ++
    [.space, .comment "Interactions"] ++ m.renderable.map (edgeOf ids) ++ navigation ids m ++
    [.space, .comment "Styles"] ++ styleDefinitions.map .style ++
    [.space] ++ Cluster.styleOrder.flatMap (styling ids m)

/-- The text of a drawing. -/
def render (m : Model) : String :=
  String.ofList (Text.unlines ((statements m).map fun s => s.print.toList))

end Diagram

end SystemSketch
