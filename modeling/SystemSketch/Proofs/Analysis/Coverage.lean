import Mathlib.Data.List.Flatten
import SystemSketch.Proofs.Analysis.Facts
import SystemSketch.Proofs.Diagram.Broken

/-!
# Which components are drawn

The drawing of an analysis declares a node for every component whose label stands on one line,
and for no other. A label takes up what is written in a file for the routes of controllers, and
the path of the file for pages, so only these two can be lost; the names of classes hold no line
break. If none is lost, every node stands in exactly one cluster and in exactly one style class.

## Main results

* `singleLine_of_serverFacts`, `Project.kind_of_not_singleLine` — whose labels can hold a break.
* `Diagram.count_classes_read_render` — every node has one style class.
* `analyze_declares` — which nodes the drawing of an analysis declares.
-/

namespace SystemSketch

/-! ### Labels -/

/-- The name of a class stands on one line. -/
theorem IsClassName.singleLine {name : String} (h : IsClassName name) :
    Text.SingleLine name.toList := by
  intro c hc
  rw [Bool.eq_false_iff]
  intro hbreak
  have hword := h c hc
  rw [Text.isWord_eq_false_of_isLineBreak hbreak] at hword
  exact Bool.noConfusion hword

/-- **The label of a class** stands on one line, if the class is no controller. -/
theorem singleLine_of_serverFacts {rules : Rules} {file : SourceFile} {c : Component}
    (h : (serverFacts rules Recognition.markers file).component? = some c)
    (hkind : c.kind ≠ .controller) : Text.SingleLine c.label.toList := by
  obtain ⟨name, hname, marker, hmarker, capture, rfl⟩ := exists_of_component?_serverFacts h
  have hclass := (isClassName_of_exportedName? hname).singleLine
  simp only [Recognition.markers, List.mem_cons, List.not_mem_nil, or_false] at hmarker
  rcases hmarker with rfl | rfl | rfl
  · exact absurd rfl hkind
  · exact hclass
  · have hending : Text.SingleLine "<br><small>WebSocket</small>".toList := by decide
    simpa [Recognition.Marker.gateway, Recognition.gatewayLabel] using hclass.append hending

/-- **Only controllers and pages** can have a label that holds a line break. -/
theorem Project.kind_of_not_singleLine {p : Project} {o : Outcome} (h : analyze p = .ok o)
    {c : Component} (hc : c ∈ o.model.components.toList)
    (hbroken : ¬Text.SingleLine c.label.toList) : c.kind = .controller ∨ c.kind = .clientPage := by
  rcases mem_model_cases h hc with hdeclared | ⟨facts, hfacts, rfl⟩ | hactor
  · obtain ⟨file, -, hfile⟩ := exists_of_mem_declarations hdeclared
    refine Or.inl ?_
    by_contra hkind
    exact hbroken (singleLine_of_serverFacts hfile hkind)
  · exact Or.inr (isPage_of_mem_pages hfacts).1
  · have hactors : ∀ actor ∈ [Model.userActor, Model.databaseActor],
        Text.SingleLine actor.label.toList := by decide
    exact absurd (hactors c (List.mem_pair.mpr hactor)) hbroken

/-! ### Nodes and their style classes -/

/-- **Every node has one style class**, if every label stands on one line. -/
theorem Diagram.count_classes_read_render {m : Model} (hline : m.SingleLine) {c : Component}
    (hc : c ∈ m.components.toList) :
    ((read (render m)).classes.toList.flatMap Prod.snd).count ((nodeIds m).idOf c.id) = 1 := by
  have hassigned : (read (render m)).classes.toList.flatMap Prod.snd =
      (Cluster.styleOrder.filter fun cluster => !(m.inCluster cluster).isEmpty).flatMap
        fun cluster => (m.inCluster cluster).map fun c => (nodeIds m).idOf c.id := by
    rw [classes_read_render hline, List.flatMap_map]
  have hnodup : (Cluster.styleOrder.flatMap
      fun cluster => (m.inCluster cluster).map fun c => (nodeIds m).idOf c.id).Nodup := by
    have hids := nodup_clustered_ids m
    rw [clustered, List.map_flatMap] at hids
    have horder : Cluster.styleOrder.Perm Cluster.all := by decide
    exact (horder.flatMap_right _).nodup_iff.mpr hids
  rw [hassigned]
  refine List.count_eq_one_of_mem (hnodup.sublist (List.filter_sublist.flatMap _)) ?_
  have hmember : c ∈ m.inCluster c.cluster := mem_inCluster.mpr ⟨hc, rfl⟩
  have hcluster : c.cluster ∈
      Cluster.styleOrder.filter fun cluster => !(m.inCluster cluster).isEmpty := by
    have hall : ∀ cluster, cluster ∈ Cluster.styleOrder := by
      intro cluster
      cases cluster <;> decide
    rw [List.mem_filter, List.isEmpty_eq_false_iff.mpr (List.ne_nil_of_mem hmember)]
    exact ⟨hall c.cluster, rfl⟩
  exact List.mem_flatMap.mpr ⟨c.cluster, hcluster, List.mem_map_of_mem hmember⟩

/-! ### The drawing of an analysis -/

/-- **Which components are drawn.** The nodes that the drawing of an analysis declares are those
of the components whose labels stand on one line, each once, so that there are as many nodes as
components exactly if every label does; a label that does not is the label of a controller or a
page. If every label stands on one line, every declared node is that of a component, stands in
one cluster and in no other, and is named by the style classes once. -/
theorem analyze_declares {p : Project} {o : Outcome} (h : analyze p = .ok o) :
    let d := Diagram.read o.diagram
    let nid := fun c : Component => (Diagram.nodeIds o.model).idOf c.id
    d.nodes.toList.Perm
      ((o.model.components.toList.filter fun c => decide (Text.SingleLine c.label.toList)).map
        fun c => (nid c, Diagram.escapeLabel c.label)) ∧
    (d.nodes.size = o.model.components.size ↔ o.model.SingleLine) ∧
    (∀ c ∈ o.model.components.toList, ¬Text.SingleLine c.label.toList →
      c.kind = .controller ∨ c.kind = .clientPage) ∧
    (o.model.SingleLine → ∀ id ∈ d.nodes.keys, ∃ c ∈ o.model.components.toList,
      id = nid c ∧ d.nodeClusters.value? id = some [c.cluster.blockId] ∧
        (d.classes.toList.flatMap Prod.snd).count id = 1) := by
  have hkinds := fun c hc => Project.kind_of_not_singleLine h (c := c) hc
  rw [Project.diagram_eq h]
  generalize o.model = m at hkinds
  refine ⟨?_, Diagram.size_nodes_eq_iff m, hkinds, fun hline id hid => ?_⟩
  · rw [Diagram.nodes_read_render_of_any]
    exact ((Diagram.clustered_perm m).filter _).map _
  · rw [Keyed.keys, Diagram.nodes_read_render hline, List.map_map] at hid
    obtain ⟨c, hc, rfl⟩ := List.mem_map.mp hid
    have hmem := (Diagram.clustered_perm m).subset hc
    obtain ⟨-, -, -, -, hclusters, -, -⟩ := Diagram.read_render_eq m hline
    exact ⟨c, hmem, rfl, hclusters c hmem, Diagram.count_classes_read_render hline hmem⟩

/-- A project with a controller whose route holds a line break, and a page. -/
def annex : Project where
  serverFiles :=
    [⟨"server/src/orders.controller.ts",
      "@Controller('orders\nv2')\nexport class OrdersController {}"⟩]
  clientFiles := [⟨"client/app/page.tsx", ""⟩]
  clientRoot := ⟨["work", "project"], "client/app"⟩

/-- The annex is drawn without its controller, and without its server files it is drawn whole. -/
theorem analyze_declares_annex :
    ∃ o o', analyze annex = .ok o ∧ ¬o.model.SingleLine ∧
      (Diagram.read o.diagram).nodes.size ≠ o.model.components.size ∧
      analyze { annex with serverFiles := [] } = .ok o' ∧ o'.model.SingleLine ∧
      (Diagram.read o'.diagram).nodes.size = o'.model.components.size ∧
      ∀ id ∈ (Diagram.read o'.diagram).nodes.keys,
        ((Diagram.read o'.diagram).classes.toList.flatMap Prod.snd).count id = 1 := by
  have hbroken : (analyze annex).map (fun o => decide o.model.SingleLine) = .ok false := by
    decide +kernel
  have hwhole : (analyze { annex with serverFiles := [] }).map
      (fun o => decide o.model.SingleLine) = .ok true := by decide +kernel
  obtain ⟨o, h⟩ := annex.exists_analyze_iff.mpr (by decide)
  obtain ⟨o', h'⟩ := ({ annex with serverFiles := [] } : Project).exists_analyze_iff.mpr (by decide)
  rw [h] at hbroken
  rw [h'] at hwhole
  have hnot : ¬o.model.SingleLine := of_decide_eq_false (Except.ok.inj hbroken)
  have hline : o'.model.SingleLine := of_decide_eq_true (Except.ok.inj hwhole)
  obtain ⟨-, hsize, -, -⟩ := analyze_declares h
  obtain ⟨-, hsize', -, hnodes⟩ := analyze_declares h'
  refine ⟨o, o', h, hnot, mt hsize.mp hnot, h', hline, hsize'.mpr hline, fun id hid => ?_⟩
  obtain ⟨c, -, -, -, hcount⟩ := hnodes hline id hid
  exact hcount

/-- The drawing of the annex declares three nodes for four components: the route breaks the
statement of the controller. -/
theorem annex_undrawn :
    ∃ o, analyze annex = .ok o ∧ o.model.components.size = 4 ∧
      (Diagram.read o.diagram).nodes.keys = ["User", "Page", "Database"] := by
  have hfacts : (analyze annex).map (fun o => (o.model.components.size,
      ((Diagram.clustered o.model).filter fun c => decide (Text.SingleLine c.label.toList)).map
        fun c => (Diagram.nodeIds o.model).idOf c.id)) = .ok (4, ["User", "Page", "Database"]) := by
    decide +kernel
  obtain ⟨o, h⟩ := annex.exists_analyze_iff.mpr (by decide)
  rw [h] at hfacts
  obtain ⟨hsize, hids⟩ := Prod.mk.inj (Except.ok.inj hfacts)
  refine ⟨o, h, hsize, ?_⟩
  rw [Project.diagram_eq h, Keyed.keys, Diagram.nodes_read_render_of_any, List.map_map]
  exact hids

end SystemSketch
