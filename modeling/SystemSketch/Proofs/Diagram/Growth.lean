import SystemSketch.Proofs.Diagram.Render
import SystemSketch.Proofs.Model.Drawn

/-!
# Drawings of a growing model

Node ids are given in roster order, and a roster keeps the places of its keys: what is entered later
goes behind them, and what is entered again changes its component only. So the ids that a drawing
shows are those that every later drawing shows, although a component may move to the block of
another cluster, where its node is drawn before or after the others.

## Main results

* `nodeOf_mem_statements`, `edgeOf_mem_statements` — what is drawn of components and interactions.
* `idOf_nodeIds_of_prefix` — a roster that goes on gives the same ids.
* `nodeIds_after` — no operation renames a node.
-/

namespace SystemSketch.Diagram

variable {m m' : Model}

/-! ### What is drawn -/

/-- Every component has its node in the drawing. -/
theorem nodeOf_mem_statements {c : Component} (hc : c ∈ m.components.toList) :
    nodeOf (nodeIds m) c ∈ statements m := by
  have hcluster : c ∈ m.inCluster c.cluster := mem_inCluster.mpr ⟨hc, rfl⟩
  have hblock : nodeOf (nodeIds m) c ∈ block (nodeIds m) m c.cluster := by
    rw [block]
    split
    · next hnil =>
      rw [hnil] at hcluster
      exact absurd hcluster List.not_mem_nil
    · exact List.mem_cons_of_mem _ (List.mem_append_left _ (List.mem_map_of_mem hcluster))
  have hblocks : nodeOf (nodeIds m) c ∈ blocks m :=
    List.mem_flatMap.mpr ⟨c.cluster, Cluster.mem_all c.cluster, hblock⟩
  rw [statements_eq]
  exact List.mem_cons_of_mem _ (List.mem_append_left _ hblocks)

/-- Every interaction between components has its edge in the drawing. -/
theorem edgeOf_mem_statements {i : Interaction} (hi : i ∈ m.renderable) :
    edgeOf (nodeIds m) i ∈ statements m := by
  have harrows : edgeOf (nodeIds m) i ∈ arrows m :=
    List.mem_append_left _ (List.mem_map_of_mem hi)
  rw [statements_eq]
  refine List.mem_cons_of_mem _ (List.mem_append_right _ (List.mem_append_right _ ?_))
  exact List.mem_append_left _ harrows

/-! ### Later drawings -/

/-- **A roster that goes on** gives the same ids to the components that it began with. -/
theorem idOf_nodeIds_of_prefix (h : m.components.keys <+: m'.components.keys) {id : String}
    (hid : m.has id = true) : (nodeIds m').idOf id = (nodeIds m).idOf id :=
  freshIds.idOf_requestAll_of_prefix h (Keyed.contains_iff.mp hid)

/-- An interaction that is drawn stays drawn while the roster and the log go on. -/
theorem mem_renderable_of_prefixes (hkeys : m.components.keys <+: m'.components.keys)
    (hlog : m.interactions <+: m'.interactions) {i : Interaction} (hi : i ∈ m.renderable) :
    i ∈ m'.renderable :=
  (Model.renderable_sublist hkeys.subset hlog).subset hi

/-- **Growing a model never renames a node.** When further operations are performed on a model that
operations have built, every component keeps its node id: its node is drawn under this id before
and after them, also if its component was entered again, and every edge that is drawn before them
is drawn between the same nodes after them. -/
theorem nodeIds_after (operations more : List Operation) :
    let m := Model.empty.after operations
    let m' := m.after more
    (∀ id, m.has id = true → (nodeIds m').idOf id = (nodeIds m).idOf id) ∧
      (∀ c ∈ m.components.toList, ∃ c' ∈ m'.components.toList, c'.id = c.id ∧
        .node ((nodeIds m).idOf c.id) (escapeLabel c.label) ∈ statements m ∧
        .node ((nodeIds m).idOf c.id) (escapeLabel c'.label) ∈ statements m') ∧
      ∀ i ∈ m.renderable, edgeOf (nodeIds m) i ∈ statements m ∧
        edgeOf (nodeIds m) i ∈ statements m' := by
  intro m m'
  have hkeys : m.components.keys <+: m'.components.keys :=
    (Model.records_after operations).keys_prefix_after more
  have hids : ∀ id, m.has id = true → (nodeIds m').idOf id = (nodeIds m).idOf id :=
    fun _ hid => idOf_nodeIds_of_prefix hkeys hid
  refine ⟨hids, fun c hc => ?_, fun i hi => ⟨edgeOf_mem_statements hi, ?_⟩⟩
  · have hkey : c.id ∈ m.components.keys := List.mem_map_of_mem hc
    obtain ⟨c', hc', hid⟩ := List.mem_map.mp (hkeys.subset hkey)
    refine ⟨c', hc', hid, nodeOf_mem_statements hc, ?_⟩
    have hnode := nodeOf_mem_statements hc'
    rw [nodeOf, hid, hids c.id (Keyed.contains_iff.mpr hkey)] at hnode
    exact hnode
  · have hlog : m.interactions <+: m'.interactions := (m.extends_after more).interactions
    have hedge := edgeOf_mem_statements (mem_renderable_of_prefixes hkeys hlog hi)
    have hdraws := (List.mem_filter.mp hi).2
    rw [Model.draws, Bool.and_eq_true] at hdraws
    rw [edgeOf, hids i.source hdraws.1, hids i.target hdraws.2] at hedge
    exact hedge

/-- A service, a page and an arrow between them. Both ask for the same node id. -/
def lobby : List Operation :=
  [.upsert { id := "A", kind := .service, label := "A" },
    .upsert { id := "A!", kind := .clientPage, label := "/a" },
    .append { source := "A!", target := "A", label := "GET" }]

/-- The service is entered again as a page, and a third component asks for their id, whose node is
drawn before theirs. -/
def extension : List Operation :=
  [.upsert { id := "A?", kind := .user, label := "A" },
    .upsert { id := "A", kind := .clientPage, label := "/b" }]

/-- The lobby keeps its nodes when it is extended. -/
theorem nodeIds_after_lobby :
    let m := Model.empty.after lobby
    let m' := m.after extension
    (nodeIds m).idOf "A" = "A" ∧ (nodeIds m).idOf "A!" = "A_2" ∧
      (nodeIds m').idOf "A" = (nodeIds m).idOf "A" ∧
      (nodeIds m').idOf "A!" = (nodeIds m).idOf "A!" ∧
      (∃ c' ∈ m'.components.toList, c'.id = "A" ∧
        .node ((nodeIds m).idOf "A") (escapeLabel "A") ∈ statements m ∧
        .node ((nodeIds m).idOf "A") (escapeLabel c'.label) ∈ statements m') ∧
      .edge "A_2" false "GET" "A" ∈ statements m' := by
  intro m m'
  obtain ⟨hids, hnodes, hedges⟩ := nodeIds_after lobby extension
  have hservice : (nodeIds m).idOf "A" = "A" := by decide +kernel
  have hpage : (nodeIds m).idOf "A!" = "A_2" := by decide +kernel
  have hedge := (hedges { source := "A!", target := "A", label := "GET" } (by decide +kernel)).2
  have hprint : edgeOf (nodeIds m) { source := "A!", target := "A", label := "GET" } =
      .edge "A_2" false "GET" "A" := by decide +kernel
  refine ⟨hservice, hpage, hids "A" (by decide +kernel), hids "A!" (by decide +kernel),
    hnodes { id := "A", kind := .service, label := "A" } (by decide +kernel), ?_⟩
  exact hprint ▸ hedge

end SystemSketch.Diagram
