import Mathlib.Data.List.Nodup
import SystemSketch.Diagram.Render
import SystemSketch.Proofs.Diagram.Label
import SystemSketch.Proofs.Diagram.Reading

/-!
# Drawing a model and reading the drawing

The text of a model's drawing is read as the statements that draw the model, line by line. It is
enough that the labels of the components hold no line break: ids are names, and the label of an
edge stands on one line in any case. So the drawing that is read holds the components by
cluster and the interactions in log order, with nothing lost and nothing added.

## Main definitions

* `Model.SingleLine` — no label of a component holds a line break.
* `clustered` — the components, cluster by cluster.
* `body` — the statements behind the directive; `Drawn` lists the forms they can have.

## Main results

* `clustered_perm` — every component stands in exactly one cluster.
* `drawn_of_mem_body` — there are no statements of other forms.
* `read_render` — the text of a drawing is read as its statements.
* `read_render_eq` — what is read, part by part.
-/

namespace SystemSketch

open Text

/-- The label of every component stands on one line. -/
def Model.SingleLine (m : Model) : Prop :=
  ∀ c ∈ m.components.toList, Text.SingleLine c.label.toList

instance (m : Model) : Decidable m.SingleLine :=
  inferInstanceAs (Decidable (∀ c ∈ m.components.toList, Text.SingleLine c.label.toList))

namespace Diagram

/-! ### Components and their ids -/

/-- The components of a cluster. -/
theorem mem_inCluster {m : Model} {cluster : Cluster} {c : Component} :
    c ∈ m.inCluster cluster ↔ c ∈ m.components.toList ∧ c.cluster = cluster := by
  rw [Model.inCluster, List.mem_filter, beq_iff_eq]

section

variable (m : Model)

/-- The ids of a model fulfil the invariant. -/
theorem sound_nodeIds : (nodeIds m).Sound :=
  (NodeIds.sound_reserving _).requestAll m.components.keys

/-- Every id is a name. -/
theorem isName_idOf (identifier : String) : IsName ((nodeIds m).idOf identifier) :=
  (sound_nodeIds m).isName_idOf identifier

/-- No id is a keyword. -/
theorem isKeyword_idOf (identifier : String) :
    isKeyword ((nodeIds m).idOf identifier).toList = false :=
  ((NodeIds.derived_reserving _).requestAll m.components.keys).isKeyword_idOf identifier

/-- **Different components** have different ids. -/
theorem idOf_inj {c d : Component} (hc : c ∈ m.components.toList) (hd : d ∈ m.components.toList)
    (h : (nodeIds m).idOf c.id = (nodeIds m).idOf d.id) : c = d := by
  have hkey : ∀ {e : Component}, e ∈ m.components.toList → e.id ∈ m.components.keys :=
    fun he => List.mem_map_of_mem he
  have hid : c.id = d.id :=
    (NodeIds.sound_reserving (Cluster.all.map Cluster.blockId)).idOf_inj (hkey hc) (hkey hd) h
  exact List.inj_on_of_nodup_map m.components.nodup hc hd hid

/-- The components, cluster by cluster. -/
def clustered : List Component :=
  Cluster.all.flatMap m.inCluster

/-- **Every component stands in exactly one cluster.** -/
theorem clustered_perm : (clustered m).Perm m.components.toList := by
  have hnodup : m.components.toList.Nodup := m.components.nodup.of_map Component.id
  have hclusters : (clustered m).Nodup := by
    rw [clustered, List.nodup_flatMap]
    refine ⟨fun cluster _ => hnodup.filter _, ?_⟩
    have hall : Cluster.all.Nodup := by decide
    refine hall.imp fun hne c hc hd => hne ?_
    exact (mem_inCluster.mp hc).2.symm.trans (mem_inCluster.mp hd).2
  rw [List.perm_ext_iff_of_nodup hclusters hnodup]
  intro c
  rw [clustered, List.mem_flatMap]
  constructor
  · rintro ⟨cluster, -, hc⟩
    exact (mem_inCluster.mp hc).1
  · exact fun hc => ⟨c.cluster, Cluster.mem_all c.cluster, mem_inCluster.mpr ⟨hc, rfl⟩⟩

/-- The ids of the components differ, also cluster by cluster. -/
theorem nodup_clustered_ids : ((clustered m).map fun c => (nodeIds m).idOf c.id).Nodup := by
  have hnodup : (clustered m).Nodup :=
    (clustered_perm m).nodup_iff.mpr (m.components.nodup.of_map Component.id)
  refine hnodup.map_on fun c hc d hd h => ?_
  exact idOf_inj m ((clustered_perm m).subset hc) ((clustered_perm m).subset hd) h

/-! ### The statements behind the directive -/

/-- The blocks of all clusters. -/
def blocks : List Statement :=
  Cluster.all.flatMap (block (nodeIds m) m)

/-- The edges of all interactions that are drawn, and those from the user to the pages. -/
def arrows : List Statement :=
  m.renderable.map (edgeOf (nodeIds m)) ++ navigation (nodeIds m) m

/-- The style classes of all clusters. -/
def stylings : List Statement :=
  Cluster.styleOrder.flatMap (styling (nodeIds m) m)

/-- The statements of a drawing behind the directive. -/
def body : List Statement :=
  blocks m ++ ([.space, .comment "Interactions"] ++ (arrows m ++
    ([.space, .comment "Styles"] ++ (styleDefinitions.map .style ++ ([.space] ++ stylings m)))))

/-- A drawing is its directive and the statements behind it. -/
theorem statements_eq : statements m = .directive directive :: body m := by
  simp only [statements, body, blocks, arrows, stylings, List.append_assoc]
  rfl

end

variable {m : Model}

/-- The statements of a block. -/
theorem mem_block {cluster : Cluster} {s : Statement} (h : s ∈ block (nodeIds m) m cluster) :
    s = .openCluster cluster.blockId cluster.name ∨ s = .closeCluster ∨
      ∃ c ∈ m.inCluster cluster, s = nodeOf (nodeIds m) c := by
  rw [block] at h
  split at h
  · exact absurd h List.not_mem_nil
  · rcases List.mem_cons.mp h with hopen | h
    · exact Or.inl hopen
    · rcases List.mem_append.mp h with hnode | hclose
      · obtain ⟨c, hc, rfl⟩ := List.mem_map.mp hnode
        exact Or.inr (Or.inr ⟨c, hc, rfl⟩)
      · exact Or.inr (Or.inl (List.mem_singleton.mp hclose))

/-- The statements among the arrows are edges. -/
theorem mem_arrows {s : Statement} (h : s ∈ arrows m) :
    ∃ source isAsync label target, Text.SingleLine label.toList ∧
      s = .edge ((nodeIds m).idOf source) isAsync label ((nodeIds m).idOf target) := by
  rcases List.mem_append.mp h with hlog | huser
  · obtain ⟨i, -, rfl⟩ := List.mem_map.mp hlog
    exact ⟨i.source, i.isAsync, _, i.target, singleLine_escapeEdgeLabel i.label, rfl⟩
  · rw [navigation] at huser
    split at huser
    · obtain ⟨page, -, rfl⟩ := List.mem_map.mp huser
      exact ⟨Model.userId, false, navigationLabel, page.id, by decide, rfl⟩
    · exact absurd huser List.not_mem_nil

/-- The statements among the style classes name the nodes of clusters that are not empty. -/
theorem mem_stylings {s : Statement} (h : s ∈ stylings m) :
    ∃ cluster, m.inCluster cluster ≠ [] ∧
      s = .assign ((m.inCluster cluster).map fun c => (nodeIds m).idOf c.id)
        cluster.styleClass := by
  obtain ⟨cluster, -, hs⟩ := List.mem_flatMap.mp h
  rw [styling] at hs
  split at hs
  · exact absurd hs List.not_mem_nil
  · next hne => exact ⟨cluster, hne, List.mem_singleton.mp hs⟩

variable (m) in
/-- The **forms of the statements** behind the directive. -/
inductive Drawn : Statement → Prop where
  | openCluster (cluster : Cluster) : Drawn (.openCluster cluster.blockId cluster.name)
  | closeCluster : Drawn .closeCluster
  | node (c : Component) (hc : c ∈ m.components.toList) : Drawn (nodeOf (nodeIds m) c)
  | edge (source : String) (isAsync : Bool) (label target : String)
      (hlabel : Text.SingleLine label.toList) :
      Drawn (.edge ((nodeIds m).idOf source) isAsync label ((nodeIds m).idOf target))
  | assign (cluster : Cluster) (hne : m.inCluster cluster ≠ []) :
      Drawn (.assign ((m.inCluster cluster).map fun c => (nodeIds m).idOf c.id) cluster.styleClass)
  | style (definition : String) (h : definition ∈ styleDefinitions) : Drawn (.style definition)
  | remark (text : String) (h : text ∈ ["Interactions", "Styles"]) : Drawn (.comment text)
  | space : Drawn .space

/-- **There are no other statements** behind the directive. -/
theorem drawn_of_mem_body {s : Statement} (h : s ∈ body m) : Drawn m s := by
  simp only [body, List.mem_append, List.mem_cons, List.not_mem_nil, or_false] at h
  rcases h with hblock | (rfl | rfl) | harrow | (rfl | rfl) | hstyle | rfl | hstyling
  · obtain ⟨cluster, -, hs⟩ := List.mem_flatMap.mp hblock
    rcases mem_block hs with rfl | rfl | ⟨c, hc, rfl⟩
    · exact .openCluster cluster
    · exact .closeCluster
    · exact .node c (mem_inCluster.mp hc).1
  · exact .space
  · exact .remark _ (by decide)
  · obtain ⟨source, isAsync, label, target, hlabel, rfl⟩ := mem_arrows harrow
    exact .edge source isAsync label target hlabel
  · exact .space
  · exact .remark _ (by decide)
  · obtain ⟨definition, hd, rfl⟩ := List.mem_map.mp hstyle
    exact .style definition hd
  · exact .space
  · obtain ⟨cluster, hne, rfl⟩ := mem_stylings hstyling
    exact .assign cluster hne

/-- The ids of the blocks are names. -/
theorem isName_blockId (cluster : Cluster) : IsName cluster.blockId := by
  cases cluster <;> decide

/-- The style classes are names. -/
theorem isName_styleClass (cluster : Cluster) : IsName cluster.styleClass := by
  cases cluster <;> decide

/-- The look of a style class is read as nothing. -/
theorem ofLine?_of_mem_styleDefinitions :
    ∀ d ∈ styleDefinitions, Statement.ofLine? (trim d.toList) = none := by
  decide +kernel

/-- The look of a style class stands on one line. -/
theorem singleLine_of_mem_styleDefinitions :
    ∀ d ∈ styleDefinitions, Text.SingleLine (Statement.style d).print.toList := by
  decide +kernel

/-- Every statement behind the directive is read back, or says nothing. -/
theorem Drawn.legible_or_silent {s : Statement} (h : Drawn m s) : s.Legible ∨ s.IsSilent := by
  cases h with
  | openCluster cluster => exact Or.inl (isName_blockId cluster)
  | closeCluster => exact Or.inl trivial
  | node c hc => exact Or.inl (isName_idOf m c.id)
  | edge source isAsync label target hlabel =>
    exact Or.inl ⟨isName_idOf m source, isName_idOf m target⟩
  | assign cluster hne =>
    refine Or.inl ⟨fun hnil => hne (List.map_eq_nil_iff.mp hnil), fun id hid => ?_,
      isName_styleClass cluster⟩
    obtain ⟨c, -, rfl⟩ := List.mem_map.mp hid
    exact isName_idOf m c.id
  | style definition hd =>
    exact Or.inr (ofLine?_of_mem_styleDefinitions definition hd)
  | remark text h => exact Or.inr trivial
  | space => exact Or.inr trivial

/-- A statement behind the directive is printed on one line, if it is no node with a label on
several. -/
theorem Drawn.singleLine_of_entry {s : Statement} (h : Drawn m s)
    (hs : ∀ entry ∈ s.nodeEntry?, Text.SingleLine entry.2.toList) :
    Text.SingleLine s.print.toList := by
  cases h with
  | openCluster cluster => cases cluster <;> decide
  | closeCluster => decide
  | node c hc =>
    have hlabel := hs ((nodeIds m).idOf c.id, escapeLabel c.label) rfl
    exact Statement.singleLine_print_node (isName_idOf m c.id) hlabel
  | edge source isAsync label target hlabel =>
    exact Statement.singleLine_print_edge (isName_idOf m source) (isName_idOf m target) hlabel
  | assign cluster hne =>
    refine Statement.singleLine_print_assign (fun id hid => ?_) (isName_styleClass cluster)
    obtain ⟨c, -, rfl⟩ := List.mem_map.mp hid
    exact isName_idOf m c.id
  | style definition hd => exact singleLine_of_mem_styleDefinitions definition hd
  | remark text h =>
    exact (by decide : ∀ t ∈ ["Interactions", "Styles"],
      Text.SingleLine (Statement.comment t).print.toList) text h
  | space => decide

/-- Every statement behind the directive is printed on one line. -/
theorem Drawn.singleLine {s : Statement} (h : Drawn m s) (hm : m.SingleLine) :
    Text.SingleLine s.print.toList := by
  refine h.singleLine_of_entry fun entry hentry => ?_
  cases h with
  | node c hc =>
    obtain rfl := Option.some.inj hentry
    exact singleLine_escapeLabel (hm c hc)
  | openCluster _ | closeCluster | edge _ _ _ _ _ | assign _ _ | style _ _ | remark _ _ | space =>
    cases hentry

/-! ### Reading the drawing -/

/-- The reader behind the directive of a drawing. -/
def opened : Reader :=
  { drawing := { directive := some directive } }

/-- The first line of a drawing is its directive. -/
theorem read_directive :
    ({} : Reader).read 0 (Statement.directive directive).print.toList = opened := by
  decide

/-- The lines of a drawing are its statements, if every label stands on one line. -/
theorem lines_render_of_singleLine (h : m.SingleLine) :
    lines (render m).toList = (statements m).map fun s => s.print.toList := by
  rw [render, String.toList_ofList]
  refine lines_unlines fun line hline => ?_
  rw [statements_eq, List.map_cons, List.mem_cons] at hline
  rcases hline with rfl | hline
  · decide
  · obtain ⟨s, hs, rfl⟩ := List.mem_map.mp hline
    exact (drawn_of_mem_body hs).singleLine h

/-- **The text of a drawing is read as its statements**, if every label stands on one line. -/
theorem read_render (h : m.SingleLine) :
    read (render m) = (opened.declareAll 1 (body m)).drawing := by
  have hbody := Reader.readLines_print (r := opened) rfl 1 fun s (hs : s ∈ body m) =>
    (drawn_of_mem_body hs).legible_or_silent
  rw [read, lines_render_of_singleLine h, statements_eq, List.map_cons, Reader.readLines,
    read_directive, hbody]

/-! ### What the statements add -/

/-- What the statements add to one part of the drawing, if remarks and styles add nothing. -/
theorem filterMap_body {β : Type} {f : Statement → Option β} (hspace : f .space = none)
    (hcomment : ∀ text, f (.comment text) = none) (hstyle : ∀ text, f (.style text) = none) :
    (body m).filterMap f =
      (blocks m).filterMap f ++ ((arrows m).filterMap f ++ (stylings m).filterMap f) := by
  have hremark : ∀ text, [Statement.space, .comment text].filterMap f = [] := by
    intro text
    rw [List.filterMap_cons_none hspace, List.filterMap_cons_none (hcomment text),
      List.filterMap_nil]
  have hstyles : (styleDefinitions.map Statement.style).filterMap f = [] := by
    rw [List.filterMap_eq_nil_iff]
    intro s hs
    obtain ⟨d, -, rfl⟩ := List.mem_map.mp hs
    exact hstyle d
  rw [body, List.filterMap_append, List.filterMap_append, List.filterMap_append,
    List.filterMap_append, List.filterMap_append, List.filterMap_append, hremark, hremark, hstyles,
    List.filterMap_cons_none hspace]
  rfl

/-- The nodes are those of the components, cluster by cluster. -/
theorem filterMap_nodeEntry? :
    (body m).filterMap Statement.nodeEntry? =
      (clustered m).map fun c => ((nodeIds m).idOf c.id, escapeLabel c.label) := by
  have hblock : ∀ cluster, (block (nodeIds m) m cluster).filterMap Statement.nodeEntry? =
      (m.inCluster cluster).map fun c => ((nodeIds m).idOf c.id, escapeLabel c.label) := by
    intro cluster
    rw [block]
    split
    · next hnil => rw [hnil]; rfl
    · rw [List.filterMap_cons_none rfl, List.filterMap_append, List.filterMap_map]
      simp [nodeOf, Statement.nodeEntry?, Function.comp_def, List.filterMap_eq_map']
  have harrows : (arrows m).filterMap Statement.nodeEntry? = [] := by
    rw [List.filterMap_eq_nil_iff]
    intro s hs
    obtain ⟨source, isAsync, label, target, -, rfl⟩ := mem_arrows hs
    rfl
  have hstylings : (stylings m).filterMap Statement.nodeEntry? = [] := by
    rw [List.filterMap_eq_nil_iff]
    intro s hs
    obtain ⟨cluster, -, rfl⟩ := mem_stylings hs
    rfl
  rw [filterMap_body rfl (fun _ => rfl) (fun _ => rfl), harrows, hstylings, blocks,
    List.filterMap_flatMap, clustered, List.map_flatMap, List.append_nil, List.append_nil]
  exact List.flatMap_congr fun cluster _ => hblock cluster

/-- What is read of the statements among the blocks if only nodes are left out. -/
theorem filterMap_blocks {β : Type} {f : Statement → Option β}
    (hopen : ∀ id title, f (.openCluster id title) = none) (hclose : f .closeCluster = none)
    (hnode : ∀ id label, f (.node id label) = none) : (blocks m).filterMap f = [] := by
  rw [List.filterMap_eq_nil_iff]
  intro s hs
  obtain ⟨cluster, -, hs⟩ := List.mem_flatMap.mp hs
  rcases mem_block hs with rfl | rfl | ⟨c, -, rfl⟩
  · exact hopen cluster.blockId cluster.name
  · exact hclose
  · exact hnode _ _

/-- The edges are those of the interactions, in log order, and those from the user. -/
theorem filterMap_edgeEntry? :
    (body m).filterMap Statement.edgeEntry? =
      (m.renderable.map fun i => ((nodeIds m).idOf i.source, (nodeIds m).idOf i.target,
        escapeEdgeLabel i.label, i.isAsync)) ++
      if m.has Model.userId then
        (m.ofKind .clientPage).map fun page => ((nodeIds m).idOf Model.userId,
          (nodeIds m).idOf page.id, navigationLabel, false)
      else [] := by
  have hlog : (m.renderable.map (edgeOf (nodeIds m))).filterMap Statement.edgeEntry? =
      m.renderable.map fun i => ((nodeIds m).idOf i.source, (nodeIds m).idOf i.target,
        escapeEdgeLabel i.label, i.isAsync) := by
    rw [List.filterMap_map]
    exact congrFun List.filterMap_eq_map m.renderable
  have huser : (navigation (nodeIds m) m).filterMap Statement.edgeEntry? =
      if m.has Model.userId then
        (m.ofKind .clientPage).map fun page => ((nodeIds m).idOf Model.userId,
          (nodeIds m).idOf page.id, navigationLabel, false)
      else [] := by
    rw [navigation]
    split
    · rw [List.filterMap_map]
      exact congrFun List.filterMap_eq_map (m.ofKind .clientPage)
    · rfl
  have hstylings : (stylings m).filterMap Statement.edgeEntry? = [] := by
    rw [List.filterMap_eq_nil_iff]
    intro s hs
    obtain ⟨cluster, -, rfl⟩ := mem_stylings hs
    rfl
  rw [filterMap_body rfl (fun _ => rfl) (fun _ => rfl),
    filterMap_blocks (fun _ _ => rfl) rfl (fun _ _ => rfl), hstylings, arrows,
    List.filterMap_append, hlog, huser, List.nil_append, List.append_nil]

/-- The style classes are those of the clusters that are not empty. -/
theorem filterMap_classEntry? :
    (body m).filterMap Statement.classEntry? =
      (Cluster.styleOrder.filter fun cluster => !(m.inCluster cluster).isEmpty).map fun cluster =>
        (cluster.styleClass, (m.inCluster cluster).map fun c => (nodeIds m).idOf c.id) := by
  have harrows : (arrows m).filterMap Statement.classEntry? = [] := by
    rw [List.filterMap_eq_nil_iff]
    intro s hs
    obtain ⟨source, isAsync, label, target, -, rfl⟩ := mem_arrows hs
    rfl
  have hstylings : ∀ order : List Cluster,
      (order.flatMap (styling (nodeIds m) m)).filterMap Statement.classEntry? =
        (order.filter fun cluster => !(m.inCluster cluster).isEmpty).map fun cluster =>
          (cluster.styleClass, (m.inCluster cluster).map fun c => (nodeIds m).idOf c.id) := by
    intro order
    induction order with
    | nil => rfl
    | cons cluster rest ih =>
      rw [List.flatMap_cons, List.filterMap_append, ih, styling]
      split
      · next hnil => rw [List.filter_cons_of_neg (by rw [hnil]; decide)]; rfl
      · next hne =>
        have hkeep : (!(m.inCluster cluster).isEmpty) = true := by
          rw [List.isEmpty_eq_false_iff.mpr hne]
          rfl
        rw [List.filter_cons, if_pos hkeep]
        rfl
  rw [filterMap_body rfl (fun _ => rfl) (fun _ => rfl),
    filterMap_blocks (fun _ _ => rfl) rfl (fun _ _ => rfl), harrows, stylings, hstylings]
  rfl

/-- Statements that declare no node place none. -/
theorem placements_eq_nil {cluster? : Option String} {ss : List Statement}
    (h : ∀ s ∈ ss, s.nodeEntry? = none) : placements cluster? ss = [] := by
  induction ss generalizing cluster? with
  | nil => rfl
  | cons s rest ih =>
    have hs := h s List.mem_cons_self
    have hrest := fun {cluster?} => @ih cluster? fun t ht => h t (List.mem_cons_of_mem s ht)
    cases s with
    | node id label => exact absurd hs (Option.some_ne_none _)
    | directive _ | openCluster _ _ | closeCluster | edge _ _ _ _ | assign _ _ | style _
    | comment _ | space => exact hrest

/-- **A block places its nodes** in its cluster and leaves no cluster open. -/
theorem placements_block (cluster : Cluster) (rest : List Statement) :
    placements none (block (nodeIds m) m cluster ++ rest) =
      ((m.inCluster cluster).map fun c => ((nodeIds m).idOf c.id, [cluster.blockId])) ++
        placements none rest := by
  have hmembers : ∀ members : List Component,
      placements (some cluster.blockId)
          (members.map (nodeOf (nodeIds m)) ++ (.closeCluster :: rest)) =
        (members.map fun c => ((nodeIds m).idOf c.id, [cluster.blockId])) ++
          placements none rest := by
    intro members
    induction members with
    | nil => rfl
    | cons c members ih =>
      rw [List.map_cons, List.cons_append, nodeOf, placements, ih]
      rfl
  rw [block]
  split
  · next hnil => rw [hnil]; rfl
  · rw [List.cons_append, List.append_assoc, placements]
    exact hmembers _

/-- Every component is placed in its cluster. -/
theorem placements_body :
    placements none (body m) =
      (clustered m).map fun c => ((nodeIds m).idOf c.id, [c.cluster.blockId]) := by
  have hblocks : ∀ (clusters : List Cluster) (rest : List Statement),
      placements none (clusters.flatMap (block (nodeIds m) m) ++ rest) =
        ((clusters.flatMap m.inCluster).map fun c =>
          ((nodeIds m).idOf c.id, [c.cluster.blockId])) ++ placements none rest := by
    intro clusters rest
    induction clusters with
    | nil => rfl
    | cons cluster clusters ih =>
      rw [List.flatMap_cons, List.append_assoc, placements_block, ih, List.flatMap_cons,
        List.map_append, List.append_assoc]
      congr 1
      refine List.map_congr_left fun c hc => ?_
      rw [(mem_inCluster.mp hc).2]
  have hrest : placements none ([.space, .comment "Interactions"] ++ (arrows m ++
      ([.space, .comment "Styles"] ++ (styleDefinitions.map .style ++
        ([.space] ++ stylings m))))) = [] := by
    refine placements_eq_nil fun s hs => ?_
    simp only [List.mem_append, List.mem_cons, List.not_mem_nil, or_false] at hs
    rcases hs with (rfl | rfl) | harrow | (rfl | rfl) | hstyle | rfl | hstyling
    · rfl
    · rfl
    · obtain ⟨source, isAsync, label, target, -, rfl⟩ := mem_arrows harrow
      rfl
    · rfl
    · rfl
    · obtain ⟨definition, -, rfl⟩ := List.mem_map.mp hstyle
      rfl
    · rfl
    · obtain ⟨cluster, -, rfl⟩ := mem_stylings hstyling
      rfl
  rw [body, blocks, hblocks, hrest, List.append_nil, clustered]

/-! ### The drawing that is read -/

/-- The nodes that are read are those of the components. -/
theorem nodes_read_render (h : m.SingleLine) :
    (read (render m)).nodes.toList =
      (clustered m).map fun c => ((nodeIds m).idOf c.id, escapeLabel c.label) := by
  rw [read_render h, Reader.nodes_declareAll, filterMap_nodeEntry?]
  refine Table.toList_foldl_set ?_
  rw [List.map_map]
  exact nodup_clustered_ids m

/-- The clusters that are read are those of the components. -/
theorem nodeClusters_read_render (h : m.SingleLine) :
    (read (render m)).nodeClusters.toList =
      (clustered m).map fun c => ((nodeIds m).idOf c.id, [c.cluster.blockId]) := by
  rw [read_render h, Reader.nodeClusters_declareAll]
  have hplacements : placements opened.cluster? (body m) =
      (clustered m).map fun c => ((nodeIds m).idOf c.id, [c.cluster.blockId]) := placements_body
  rw [hplacements]
  refine Table.toList_foldl_extend ?_
  rw [List.map_map]
  exact nodup_clustered_ids m

/-- The style classes that are read are those of the clusters that are not empty. -/
theorem classes_read_render (h : m.SingleLine) :
    (read (render m)).classes.toList =
      (Cluster.styleOrder.filter fun cluster => !(m.inCluster cluster).isEmpty).map fun cluster =>
        (cluster.styleClass, (m.inCluster cluster).map fun c => (nodeIds m).idOf c.id) := by
  rw [read_render h, Reader.classes_declareAll, filterMap_classEntry?]
  refine Table.toList_foldl_extend ?_
  rw [List.map_map]
  have hall : (Cluster.styleOrder.map Cluster.styleClass).Nodup := by decide
  exact hall.sublist (List.filter_sublist.map Cluster.styleClass)

/-- The edges that are read are those of the interactions, and those from the user. -/
theorem edges_read_render (h : m.SingleLine) :
    (read (render m)).edges.map Edge.entry =
      (m.renderable.map fun i => ((nodeIds m).idOf i.source, (nodeIds m).idOf i.target,
        escapeEdgeLabel i.label, i.isAsync)) ++
      if m.has Model.userId then
        (m.ofKind .clientPage).map fun page => ((nodeIds m).idOf Model.userId,
          (nodeIds m).idOf page.id, navigationLabel, false)
      else [] := by
  rw [read_render h, Reader.edges_declareAll, filterMap_edgeEntry?]
  rfl

/-- **Round trip.** The drawing that is read from the text of a model's drawing holds exactly
what the model holds: the directive, one node for each component, cluster by cluster, with its
label, its cluster and its style class, and one edge for each interaction between components, in
log order, with those from the user to the pages behind them. The ids are those that are given
when they are asked for in roster order. -/
theorem read_render_eq (m : Model) (h : m.SingleLine) :
    let nid := fun c : Component => (nodeIds m).idOf c.id
    let d := read (render m)
    (freshIds.requestAll m.components.keys).1 = m.components.toList.map nid ∧
    d.directive = some "graph TD" ∧
    d.nodes.toList =
      (Cluster.all.flatMap fun cluster =>
        (m.inCluster cluster).map fun c => (nid c, escapeLabel c.label)) ∧
    d.nodes.size = m.components.size ∧
    (∀ c ∈ m.components.toList, d.nodeClusters.value? (nid c) = some [c.cluster.blockId]) ∧
    d.classes.toList =
      ((Cluster.styleOrder.filter fun cluster => !(m.inCluster cluster).isEmpty).map
        fun cluster => (cluster.styleClass, (m.inCluster cluster).map nid)) ∧
    (d.edges.map fun e => (e.source, e.target, e.label, e.isAsync)) =
      (m.renderable.map fun i => ((nodeIds m).idOf i.source, (nodeIds m).idOf i.target,
        escapeEdgeLabel i.label, i.isAsync)) ++
      if m.has Model.userId then
        (m.ofKind .clientPage).map fun page =>
          ((nodeIds m).idOf Model.userId, nid page, "navigates to", false)
      else [] := by
  dsimp only
  refine ⟨?_, ?_, ?_, ?_, ?_, classes_read_render h, edges_read_render h⟩
  · rw [NodeIds.requestAll_fst, Keyed.keys, List.map_map]
    rfl
  · exact (congrArg Drawing.directive (read_render h)).trans (Reader.directive_declareAll _ _ _)
  · rw [nodes_read_render h, clustered, List.map_flatMap]
  · rw [Keyed.size, nodes_read_render h, List.length_map, (clustered_perm m).length_eq, Keyed.size]
  · intro c hc
    rw [Table.value?_eq_some_iff, nodeClusters_read_render h, List.mem_map]
    exact ⟨c, (clustered_perm m).mem_iff.mpr hc, rfl⟩

/-- A model with an identifier that is a keyword, two that ask for the same id, and labels that
hold quotes, bars and brackets. -/
def crowded : Model :=
  (((Model.empty.upsert { id := "end", kind := .service, label := "say \"end\"" }).upsert
    { id := "a b", kind := .clientPage, label := "A | B" }).upsert
    { id := "a-b", kind := .controller, label := "[A]" }).addUser.append
    { source := "a b", target := "a-b", label := "x | \"y\"", isAsync := true }

/-- The nodes and the edges that are read from the drawing of `crowded`. -/
theorem read_render_eq_crowded :
    crowded.SingleLine ∧
    (read (render crowded)).nodes.toList = [("User", "👤 User"), ("a_b", "A | B"),
      ("n_end", "say #quot;end#quot;"), ("a_b_2", "[A]")] ∧
    ((read (render crowded)).edges.map fun e => (e.source, e.target, e.label, e.isAsync)) =
      [("a_b", "a_b_2", "x #124; #quot;y#quot;", true),
        ("User", "a_b", "navigates to", false)] := by
  have hline : crowded.SingleLine := by decide
  obtain ⟨-, -, hnodes, -, -, -, hedges⟩ := read_render_eq crowded hline
  exact ⟨hline, hnodes.trans (by decide), hedges.trans (by decide)⟩

end Diagram

end SystemSketch
