import SystemSketch.Proofs.Analysis.Facts
import SystemSketch.Proofs.Diagram.Render

/-!
# The report and the drawing

Validation looks at the model alone, and what a drawing shows is read from its text alone. The
two agree: what the report counts is what is drawn, and an issue is reported exactly if the
drawing shows its cause. The edges from the user to the pages stand in the drawing only; they
touch no class, end at no database, and are no loops, because user, pages, database and classes
are of different kinds.

## Main definitions

* `Validation.families` — the issues of a model by their codes.
* `Model.HasActors` — the user and the database are there, each of its own kind.

## Main results

* `Validation.filter_code` — the issues of a code are one family.
* `Diagram.ends_read_render` — the ends of the edges that are read from a drawing.
* `Diagram.exists_touching_iff`, `Diagram.exists_ending_iff`, `Diagram.countP_loop` — what these
  ends show.
* `analyze_report_agrees` — the report of an analysis agrees with its drawing.
-/

namespace SystemSketch

/-! ### Issues by their codes -/

namespace Validation

variable (m : Model)

/-- The issues of a model by their codes. -/
def families : List (String × List Issue) :=
  [("MISSING_ACTOR", missingActors m), ("IDENTIFIER_COLLISION", collisions m),
    ("DANGLING_INTERACTION", danglingInteractions m), ("SELF_LOOP", selfLoops m),
    ("DUPLICATE_EDGE", duplicateEdges m), ("ORPHANED_COMPONENT", orphans m),
    ("CIRCULAR_DEPENDENCY", circularDependencies m), ("DATABASE_NO_INCOMING", unusedDatabase m)]

/-- The issues are those of all families. -/
theorem issues_eq_flatMap_families : issues m = (families m).flatMap Prod.snd := by
  simp [issues, families]

/-- Every issue of a family has the code of the family. -/
theorem code_of_mem_families {family : String × List Issue} (hfamily : family ∈ families m)
    {issue : Issue} (h : issue ∈ family.2) : issue.code = family.1 := by
  simp only [families, List.mem_cons, List.not_mem_nil, or_false] at hfamily
  rcases hfamily with rfl | rfl | rfl | rfl | rfl | rfl | rfl | rfl
  case inr.inr.inr.inr.inr.inr.inr =>
    rw [unusedDatabase] at h
    split at h
    · obtain rfl := List.mem_singleton.mp h
      rfl
    · exact absurd h List.not_mem_nil
  all_goals
    obtain ⟨cause, -, rfl⟩ := List.mem_map.mp h
    rfl

/-- Of families with different codes, the issues of a code are those of its own family. -/
theorem filter_flatMap_of_code {fs : List (String × List Issue)}
    (hcodes : (fs.map Prod.fst).Nodup) (hcode : ∀ f ∈ fs, ∀ issue ∈ f.2, issue.code = f.1)
    {code : String} {family : List Issue} (h : (code, family) ∈ fs) :
    (fs.flatMap Prod.snd).filter (fun issue => issue.code == code) = family := by
  induction fs with
  | nil => exact absurd h List.not_mem_nil
  | cons f rest ih =>
    obtain ⟨hf, hrest⟩ := List.forall_mem_cons.mp hcode
    rw [List.map_cons, List.nodup_cons] at hcodes
    rw [List.flatMap_cons, List.filter_append]
    rcases List.mem_cons.mp h with rfl | hmem
    · have hself : family.filter (fun issue => issue.code == code) = family :=
        List.filter_eq_self.mpr fun issue hissue => beq_iff_eq.mpr (hf issue hissue)
      have hothers : (rest.flatMap Prod.snd).filter (fun issue => issue.code == code) = [] := by
        rw [List.filter_eq_nil_iff]
        intro issue hissue heq
        obtain ⟨g, hg, hissue⟩ := List.mem_flatMap.mp hissue
        have hsame : g.1 = code := (hrest g hg issue hissue).symm.trans (beq_iff_eq.mp heq)
        exact hcodes.1 (List.mem_map.mpr ⟨g, hg, hsame⟩)
      rw [hself, hothers, List.append_nil]
    · have hnone : f.2.filter (fun issue => issue.code == code) = [] := by
        rw [List.filter_eq_nil_iff]
        intro issue hissue heq
        have hsame : f.1 = code := (hf issue hissue).symm.trans (beq_iff_eq.mp heq)
        exact hcodes.1 (List.mem_map.mpr ⟨(code, family), hmem, hsame.symm⟩)
      rw [hnone, List.nil_append, ih hcodes.2 hrest hmem]

/-- **The issues of a code** are those of the one family with this code. -/
theorem filter_code (code : String) (family : List Issue) (h : (code, family) ∈ families m) :
    (issues m).filter (fun issue => issue.code == code) = family := by
  have hcodes : ((families m).map Prod.fst).Nodup := by simp [families]
  rw [issues_eq_flatMap_families]
  exact filter_flatMap_of_code hcodes (fun _ hf _ hissue => code_of_mem_families m hf hissue) h

/-- How many self-loops are reported. -/
theorem countP_selfLoop :
    (issues m).countP (fun issue => issue.code == "SELF_LOOP") =
      m.renderable.countP fun i => i.source == i.target := by
  rw [List.countP_eq_length_filter, filter_code m _ (selfLoops m) (by simp [families]),
    selfLoops, List.length_map, List.countP_eq_length_filter]

/-- When the database is reported. -/
theorem exists_unusedDatabase_iff (h : m.has Model.databaseId = true) :
    (∃ issue ∈ issues m, issue.code = "DATABASE_NO_INCOMING") ↔
      ∀ i ∈ m.renderable, i.target ≠ Model.databaseId := by
  have hfamily := filter_code m "DATABASE_NO_INCOMING" (unusedDatabase m) (by simp [families])
  have hsome : (∃ issue ∈ issues m, issue.code = "DATABASE_NO_INCOMING") ↔
      unusedDatabase m ≠ [] := by
    rw [← hfamily, ne_eq, List.filter_eq_nil_iff]
    simp
  rw [hsome, unusedDatabase, h, Bool.true_and]
  cases hreached : m.renderable.any fun i => i.target == Model.databaseId with
  | true =>
    obtain ⟨i, hi, htarget⟩ := List.any_eq_true.mp hreached
    exact iff_of_false (by simp) fun hall => hall i hi (beq_iff_eq.mp htarget)
  | false =>
    refine iff_of_true (by simp) fun i hi htarget => ?_
    exact List.any_eq_false.mp hreached i hi (beq_iff_eq.mpr htarget)

/-- **A component is reported** as an orphan once or not at all. -/
theorem filter_orphan {c : Component} (hc : c ∈ m.components.toList) :
    ((issues m).filter fun issue =>
        issue.code == "ORPHANED_COMPONENT" && issue.nodeId? == some c.id) =
      if needsConnection c && !m.renderable.any (touches c.id) then [.orphan c] else [] := by
  have hfamily := filter_code m "ORPHANED_COMPONENT" (orphans m) (by simp [families])
  calc ((issues m).filter fun issue =>
          issue.code == "ORPHANED_COMPONENT" && issue.nodeId? == some c.id)
      = (orphans m).filter fun issue => issue.nodeId? == some c.id := by
        rw [← hfamily, List.filter_filter]
        simp only [Bool.and_comm]
    _ = ((m.components.toList.filter fun d => d.id == c.id).filter fun d =>
          needsConnection d && !m.renderable.any (touches d.id)).map .orphan := by
        rw [orphans, List.filter_map, List.filter_filter, List.filter_filter]
        simp only [Function.comp_def, Issue.nodeId?, Option.some_beq_some, Bool.and_comm]
    _ = if needsConnection c && !m.renderable.any (touches c.id) then [.orphan c] else [] := by
        rw [Keyed.filter_key hc, List.filter_singleton]
        cases needsConnection c && !m.renderable.any (touches c.id) <;> rfl

end Validation

/-! ### Components by identifier and kind -/

namespace Model

/-- The user and the database are there, each of its own kind. -/
structure HasActors (m : Model) : Prop where
  user : m.get? userId = some userActor
  database : m.get? databaseId = some databaseActor

/-- Synthesis adds both actors. -/
theorem hasActors_synthesize (rules : Rules) (m : Model) : (m.synthesize rules).HasActors :=
  ⟨get?_userId_synthesize rules m, get?_databaseId_synthesize rules m⟩

variable {m : Model}

/-- A component is known by its identifier. -/
theorem has_of_mem {c : Component} (hc : c ∈ m.components.toList) : m.has c.id = true :=
  Keyed.contains_iff.mpr (List.mem_map_of_mem hc)

/-- A component that is found is known. -/
theorem has_of_get? {id : String} {c : Component} (h : m.get? id = some c) : m.has id = true := by
  obtain ⟨hc, rfl⟩ := Keyed.get?_eq_some_iff.mp h
  exact has_of_mem hc

/-- The ends of an interaction that is drawn are known. -/
theorem has_of_mem_renderable {i : Interaction} (h : i ∈ m.renderable) :
    m.has i.source = true ∧ m.has i.target = true :=
  Bool.and_eq_true_iff.mp (List.mem_filter.mp h).2

/-- The components of a kind. -/
theorem mem_ofKind {kind : Kind} {c : Component} :
    c ∈ m.ofKind kind ↔ c ∈ m.components.toList ∧ c.kind = kind := by
  rw [ofKind, List.mem_filter, beq_iff_eq]

/-- A component of another kind is not the one that is found. -/
theorem ne_of_get?_of_kind {id : String} {c d : Component} (h : m.get? id = some c)
    (hd : d ∈ m.components.toList) (hkind : d.kind ≠ c.kind) : d.id ≠ id := by
  rintro rfl
  have hself : m.get? d.id = some d := Keyed.get?_eq_some_iff.mpr ⟨hd, rfl⟩
  rw [h, Option.some.injEq] at hself
  exact hkind (congrArg Component.kind hself.symm)

end Model

/-! ### What the edges of a drawing show -/

namespace Diagram

variable {m : Model}

/-- Identifiers of components have the same id only if they are the same. -/
theorem idOf_eq_iff {x y : String} (hx : m.has x = true) (hy : m.has y = true) :
    (nodeIds m).idOf x = (nodeIds m).idOf y ↔ x = y := by
  refine ⟨fun h => ?_, congrArg _⟩
  exact (NodeIds.sound_reserving _).idOf_inj (Keyed.contains_iff.mp hx) (Keyed.contains_iff.mp hy) h

/-- **The ends of the edges** that are read: those of the interactions that are drawn, and those
of the arrows from the user to the pages. -/
theorem ends_read_render (hline : m.SingleLine) (hactors : m.HasActors) :
    ((read (render m)).edges.map fun e => (e.source, e.target)) =
      (m.renderable.map fun i => ((nodeIds m).idOf i.source, (nodeIds m).idOf i.target)) ++
        (m.ofKind .clientPage).map fun page =>
          ((nodeIds m).idOf Model.userId, (nodeIds m).idOf page.id) := by
  have hedges := congrArg (List.map fun e => (e.1, e.2.1)) (edges_read_render hline)
  rw [if_pos (Model.has_of_get? hactors.user), List.map_append, List.map_map, List.map_map,
    List.map_map] at hedges
  exact hedges

/-- How many edges are read. -/
theorem length_edges_read_render (hline : m.SingleLine) (hactors : m.HasActors) :
    (read (render m)).edges.length = m.renderable.length + (m.ofKind .clientPage).length := by
  have hends := congrArg List.length (ends_read_render hline hactors)
  simpa using hends

/-- The edges that are read are of two sorts. -/
theorem exists_edge_iff (hline : m.SingleLine) (hactors : m.HasActors)
    (shows : String → String → Prop) :
    (∃ e ∈ (read (render m)).edges, shows e.source e.target) ↔
      (∃ i ∈ m.renderable, shows ((nodeIds m).idOf i.source) ((nodeIds m).idOf i.target)) ∨
        ∃ page ∈ m.ofKind .clientPage,
          shows ((nodeIds m).idOf Model.userId) ((nodeIds m).idOf page.id) := by
  have hpairs : (∃ e ∈ (read (render m)).edges, shows e.source e.target) ↔
      ∃ ends ∈ (read (render m)).edges.map fun e => (e.source, e.target),
        shows ends.1 ends.2 := by
    simp
  rw [hpairs, ends_read_render hline hactors]
  simp only [List.mem_append, List.mem_map, or_and_right, exists_or, exists_exists_and_eq_and]

/-- **The edges that touch a node**: for a class, the interactions that touch it. -/
theorem exists_touching_iff (hline : m.SingleLine) (hactors : m.HasActors) {c : Component}
    (hc : c ∈ m.components.toList) (huser : c.kind ≠ .user) (hpage : c.kind ≠ .clientPage) :
    (∃ e ∈ (read (render m)).edges,
        e.source = (nodeIds m).idOf c.id ∨ e.target = (nodeIds m).idOf c.id) ↔
      m.renderable.any (Validation.touches c.id) = true := by
  have hnavigation : ¬∃ page ∈ m.ofKind .clientPage,
      (nodeIds m).idOf Model.userId = (nodeIds m).idOf c.id ∨
        (nodeIds m).idOf page.id = (nodeIds m).idOf c.id := by
    rintro ⟨page, hmem, hself | hself⟩
    · rw [idOf_eq_iff (Model.has_of_get? hactors.user) (Model.has_of_mem hc)] at hself
      exact Model.ne_of_get?_of_kind hactors.user hc huser hself.symm
    · obtain rfl := idOf_inj m (Model.mem_ofKind.mp hmem).1 hc hself
      exact hpage (Model.mem_ofKind.mp hmem).2
  rw [exists_edge_iff hline hactors fun source target =>
      source = (nodeIds m).idOf c.id ∨ target = (nodeIds m).idOf c.id,
    or_iff_left hnavigation, List.any_eq_true]
  refine exists_congr fun i => and_congr_right fun hi => ?_
  obtain ⟨hsource, htarget⟩ := Model.has_of_mem_renderable hi
  rw [idOf_eq_iff hsource (Model.has_of_mem hc), idOf_eq_iff htarget (Model.has_of_mem hc),
    Validation.touches, Bool.or_eq_true, beq_iff_eq, beq_iff_eq]

/-- **The edges that end at the database**: the interactions that do. -/
theorem exists_ending_iff (hline : m.SingleLine) (hactors : m.HasActors) :
    (∃ e ∈ (read (render m)).edges, e.target = (nodeIds m).idOf Model.databaseId) ↔
      ∃ i ∈ m.renderable, i.target = Model.databaseId := by
  have hknown := Model.has_of_get? hactors.database
  have hnavigation : ¬∃ page ∈ m.ofKind .clientPage,
      (nodeIds m).idOf page.id = (nodeIds m).idOf Model.databaseId := by
    rintro ⟨page, hmem, hself⟩
    obtain ⟨hpagemem, hkind⟩ := Model.mem_ofKind.mp hmem
    rw [idOf_eq_iff (Model.has_of_mem hpagemem) hknown] at hself
    refine Model.ne_of_get?_of_kind hactors.database hpagemem ?_ hself
    rw [hkind]
    decide
  rw [exists_edge_iff hline hactors fun _ target => target = (nodeIds m).idOf Model.databaseId,
    or_iff_left hnavigation]
  refine exists_congr fun i => and_congr_right fun hi => ?_
  exact idOf_eq_iff (Model.has_of_mem_renderable hi).2 hknown

/-- **The edges whose ends are equal**: the interactions of components with themselves. -/
theorem countP_loop (hline : m.SingleLine) (hactors : m.HasActors) :
    ((read (render m)).edges.countP fun e => e.source == e.target) =
      m.renderable.countP fun i => i.source == i.target := by
  have hpairs : ((read (render m)).edges.countP fun e => e.source == e.target) =
      ((read (render m)).edges.map fun e => (e.source, e.target)).countP
        fun ends => ends.1 == ends.2 := by
    rw [List.countP_map]
    rfl
  have hlog : (m.renderable.map fun i =>
      ((nodeIds m).idOf i.source, (nodeIds m).idOf i.target)).countP (fun e => e.1 == e.2) =
        m.renderable.countP fun i => i.source == i.target := by
    rw [List.countP_map]
    refine List.countP_congr fun i hi => ?_
    obtain ⟨hsource, htarget⟩ := Model.has_of_mem_renderable hi
    simp only [Function.comp_apply, beq_iff_eq]
    exact idOf_eq_iff hsource htarget
  have hnavigation : ((m.ofKind .clientPage).map fun page =>
      ((nodeIds m).idOf Model.userId, (nodeIds m).idOf page.id)).countP
        (fun e => e.1 == e.2) = 0 := by
    rw [List.countP_map, List.countP_eq_zero]
    intro page hmem hloop
    obtain ⟨hpagemem, hkind⟩ := Model.mem_ofKind.mp hmem
    have hself := (idOf_eq_iff (Model.has_of_get? hactors.user) (Model.has_of_mem hpagemem)).mp
      (beq_iff_eq.mp hloop)
    refine Model.ne_of_get?_of_kind hactors.user hpagemem ?_ hself.symm
    rw [hkind]
    decide
  rw [hpairs, ends_read_render hline hactors, List.countP_append, hlog, hnavigation, Nat.add_zero]

end Diagram

/-! ### The report of an analysis -/

/-- **The report agrees with the drawing**, if the label of every component stands on one line.
Every component has its node, and the report counts the nodes and the edges of the drawing. A
class is reported as an orphan, once, exactly if no edge touches its node; the database is
reported exactly if no edge ends at its node; and there are as many reports of self-loops as edges
whose ends are equal. -/
theorem analyze_report_agrees {p : Project} {o : Outcome} (h : analyze p = .ok o)
    (hline : o.model.SingleLine) :
    let d := Diagram.read o.diagram
    let nid := (Diagram.nodeIds o.model).idOf
    (∀ c ∈ o.model.components.toList,
      d.nodes.value? (nid c.id) = some (Diagram.escapeLabel c.label)) ∧
    d.nodes.size = o.report.stats.components ∧
    d.edges.length = o.report.stats.renderedInteractions + o.report.stats.pages ∧
    (∀ c ∈ o.model.components.toList, c.kind ∈ [.controller, .service, .gateway] →
      (o.report.issues.filter fun issue =>
          issue.code == "ORPHANED_COMPONENT" && issue.nodeId? == some c.id) =
        if ∃ e ∈ d.edges, e.source = nid c.id ∨ e.target = nid c.id then [] else [.orphan c]) ∧
    ((∃ issue ∈ o.report.issues, issue.code = "DATABASE_NO_INCOMING") ↔
      ∀ e ∈ d.edges, e.target ≠ nid Model.databaseId) ∧
    (o.report.issues.countP fun issue => issue.code == "SELF_LOOP") =
      d.edges.countP fun e => e.source == e.target := by
  have hactors : o.model.HasActors := by
    rw [Project.model_eq h]
    exact Model.hasActors_synthesize p.rules _
  rw [Project.diagram_eq h, Project.report_eq h]
  generalize o.model = m at hline hactors
  have hread := Diagram.read_render_eq m hline
  dsimp only at hread ⊢
  obtain ⟨-, -, -, hsize, -, -, -⟩ := hread
  refine ⟨fun c hc => ?_, hsize, Diagram.length_edges_read_render hline hactors,
    fun c hc hkind => ?_, ?_, ?_⟩
  · rw [Table.value?_eq_some_iff, Diagram.nodes_read_render hline, List.mem_map]
    exact ⟨c, (Diagram.clustered_perm m).mem_iff.mpr hc, rfl⟩
  · have hclass : c.kind ≠ .user ∧ c.kind ≠ .clientPage ∧ Validation.needsConnection c = true := by
      simp only [List.mem_cons, List.not_mem_nil, or_false] at hkind
      rw [Validation.needsConnection]
      rcases hkind with hkind | hkind | hkind <;> simp [hkind]
    obtain ⟨huser, hpage, hneeds⟩ := hclass
    have htouching := Diagram.exists_touching_iff hline hactors hc huser hpage
    rw [Validation.validate, Validation.filter_orphan m hc, hneeds, Bool.true_and]
    simp only [htouching]
    cases m.renderable.any (Validation.touches c.id) <;> rfl
  · rw [Validation.validate, Validation.exists_unusedDatabase_iff m
      (Model.has_of_get? hactors.database)]
    have hending := Diagram.exists_ending_iff hline hactors
    simpa using not_congr hending.symm
  · rw [Diagram.countP_loop hline hactors]
    exact Validation.countP_selfLoop m

/-- A project with a service that is given itself, a gateway that nothing uses, and a page. -/
def kiosk : Project where
  serverFiles :=
    [⟨"server/src/ticket.service.ts",
      "@Injectable()\nexport class TicketService { constructor(private t: TicketService) {} }"⟩,
      ⟨"server/src/news.gateway.ts", "@WebSocketGateway()\nexport class NewsGateway {}"⟩]
  clientFiles := [⟨"client/app/page.tsx", ""⟩]
  clientRoot := ⟨["work", "project"], "client/app"⟩

/-- The report and the drawing of the kiosk: five nodes, a loop and the arrow to the page, an
orphan, and a database that nothing reaches. -/
theorem analyze_report_agrees_kiosk :
    ∃ o, analyze kiosk = .ok o ∧ o.model.SingleLine ∧
      (Diagram.read o.diagram).nodes.size = 5 ∧ (Diagram.read o.diagram).edges.length = 2 ∧
      (∀ e ∈ (Diagram.read o.diagram).edges, e.target ≠ "Database") ∧
      ((Diagram.read o.diagram).edges.countP fun e => e.source == e.target) = 1 := by
  have hfacts : (analyze kiosk).map (fun o =>
      (decide o.model.SingleLine, (Diagram.nodeIds o.model).idOf Model.databaseId,
        o.report.stats.components, o.report.stats.renderedInteractions + o.report.stats.pages,
        o.report.issues.any (fun issue => issue.code == "DATABASE_NO_INCOMING"),
        o.report.issues.countP fun issue => issue.code == "SELF_LOOP")) =
      .ok (true, "Database", 5, 2, true, 1) := by decide +kernel
  obtain ⟨o, h⟩ := kiosk.exists_analyze_iff.mpr (by decide)
  rw [h] at hfacts
  simp only [Except.map, Except.ok.injEq, Prod.mk.injEq, decide_eq_true_eq, List.any_eq_true,
    beq_iff_eq] at hfacts
  obtain ⟨hline, hid, hcomponents, hedges, hdatabase, hloops⟩ := hfacts
  obtain ⟨-, hsize, hlength, -, hending, hcount⟩ := analyze_report_agrees h hline
  rw [hid] at hending
  exact ⟨o, h, hline, hsize.trans hcomponents, hlength.trans hedges, hending.mp hdatabase,
    hcount.symm.trans hloops⟩

end SystemSketch
