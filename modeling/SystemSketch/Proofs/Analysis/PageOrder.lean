import SystemSketch.Proofs.Analysis.Facts

/-!
# The order of the client files

Pages are answered by the classes alone, so the order of the client files does not matter to the
answers. It matters only to which of two pages with the same address comes last, and the two have
the same identifier and the same kind. Everything that a report counts is therefore the same.

## Main definitions

* `Model.kinds` — the identifiers of a model with their kinds.

## Main results

* `Model.mem_kinds_iff` — the kinds are what is found under the identifiers.
* `Validation.stats_eq_of_perm` — the counts of a report do not depend on any order.
* `Project.perm_kinds_of_perm_pages` — the kinds do not depend on the order of the pages.
* `analyze_perm_clientFiles` — the order of the client files does not matter to the facts.
-/

namespace SystemSketch

/-! ### Kinds -/

/-- In a history of one kind the latest component of an identifier is of this kind. -/
theorem kind_latest?_of_forall {history : List Component} {kind : Kind}
    (h : ∀ c ∈ history, c.kind = kind) (id : String) :
    (latest? history id).map Component.kind =
      if id ∈ history.map Component.id then some kind else none := by
  split
  · next hid =>
    obtain ⟨c, hc⟩ := Option.ne_none_iff_exists'.mp fun hnone => latest?_eq_none_iff.mp hnone hid
    rw [hc, Option.map_some, h c (mem_of_latest? hc)]
  · next hid => rw [latest?_eq_none_iff.mpr hid, Option.map_none]

namespace Model

/-- The identifiers of a model with their kinds. -/
def kinds (m : Model) : List (String × Kind) :=
  m.components.toList.map fun c => (c.id, c.kind)

/-- The identifiers are the keys. -/
theorem map_fst_kinds (m : Model) : m.kinds.map Prod.fst = m.components.keys := by
  rw [kinds, List.map_map]
  rfl

/-- Every identifier has one kind. -/
theorem nodup_kinds (m : Model) : m.kinds.Nodup := by
  refine List.Nodup.of_map Prod.fst ?_
  rw [map_fst_kinds]
  exact m.components.nodup

/-- **The kinds** are those of the components that are found under the identifiers. -/
theorem mem_kinds_iff {m : Model} {id : String} {kind : Kind} :
    (id, kind) ∈ m.kinds ↔ (m.get? id).map Component.kind = some kind := by
  simp only [kinds, List.mem_map, Prod.mk.injEq, Option.map_eq_some_iff, get?,
    Keyed.get?_eq_some_iff, and_assoc]

/-- Models that find the same kinds have the same kinds, in some order. -/
theorem perm_kinds {m m' : Model}
    (h : ∀ id, (m.get? id).map Component.kind = (m'.get? id).map Component.kind) :
    m.kinds.Perm m'.kinds := by
  rw [List.perm_ext_iff_of_nodup m.nodup_kinds m'.nodup_kinds]
  rintro ⟨id, kind⟩
  rw [mem_kinds_iff, mem_kinds_iff, h]

/-- The size of a roster. -/
theorem length_kinds (m : Model) : m.kinds.length = m.components.size :=
  List.length_map _

/-- How many components are of a kind. -/
theorem length_ofKind (m : Model) (kind : Kind) :
    (m.ofKind kind).length = m.kinds.countP fun entry => entry.2 == kind := by
  rw [ofKind, kinds, List.countP_map, List.countP_eq_length_filter]
  rfl

end Model

/-- **The counts of a report** are the same for models that hold the same, in any order. -/
theorem Validation.stats_eq_of_perm {m m' : Model} (hkinds : m.kinds.Perm m'.kinds)
    (hinteractions : m.interactions.Perm m'.interactions)
    (hpending : m.pending.Perm m'.pending) : stats m = stats m' := by
  have hkeys : m.components.keys.Perm m'.components.keys := by
    rw [← m.map_fst_kinds, ← m'.map_fst_kinds]
    exact hkinds.map Prod.fst
  have hsize : m.components.size = m'.components.size := by
    rw [← m.length_kinds, ← m'.length_kinds, hkinds.length_eq]
  have hrenderable : m.renderable.length = m'.renderable.length := by
    have hdraws : m.draws = m'.draws := by
      funext i
      rw [Model.draws, Model.draws, Model.has_eq_of_perm hkeys]
    rw [Model.renderable, Model.renderable, hdraws]
    exact (hinteractions.filter m'.draws).length_eq
  have hkind : ∀ kind, (m.ofKind kind).length = (m'.ofKind kind).length := by
    intro kind
    rw [m.length_ofKind, m'.length_ofKind, hkinds.countP_eq]
  simp only [stats, hsize, hrenderable, hkind, hinteractions.length_eq, hpending.length_eq]

namespace Project

variable {p : Project} {files : List SourceFile}

/-! ### Pages in another order -/

/-- The pages change their order with their files. -/
theorem perm_pages (h : files.Perm p.clientFiles) :
    ({ p with clientFiles := files } : Project).pages.Perm p.pages :=
  h.filterMap _

/-- The questions change their order with the pages. -/
theorem perm_questions (h : files.Perm p.clientFiles) :
    ({ p with clientFiles := files } : Project).questions.Perm p.questions :=
  (perm_pages h).flatMap_right _

/-- **The kinds** that are found in the end do not depend on the order of the pages. -/
theorem perm_kinds_of_perm_pages {m m' : Model} {before after : List Component}
    {pages pages' : List PageFacts} (hperm : pages'.Perm pages)
    (hkind : ∀ facts ∈ pages, facts.page.kind = .clientPage)
    (hm : m.Records (before ++ pages.map PageFacts.page ++ after))
    (hm' : m'.Records (before ++ pages'.map PageFacts.page ++ after)) :
    m'.kinds.Perm m.kinds := by
  have hpage : ∀ c ∈ pages.map PageFacts.page, c.kind = .clientPage := by
    intro c hc
    obtain ⟨facts, hfacts, rfl⟩ := List.mem_map.mp hc
    exact hkind facts hfacts
  have hpage' : ∀ c ∈ pages'.map PageFacts.page, c.kind = .clientPage :=
    fun c hc => hpage c ((hperm.map PageFacts.page).subset hc)
  have hids : ∀ id, id ∈ (pages'.map PageFacts.page).map Component.id ↔
      id ∈ (pages.map PageFacts.page).map Component.id :=
    fun id => ((hperm.map PageFacts.page).map Component.id).mem_iff
  refine Model.perm_kinds fun id => ?_
  rw [hm.get?_eq, hm'.get?_eq, latest?_append, latest?_append, latest?_append, latest?_append,
    Option.map_or, Option.map_or, Option.map_or, Option.map_or, kind_latest?_of_forall hpage,
    kind_latest?_of_forall hpage']
  simp only [hids]

end Project

/-! ### The outcome -/

/-- **The order of the client files** does not matter to the facts. When an analysis succeeds, it
succeeds with the client files in any order, and gives the same identifiers with the same kinds,
the same interactions and the same open questions, each as often, as many remarks about
collisions, and the same counts in the report. -/
theorem analyze_perm_clientFiles {p : Project} {o : Outcome} (h : analyze p = .ok o)
    {files : List SourceFile} (hperm : files.Perm p.clientFiles) :
    ∃ o', analyze { p with clientFiles := files } = .ok o' ∧
      (o'.model.components.toList.map fun c => (c.id, c.kind)).Perm
        (o.model.components.toList.map fun c => (c.id, c.kind)) ∧
      o'.model.interactions.Perm o.model.interactions ∧
      o'.model.pending.Perm o.model.pending ∧
      o'.model.diagnostics.length = o.model.diagnostics.length ∧
      o'.report.stats = o.report.stats := by
  obtain ⟨o', h'⟩ : ∃ o', analyze { p with clientFiles := files } = .ok o' := by
    rw [Project.exists_analyze_iff]
    have hpaths := p.exists_analyze_iff.mp ⟨o, h⟩
    exact fun file hfile => hpaths file (hperm.subset hfile)
  have hrecords := Project.records_model h
  have hrecords' := Project.records_model h'
  have hkinds : o'.model.kinds.Perm o.model.kinds :=
    Project.perm_kinds_of_perm_pages (Project.perm_pages hperm)
      (fun facts hfacts => (Project.isPage_of_mem_pages hfacts).1) hrecords hrecords'
  have hkeys : o'.model.components.keys.Perm o.model.components.keys := by
    rw [← Model.map_fst_kinds, ← Model.map_fst_kinds]
    exact hkinds.map Prod.fst
  -- The roster that answers is the one after the server files, which is the same in both runs.
  have hinteractions : o'.model.interactions.Perm o.model.interactions := by
    rw [Project.interactions_model h, Project.interactions_model h',
      Model.databaseLink_eq_of_perm hkeys]
    exact (((Project.perm_questions hperm).filterMap _).append_left _).append_right _
  have hpending : o'.model.pending.Perm o.model.pending := by
    rw [Project.pending_model h, Project.pending_model h']
    exact (Project.perm_questions hperm).filter _
  -- Every entry is a new identifier or a collision, and both runs enter equally many.
  have hremarks : o'.model.diagnostics.length = o.model.diagnostics.length := by
    have hlength := hrecords.length_eq
    have hlength' := hrecords'.length_eq
    have hpages := (Project.perm_pages hperm).length_eq
    have hsize := hkinds.length_eq
    rw [Model.length_kinds, Model.length_kinds] at hsize
    simp only [List.length_append, List.length_map] at hlength hlength'
    rw [Model.diagnostics, Model.diagnostics, List.length_map, List.length_map]
    have hsame : ({ p with clientFiles := files } : Project).declarations = p.declarations := rfl
    rw [hsame] at hlength'
    omega
  refine ⟨o', h', hkinds, hinteractions, hpending, hremarks, ?_⟩
  rw [Project.report_eq h, Project.report_eq h']
  exact Validation.stats_eq_of_perm hkinds hinteractions hpending

/-- A project with two files of one page, of which the later one holds, and a page that asks for a
controller and for the gateway that is not there. -/
def twins : Project where
  serverFiles :=
    [⟨"server/src/cart.controller.ts", "@Controller('cart')\nexport class CartController {}"⟩]
  clientFiles :=
    [⟨"client/app/shop/page.tsx", "fetch(`$\x7bapiUrl\x7d/api/cart`)"⟩,
      ⟨"client/app/shop/page.js", "useSocket()"⟩, ⟨"client/app/page.tsx", ""⟩]
  clientRoot := ⟨["work", "project"], "client/app"⟩

/-- The twins in the opposite order. -/
theorem analyze_perm_clientFiles_twins :
    ∃ o o', analyze twins = .ok o ∧
      analyze { twins with clientFiles := twins.clientFiles.reverse } = .ok o' ∧
      twins.clientFiles.reverse ≠ twins.clientFiles ∧
      o'.model.interactions.Perm o.model.interactions ∧
      o'.model.pending.Perm o.model.pending ∧
      o.model.diagnostics.length = 1 ∧ o'.model.diagnostics.length = 1 ∧
      o'.report.stats = o.report.stats := by
  have hcount : (analyze twins).map (fun o => o.model.diagnostics.length) = .ok 1 := by
    decide +kernel
  obtain ⟨o, h⟩ := twins.exists_analyze_iff.mpr (by decide)
  obtain ⟨o', h', -, hinteractions, hpending, hremarks, hstats⟩ :=
    analyze_perm_clientFiles h (List.reverse_perm twins.clientFiles)
  rw [h] at hcount
  have hone : o.model.diagnostics.length = 1 := Except.ok.inj hcount
  exact ⟨o, o', h, h', by decide, hinteractions, hpending, hone, hremarks.trans hone, hstats⟩

end SystemSketch
