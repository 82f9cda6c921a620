import SystemSketch.Proofs.Analysis.Confluence
import SystemSketch.Proofs.Analysis.Resolution

/-!
# What the model of a project holds

An analysis succeeds exactly if every client file has a path, and its model is then a matter of
lists: the history of the components is the classes, the pages and the two actors, one after the
other; the log is what the server files say, then the answers to the questions of the pages, then
perhaps the arrow to the database; and every question without an answer stays open. All questions
are answered by the roster that the server files leave behind, since no page changes an answer.

## Main definitions

* `Project.servers`, `Project.pages`, `Project.declarations`, `Project.questions` — what the files
  of a project say.

## Main results

* `Model.foldl_recordPage` — the questions of all pages get the answers of the first roster.
* `Project.analyze_eq_ok_iff`, `Project.exists_analyze_iff` — when an analysis succeeds, and with
  which model.
* `Project.records_model`, `Project.interactions_model`, `Project.pending_model` — what the model
  holds; `Project.mem_model_cases`, `Project.mem_interactions_model_cases` — where its components
  and its interactions come from.
* `analyze_eq_error_iff` — when an analysis fails.
-/

namespace SystemSketch

namespace Model

/-! ### Pages one after the other -/

section Pages

variable {m : Model} {pages : List PageFacts}

/-- **The questions of all pages** get the answers of the roster before the first page. -/
theorem foldl_recordPage (hm : m.Apart)
    (hpages : ∀ facts ∈ pages, facts.page.kind = .clientPage ∧ ¬IsClassName facts.page.id) :
    (pages.foldl recordPage m).interactions =
        m.interactions ++ (pages.flatMap PageFacts.references).filterMap m.answer? ∧
      (pages.foldl recordPage m).pending =
        m.pending ++ (pages.flatMap PageFacts.references).filter fun r => (m.answer? r).isNone := by
  induction pages generalizing m with
  | nil => simp
  | cons facts rest ih =>
    obtain ⟨hkind, hid⟩ := hpages facts List.mem_cons_self
    have hpage : (m.upsert facts.page).answer? = m.answer? := by
      funext r
      rw [answer?_eq_answerers, answer?_eq_answerers, hm.answerers_upsert_page hkind hid]
    have hrest : (m.recordPage facts).answer? = m.answer? :=
      (answer?_congr (components_foldl_connect _ _)).trans hpage
    obtain ⟨hinteractions, hpending⟩ := ih (hm.recordPage hkind) fun f hf =>
      hpages f (List.mem_cons_of_mem facts hf)
    rw [hrest] at hinteractions hpending
    rw [List.foldl_cons, hinteractions, hpending, List.flatMap_cons, List.filterMap_append,
      List.filter_append, Model.recordPage, foldl_connect, hpage]
    exact ⟨List.append_assoc _ _ _, List.append_assoc _ _ _⟩

end Pages

/-- The interactions of server files, one after the other. -/
theorem interactions_foldl_recordServer (servers : List ServerFacts) (m : Model) :
    (servers.foldl recordServer m).interactions =
      m.interactions ++ servers.flatMap ServerFacts.interactions := by
  induction servers generalizing m with
  | nil => simp
  | cons facts rest ih =>
    have hany : (m.upsertAny facts.component?).interactions = m.interactions := by
      cases facts.component? <;> rfl
    rw [List.foldl_cons, ih, recordServer, foldl_append, hany, List.flatMap_cons,
      List.append_assoc]

/-- Server files leave no question open. -/
theorem pending_foldl_recordServer (servers : List ServerFacts) (m : Model) :
    (servers.foldl recordServer m).pending = m.pending := by
  induction servers generalizing m with
  | nil => rfl
  | cons facts rest ih =>
    rw [List.foldl_cons, ih, recordServer, foldl_append]
    cases facts.component? <;> rfl

/-- The history of server files. -/
theorem Records.foldl_recordServer {m : Model} {history : List Component} (h : m.Records history)
    (servers : List ServerFacts) :
    (servers.foldl Model.recordServer m).Records (history ++ declared servers) := by
  induction servers generalizing m history with
  | nil => simpa [declared] using h
  | cons facts rest ih =>
    rw [declared_cons, ← List.append_assoc]
    exact ih (h.recordServer facts)

/-- The history of client files. -/
theorem Records.foldl_recordPage {m : Model} {history : List Component} (h : m.Records history)
    (pages : List PageFacts) :
    (pages.foldl Model.recordPage m).Records (history ++ pages.map PageFacts.page) := by
  induction pages generalizing m history with
  | nil => simpa using h
  | cons facts rest ih =>
    rw [List.map_cons, List.append_cons]
    exact ih (h.recordPage facts)

/-! ### The actors -/

/-- The arrow to the database, if there is a component of the persistence service. -/
def databaseLink (rules : Rules) (m : Model) : List Interaction :=
  if m.has rules.persistenceService then
    [{ source := rules.persistenceService, target := databaseId, label := "queries" }]
  else []

/-- Synthesis appends at most the arrow to the database. -/
theorem interactions_synthesize (rules : Rules) (m : Model) :
    (m.synthesize rules).interactions =
      m.interactions ++ (m.synthesize rules).databaseLink rules := by
  have hhas : (m.synthesize rules).has = (m.addUser.addDatabase).has := by
    funext id
    rw [has, has, synthesize, components_linkPersistence]
  rw [databaseLink, hhas, synthesize, linkPersistence]
  split
  · rfl
  · exact (List.append_nil _).symm

/-- Models with the same identifiers know the same ones. -/
theorem has_eq_of_perm {m m' : Model} (h : m.components.keys.Perm m'.components.keys) :
    m.has = m'.has := by
  funext id
  rw [Bool.eq_iff_iff, has, has, Keyed.contains_iff, Keyed.contains_iff, h.mem_iff]

/-- The arrow to the database depends on the identifiers only. -/
theorem databaseLink_eq_of_perm {rules : Rules} {m m' : Model}
    (h : m.components.keys.Perm m'.components.keys) :
    m.databaseLink rules = m'.databaseLink rules := by
  rw [databaseLink, databaseLink, has_eq_of_perm h]

/-- The user of a synthesised model. -/
theorem get?_userId_synthesize (rules : Rules) (m : Model) :
    (m.synthesize rules).get? userId = some userActor := by
  rw [get?, synthesize, components_linkPersistence]
  show ((m.addUser.components).insert databaseActor).get? userId = some userActor
  rw [Keyed.get?_insert_of_ne (by decide)]
  exact Keyed.get?_insert_self userActor m.components

/-- The database of a synthesised model. -/
theorem get?_databaseId_synthesize (rules : Rules) (m : Model) :
    (m.synthesize rules).get? databaseId = some databaseActor := by
  rw [get?, synthesize, components_linkPersistence]
  exact Keyed.get?_insert_self databaseActor m.addUser.components

end Model

/-! ### What the files of a project say -/

namespace Project

section

variable (p : Project)

/-- What the server files say, in their order. -/
def servers : List ServerFacts :=
  p.serverFiles.map (serverFacts p.rules Recognition.markers)

/-- What the client files say, in their order. A file without an address says nothing. -/
def pages : List PageFacts :=
  p.clientFiles.filterMap fun file => (pageFacts p.clientRoot p.rules file).toOption

/-- The components that the server files declare, in their order. A class that several files
declare is there several times. -/
def declarations : List Component :=
  Model.declared p.servers

/-- The questions of all pages, in their order. -/
def questions : List Reference :=
  p.pages.flatMap PageFacts.references

/-- The declared components, file by file. -/
theorem declarations_eq : p.declarations =
    p.serverFiles.filterMap fun file =>
      (serverFacts p.rules Recognition.markers file).component? := by
  rw [declarations, Model.declared, servers, List.filterMap_map]
  rfl

/-- Every declared class comes from a server file. -/
theorem exists_of_mem_declarations {p : Project} {c : Component} (h : c ∈ p.declarations) :
    ∃ file ∈ p.serverFiles,
      (serverFacts p.rules Recognition.markers file).component? = some c := by
  rw [declarations_eq, List.mem_filterMap] at h
  exact h

/-- Declared classes are controllers, services and gateways. -/
theorem kind_of_mem_declarations {p : Project} {c : Component} (h : c ∈ p.declarations) :
    c.kind ∈ [.controller, .service, .gateway] := by
  obtain ⟨file, -, hfile⟩ := exists_of_mem_declarations h
  obtain ⟨name, -, marker, hmarker, capture, rfl⟩ := exists_of_component?_serverFacts hfile
  exact (by decide : ∀ marker ∈ Recognition.markers,
    marker.kind ∈ [Kind.controller, .service, .gateway]) marker hmarker

/-- Declared classes bear names of classes. -/
theorem isClassName_of_mem_declarations {p : Project} {c : Component} (h : c ∈ p.declarations) :
    IsClassName c.id := by
  obtain ⟨file, -, hfile⟩ := exists_of_mem_declarations h
  exact isClassName_of_serverFacts hfile

/-- The model after all server files is made by what they say. -/
theorem afterServer_eq_foldl : p.afterServer = p.servers.foldl Model.recordServer .empty := by
  rw [servers, List.foldl_map]
  rfl

/-- Everything that a page says comes from a client file. -/
theorem exists_of_mem_pages {p : Project} {facts : PageFacts} (h : facts ∈ p.pages) :
    ∃ file ∈ p.clientFiles, pageFacts p.clientRoot p.rules file = .ok facts := by
  obtain ⟨file, hfile, hsome⟩ := List.mem_filterMap.mp h
  refine ⟨file, hfile, ?_⟩
  cases hfacts : pageFacts p.clientRoot p.rules file with
  | error e => rw [hfacts] at hsome; cases hsome
  | ok found =>
    rw [hfacts] at hsome
    obtain rfl := Option.some.inj hsome
    rfl

/-- Pages are components of their own kind, and bear no name of a class. -/
theorem isPage_of_mem_pages {p : Project} {facts : PageFacts} (h : facts ∈ p.pages) :
    facts.page.kind = .clientPage ∧ ¬IsClassName facts.page.id := by
  obtain ⟨file, -, hfacts⟩ := exists_of_mem_pages h
  obtain ⟨address, -, hpage, -⟩ := pageFacts_eq_ok hfacts
  rw [hpage]
  exact ⟨rfl, not_isClassName_pageId address⟩

/-- **Pages keep apart**: no name of a class identifies a page. -/
theorem notMem_pages_of_isClassName {id : String} (h : IsClassName id) :
    id ∉ (p.pages.map PageFacts.page).map Component.id := by
  rw [List.map_map, List.mem_map]
  rintro ⟨facts, hfacts, heq⟩
  exact h.ne (isPage_of_mem_pages hfacts).2 heq

/-- **Every question is asked for a page**, for the controller of a route or for the gateway. -/
theorem mem_questions_cases {p : Project} {r : Reference} (h : r ∈ p.questions) :
    ∃ facts ∈ p.pages,
      (∃ route, r = .toController facts.page.id route) ∨ r = .toGateway facts.page.id := by
  obtain ⟨facts, hfacts, hr⟩ := List.mem_flatMap.mp h
  obtain ⟨file, -, hfile⟩ := exists_of_mem_pages hfacts
  obtain ⟨address, -, hpage, hreferences⟩ := pageFacts_eq_ok hfile
  rw [hreferences] at hr
  refine ⟨facts, hfacts, ?_⟩
  rw [hpage]
  exact (mem_pageReferences_cases hr).imp_left fun ⟨route, _, hr⟩ => ⟨route, hr⟩

/-- Pages ask for controllers of routes and for the gateway. -/
theorem asked_of_mem_questions {p : Project} {r : Reference} (h : r ∈ p.questions) :
    (∃ page route, r = .toController page route) ∨ ∃ page, r = .toGateway page := by
  obtain ⟨facts, -, ⟨route, rfl⟩ | rfl⟩ := mem_questions_cases h
  · exact Or.inl ⟨facts.page.id, route, rfl⟩
  · exact Or.inr ⟨facts.page.id, rfl⟩

/-! ### When an analysis succeeds -/

/-- Client files are taken up exactly if each of them has a path. -/
theorem foldlM_analyzePage_eq_ok_iff {root : PageRoot} {rules : Rules} {files : List SourceFile}
    {m m' : Model} :
    files.foldlM (Model.analyzePage root rules) m = .ok m' ↔
      (∀ file ∈ files, file.path ≠ "") ∧
        m' = (files.filterMap fun file => (pageFacts root rules file).toOption).foldl
          Model.recordPage m := by
  induction files generalizing m with
  | nil =>
    constructor
    · intro h
      exact ⟨fun _ hfile => absurd hfile List.not_mem_nil, (Except.ok.inj h).symm⟩
    · rintro ⟨-, rfl⟩
      rfl
  | cons file rest ih =>
    rw [List.foldlM_cons, Model.analyzePage]
    by_cases hpath : file.path = ""
    · have herror : pageFacts root rules file = .error .noPath := by
        simp [pageFacts, PageRoot.address, hpath, bind, Except.bind]
      rw [herror]
      constructor
      · intro h
        cases h
      · intro h
        exact absurd hpath (h.1 file List.mem_cons_self)
    · obtain ⟨facts, hfacts⟩ := exists_pageFacts root rules hpath
      have hsome : (pageFacts root rules file).toOption = some facts := by
        rw [hfacts]
        rfl
      have hpages : ((file :: rest).filterMap fun file => (pageFacts root rules file).toOption) =
          facts :: rest.filterMap fun file => (pageFacts root rules file).toOption :=
        List.filterMap_cons_some hsome
      rw [hpages, List.foldl_cons, List.forall_mem_cons, hfacts]
      refine ih.trans ?_
      simp only [hpath, ne_eq, not_false_eq_true, true_and]

/-- **When an analysis succeeds:** every client file has a path, and the outcome is that of the
model with the facts of all files and the actors. -/
theorem analyze_eq_ok_iff {o : Outcome} :
    analyze p = .ok o ↔ (∀ file ∈ p.clientFiles, file.path ≠ "") ∧
      o =
        let read := p.pages.foldl Model.recordPage p.afterServer
        let final := read.synthesize p.rules
        { model := final
          report := Validation.validate final
          diagram := Diagram.render final
          log :=
            (if p.resolvePending then [resolutionLine read] else []) ++
              [sizeLine p final, "[VALIDATOR] " ++ (Validation.validate final).summary] ++
              final.diagnostics.map diagnosticLine } := by
  constructor
  · intro h
    cases hread : p.extracted with
    | error e => rw [analyze_of_extracted_error hread] at h; cases h
    | ok m =>
      rw [analyze_of_extracted hread] at h
      rw [extracted_eq_foldlM, foldlM_analyzePage_eq_ok_iff] at hread
      obtain ⟨hpaths, rfl⟩ := hread
      exact ⟨hpaths, (Except.ok.inj h).symm⟩
  · rintro ⟨hpaths, rfl⟩
    refine analyze_of_extracted ?_
    rw [extracted_eq_foldlM, foldlM_analyzePage_eq_ok_iff]
    exact ⟨hpaths, rfl⟩

/-- An analysis succeeds exactly if every client file has a path. -/
theorem exists_analyze_iff : (∃ o, analyze p = .ok o) ↔ ∀ file ∈ p.clientFiles, file.path ≠ "" := by
  simp only [analyze_eq_ok_iff, exists_and_left, exists_eq, and_true]

end

/-! ### What the model holds -/

variable {p : Project} {o : Outcome}

/-- The model of an analysis has the facts of all files and the actors. -/
theorem model_eq (h : analyze p = .ok o) :
    o.model = (p.pages.foldl Model.recordPage p.afterServer).synthesize p.rules := by
  obtain ⟨-, rfl⟩ := p.analyze_eq_ok_iff.mp h
  rfl

/-- The report of an analysis is that of its model. -/
theorem report_eq (h : analyze p = .ok o) : o.report = Validation.validate o.model := by
  obtain ⟨-, rfl⟩ := p.analyze_eq_ok_iff.mp h
  rfl

/-- The drawing of an analysis is that of its model. -/
theorem diagram_eq (h : analyze p = .ok o) : o.diagram = Diagram.render o.model := by
  obtain ⟨-, rfl⟩ := p.analyze_eq_ok_iff.mp h
  rfl

/-- The history of the roster after the server files. -/
theorem records_afterServer (p : Project) : p.afterServer.Records p.declarations := by
  rw [afterServer_eq_foldl]
  exact Model.records_empty.foldl_recordServer p.servers

/-- **The history** of a project: the classes, the pages, and the actors. -/
theorem records_model (h : analyze p = .ok o) :
    o.model.Records
      (p.declarations ++ p.pages.map PageFacts.page ++ [Model.userActor, Model.databaseActor]) := by
  rw [model_eq h]
  exact (p.records_afterServer.foldl_recordPage p.pages).synthesize p.rules

/-- **Where a component comes from:** it is a declared class, a page, or one of the actors. -/
theorem mem_model_cases (h : analyze p = .ok o) {c : Component}
    (hc : c ∈ o.model.components.toList) :
    c ∈ p.declarations ∨ (∃ facts ∈ p.pages, c = facts.page) ∨
      c = Model.userActor ∨ c = Model.databaseActor := by
  have hhistory := (p.records_model h).mem_history hc
  rw [List.mem_append, List.mem_append] at hhistory
  rcases hhistory with (hdeclared | hpage) | hactor
  · exact Or.inl hdeclared
  · obtain ⟨facts, hfacts, rfl⟩ := List.mem_map.mp hpage
    exact Or.inr (Or.inl ⟨facts, hfacts, rfl⟩)
  · exact Or.inr (Or.inr (List.mem_pair.mp hactor))

/-- The facts of the pages in the roster that the server files leave behind. -/
theorem interactions_foldl_pages (p : Project) :
    (p.pages.foldl Model.recordPage p.afterServer).interactions =
        p.servers.flatMap ServerFacts.interactions ++
          p.questions.filterMap p.afterServer.answer? ∧
      (p.pages.foldl Model.recordPage p.afterServer).pending =
        p.questions.filter fun r => (p.afterServer.answer? r).isNone := by
  obtain ⟨hinteractions, hpending⟩ := Model.foldl_recordPage p.ready_afterServer.1
    fun facts hfacts => isPage_of_mem_pages (p := p) hfacts
  have hlog : p.afterServer.interactions = p.servers.flatMap ServerFacts.interactions := by
    rw [afterServer_eq_foldl, Model.interactions_foldl_recordServer]
    rfl
  have hopen : p.afterServer.pending = [] := by
    rw [afterServer_eq_foldl, Model.pending_foldl_recordServer]
    rfl
  rw [hinteractions, hpending, hlog, hopen, List.nil_append]
  exact ⟨rfl, rfl⟩

/-- **The log** of a project: what the server files say, the answers to the questions of the
pages, and perhaps the arrow to the database. -/
theorem interactions_model (h : analyze p = .ok o) :
    o.model.interactions =
      p.servers.flatMap ServerFacts.interactions ++ p.questions.filterMap p.afterServer.answer? ++
        o.model.databaseLink p.rules := by
  rw [model_eq h, Model.interactions_synthesize, p.interactions_foldl_pages.1]

/-- **Where an interaction comes from:** a server file says it, or it answers the question of a
page, or it is the arrow to the database. -/
theorem mem_interactions_model_cases (h : analyze p = .ok o) {i : Interaction}
    (hi : i ∈ o.model.interactions) :
    (∃ file ∈ p.serverFiles, i ∈ (serverFacts p.rules Recognition.markers file).interactions) ∨
      (∃ r ∈ p.questions, p.afterServer.answer? r = some i) ∨
        i ∈ o.model.databaseLink p.rules := by
  rw [interactions_model h, List.mem_append, List.mem_append] at hi
  rcases hi with (hserver | hanswer) | hlink
  · obtain ⟨facts, hfacts, hi⟩ := List.mem_flatMap.mp hserver
    obtain ⟨file, hfile, rfl⟩ := List.mem_map.mp hfacts
    exact Or.inl ⟨file, hfile, hi⟩
  · exact Or.inr (Or.inl (List.mem_filterMap.mp hanswer))
  · exact Or.inr (Or.inr hlink)

/-- **The open questions** of a project are those without an answer after the server files. -/
theorem pending_model (h : analyze p = .ok o) :
    o.model.pending = p.questions.filter fun r => (p.afterServer.answer? r).isNone := by
  rw [model_eq h, Model.pending_synthesize, p.interactions_foldl_pages.2]

end Project

/-! ### When an analysis fails -/

/-- **When an analysis fails.** The one error of an analysis is a client file without a path,
whatever the server files, the texts, the root and the rules are. An analysis without such a file
gives a model with its report and its drawing, and so does every analysis once such files are left
out. -/
theorem analyze_eq_error_iff (p : Project) :
    (∀ e, analyze p = .error e ↔ e = .noPath ∧ ∃ file ∈ p.clientFiles, file.path = "") ∧
    ((∀ file ∈ p.clientFiles, file.path ≠ "") →
      ∃ o, analyze p = .ok o ∧ o.report = Validation.validate o.model ∧
        o.diagram = Diagram.render o.model) ∧
    ∃ o, analyze { p with clientFiles := p.clientFiles.filter fun file => file.path != "" } =
      .ok o := by
  refine ⟨fun e => ?_, fun hpaths => ?_, ?_⟩
  · have hok := p.exists_analyze_iff
    cases e
    cases h : analyze p with
    | error e =>
      cases e
      refine iff_of_true rfl ⟨rfl, ?_⟩
      by_contra hnone
      simp only [not_exists, not_and] at hnone
      obtain ⟨o, ho⟩ := hok.mpr hnone
      rw [h] at ho
      cases ho
    | ok o =>
      refine iff_of_false (fun heq => by cases heq) ?_
      rintro ⟨-, file, hfile, hpath⟩
      exact hok.mp ⟨o, h⟩ file hfile hpath
  · obtain ⟨o, h⟩ := p.exists_analyze_iff.mpr hpaths
    exact ⟨o, h, Project.report_eq h, Project.diagram_eq h⟩
  · rw [Project.exists_analyze_iff]
    intro file hfile
    simpa using (List.mem_filter.mp hfile).2

/-- A project whose only client file has no path. -/
def pathless : Project where
  serverFiles := []
  clientFiles := [⟨"", ""⟩]
  clientRoot := ⟨["work", "project"], "client/app"⟩

/-- The analysis of a file without a path fails, and succeeds when the file is left out. -/
theorem analyze_eq_error_iff_pathless :
    analyze pathless = .error .noPath ∧
      (∃ o, analyze { pathless with clientFiles := [] } = .ok o ∧
        o.diagram = Diagram.render o.model) := by
  have hpathless := analyze_eq_error_iff pathless
  have hempty := analyze_eq_error_iff { pathless with clientFiles := [] }
  refine ⟨(hpathless.1 _).mpr ⟨rfl, _, List.mem_singleton_self _, rfl⟩, ?_⟩
  obtain ⟨o, h, -, hdiagram⟩ := hempty.2.1 fun file hfile => absurd hfile List.not_mem_nil
  exact ⟨o, h, hdiagram⟩

/-- An analysis by the default rules can fail. -/
theorem pathless_fails :
    pathless.rules = {} ∧ (¬∃ o, analyze pathless = .ok o) ∧
      (analyze pathless).mapError PageError.message = .error "no path specified" := by
  have herror : analyze pathless = .error .noPath := by decide +kernel
  rw [herror]
  refine ⟨rfl, ?_, rfl⟩
  rintro ⟨o, h⟩
  cases h

end SystemSketch
