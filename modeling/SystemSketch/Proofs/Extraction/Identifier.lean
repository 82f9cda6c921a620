import SystemSketch.Extraction.Client
import SystemSketch.Extraction.Server
import SystemSketch.Proofs.Model.Answer
import SystemSketch.Proofs.Recognition.Pattern

/-!
# Identifiers of classes and of pages

A class is identified by its name, which is made of word characters, and a page by its address in
round brackets. No page can therefore take the place of a class, so that reading client files
changes no controller and no gateway, and every question of a page is answered by the classes
that were read before it.

## Main definitions

* `IsClassName` — the identifiers that a class can have.
* `Model.Apart` — every component of a model is a page or bears the name of a class.

## Main results

* `exists_of_component?_serverFacts`, `exists_of_mem_interactions_serverFacts` — what a server file
  can say.
* `isClassName_of_serverFacts`, `not_isClassName_pageId` — classes and pages are never identified
  alike.
* `Model.Apart.answerers_recordPage` — a page changes no answer.
* `Model.Settled.recordPage` — a page keeps a model settled.
-/

namespace SystemSketch

/-- Whether an identifier can be the name of a class. -/
def IsClassName (id : String) : Prop :=
  ∀ x ∈ id.toList, Text.isWord x = true

/-- An identifier that is no name of a class differs from every such name. -/
theorem IsClassName.ne {name id : String} (h : IsClassName name) (hid : ¬IsClassName id) :
    id ≠ name := by
  rintro rfl
  exact hid h

/-! ### Names of classes -/

/-- The name of an exported class is made of word characters. -/
theorem isClassName_of_exportedName? {text name : String} (h : exportedName? text = some name) :
    IsClassName name := by
  obtain ⟨capture, hcapture, rfl⟩ := Option.map_eq_some_iff.mp h
  obtain ⟨-, rest, hit, -, -, hhit, rfl⟩ := Pattern.findFrom?_eq_some_iff.mp hcapture
  simp only [Recognition.exportedClass, Pattern.reading, Option.map_eq_some_iff,
    Option.bind_eq_bind, Option.bind_eq_some_iff] at hhit
  obtain ⟨⟨groups, after⟩, ⟨tail, -, hread⟩, rfl⟩ := hhit
  split at hread
  · cases hread
  · obtain ⟨rfl, -⟩ := Prod.mk.inj (Option.some.inj hread)
    intro x hx
    rw [Capture.value, Pattern.captured] at hx
    simp only [List.map_cons, List.map_nil, List.head?_cons, Option.getD_some,
      String.toList_ofList] at hx
    exact List.all_eq_true.mp List.all_takeWhile x hx

/-! ### What a server file says -/

/-- The marker that decides about a text is one of those that are asked. -/
theorem Recognition.mem_of_classify {markers : List Marker} {text : String} {marker : Marker}
    {capture : Capture} (h : classify markers text = some (marker, capture)) :
    marker ∈ markers := by
  obtain ⟨found, hfound, hmatch⟩ := List.exists_of_findSome?_eq_some h
  obtain ⟨hit, -, heq⟩ := Option.map_eq_some_iff.mp hmatch
  obtain ⟨rfl, -⟩ := Prod.mk.inj heq
  exact hfound

/-- **The component of a server file** bears the name of the exported class, and one of the markers
says what it is. -/
theorem exists_of_component?_serverFacts {rules : Rules} {markers : List Recognition.Marker}
    {file : SourceFile} {c : Component}
    (h : (serverFacts rules markers file).component? = some c) :
    ∃ name, exportedName? file.text = some name ∧ ∃ marker ∈ markers, ∃ capture,
      c = ⟨name, marker.kind, marker.label name capture, file.path⟩ := by
  rw [serverFacts] at h
  cases hname : exportedName? file.text with
  | none => rw [hname] at h; cases h
  | some name =>
    rw [hname] at h
    obtain ⟨⟨marker, capture⟩, hclassify, rfl⟩ := Option.map_eq_some_iff.mp h
    exact ⟨name, rfl, marker, Recognition.mem_of_classify hclassify, capture, rfl⟩

/-- **The interactions of a server file** start at the exported class: it is given what its
constructor declares, and uses the persistence service if the text mentions it. -/
theorem exists_of_mem_interactions_serverFacts {rules : Rules}
    {markers : List Recognition.Marker} {file : SourceFile} {i : Interaction}
    (h : i ∈ (serverFacts rules markers file).interactions) :
    ∃ name, exportedName? file.text = some name ∧
      ((∃ dependency ∈ Recognition.constructorDependencies file.text,
          i = { source := name, target := dependency, label := "injects" }) ∨
        i = { source := name, target := rules.persistenceService, label := "uses" }) := by
  rw [serverFacts] at h
  cases hname : exportedName? file.text with
  | none => rw [hname] at h; exact absurd h List.not_mem_nil
  | some name =>
    rw [hname] at h
    refine ⟨name, rfl, ?_⟩
    rcases List.mem_append.mp h with hdependency | hmention
    · obtain ⟨dependency, hmem, rfl⟩ := List.mem_map.mp hdependency
      exact Or.inl ⟨dependency, hmem, rfl⟩
    · split at hmention
      · exact Or.inr (List.mem_singleton.mp hmention)
      · exact absurd hmention List.not_mem_nil

/-- The component of a server file bears the name of a class. -/
theorem isClassName_of_serverFacts {rules : Rules} {markers : List Recognition.Marker}
    {file : SourceFile} {c : Component}
    (h : (serverFacts rules markers file).component? = some c) : IsClassName c.id := by
  obtain ⟨name, hname, marker, -, capture, rfl⟩ := exists_of_component?_serverFacts h
  exact isClassName_of_exportedName? hname

/-! ### Identifiers of pages -/

/-- The identifier of a page is no name of a class: it has brackets. -/
theorem not_isClassName_pageId (address : String) : ¬IsClassName (pageId address) := by
  intro h
  have hmem : '(' ∈ (pageId address).toList := by simp [pageId]
  exact absurd (h '(' hmem) (by decide)

/-- What a client file says: a page, and the questions of this page. -/
theorem pageFacts_eq_ok {root : PageRoot} {rules : Rules} {file : SourceFile} {facts : PageFacts}
    (h : pageFacts root rules file = .ok facts) :
    ∃ address, root.address rules.pageFilenames file.path = .ok address ∧
      facts.page = ⟨pageId address, .clientPage, pageLabel address, file.path⟩ ∧
      facts.references = pageReferences rules file.text (pageId address) := by
  simp only [pageFacts, bind, Except.bind, pure, Except.pure] at h
  cases haddress : root.address rules.pageFilenames file.path with
  | error e => rw [haddress] at h; cases h
  | ok address =>
    rw [haddress] at h
    obtain rfl := Except.ok.inj h
    exact ⟨address, rfl, rfl, rfl⟩

/-- A client file with a path always says what its page is. -/
theorem exists_pageFacts (root : PageRoot) (rules : Rules) {file : SourceFile}
    (h : file.path ≠ "") : ∃ facts, pageFacts root rules file = .ok facts := by
  have hpath : file.path.isEmpty = false := by simpa using h
  simp only [pageFacts, PageRoot.address, hpath, bind, Except.bind, pure, Except.pure]
  exact ⟨_, rfl⟩

/-- **The questions of a page** are asked for this page: for the controllers of the routes that it
fetches, and for the gateway. -/
theorem mem_pageReferences_cases {rules : Rules} {text page : String} {r : Reference}
    (h : r ∈ pageReferences rules text page) :
    (∃ route ∈ fetchedRoutes rules text, r = .toController page route) ∨ r = .toGateway page := by
  rw [pageReferences, List.mem_append] at h
  rcases h with h | h
  · obtain ⟨route, hroute, rfl⟩ := List.mem_map.mp h
    exact Or.inl ⟨route, hroute, rfl⟩
  · split at h
    · exact Or.inr (List.mem_singleton.mp h)
    · cases h

/-- A page asks for controllers of routes and for the gateway. -/
theorem asked_of_mem_pageReferences {rules : Rules} {text page : String} {r : Reference}
    (h : r ∈ pageReferences rules text page) :
    (∃ page route, r = .toController page route) ∨ ∃ page, r = .toGateway page := by
  rcases mem_pageReferences_cases h with ⟨route, -, rfl⟩ | rfl
  · exact Or.inl ⟨page, route, rfl⟩
  · exact Or.inr ⟨page, rfl⟩

/-! ### Components apart -/

namespace Model

/-- The components of a model are **apart** if each is a page or bears the name of a class. -/
def Apart (m : Model) : Prop :=
  ∀ c ∈ m.components.toList, c.kind = .clientPage ∨ IsClassName c.id

theorem apart_empty : empty.Apart := fun _ hc => absurd hc List.not_mem_nil

/-- Entering a page, or a component with the name of a class, keeps the components apart. -/
theorem Apart.upsert {m : Model} (h : m.Apart) {c : Component}
    (hc : c.kind = .clientPage ∨ IsClassName c.id) : (m.upsert c).Apart := by
  intro d hd
  rcases Keyed.mem_insert.mp hd with rfl | ⟨hold, -⟩
  · exact hc
  · exact h d hold

/-- A server file keeps the components apart. -/
theorem Apart.recordServer {m : Model} (h : m.Apart) {facts : ServerFacts}
    (hfacts : ∀ c ∈ facts.component?, IsClassName c.id) : (m.recordServer facts).Apart := by
  rw [Model.recordServer, foldl_append]
  cases hc : facts.component? with
  | none => exact h
  | some c => exact h.upsert (Or.inr (hfacts c hc))

/-- A client file keeps the components apart. -/
theorem Apart.recordPage {m : Model} (h : m.Apart) {facts : PageFacts}
    (hkind : facts.page.kind = .clientPage) : (m.recordPage facts).Apart := by
  intro c hc
  rw [Model.recordPage, components_foldl_connect] at hc
  exact h.upsert (Or.inl hkind) c hc

/-- **A page takes the place of a page only**, so it changes no answer. -/
theorem Apart.answerers_upsert_page {m : Model} (h : m.Apart) {page : Component}
    (hkind : page.kind = .clientPage) (hid : ¬IsClassName page.id) :
    (m.upsert page).answerers = m.answerers := by
  refine answerers_upsert (by rw [Component.answers, hkind]; rfl) fun d hd hdid => ?_
  rcases h d hd with hpage | hclass
  · rw [Component.answers, hpage]; rfl
  · exact absurd hdid.symm (hclass.ne hid)

/-- A client file changes no answer. -/
theorem Apart.answerers_recordPage {m : Model} (h : m.Apart) {facts : PageFacts}
    (hkind : facts.page.kind = .clientPage) (hid : ¬IsClassName facts.page.id) :
    (m.recordPage facts).answerers = m.answerers := by
  rw [answerers, Model.recordPage, components_foldl_connect]
  exact h.answerers_upsert_page hkind hid

/-- **A client file** keeps a model settled: each of its questions is answered or stays open. -/
theorem Settled.recordPage {m : Model} (h : m.Settled) {facts : PageFacts}
    (hkind : facts.page.kind = .clientPage)
    (hasked : ∀ r ∈ facts.references,
      (∃ page route, r = .toController page route) ∨ ∃ page, r = .toGateway page) :
    (m.recordPage facts).Settled :=
  (h.upsert (by rw [Component.answers, hkind]; rfl)).foldl_connect hasked

end Model

end SystemSketch
