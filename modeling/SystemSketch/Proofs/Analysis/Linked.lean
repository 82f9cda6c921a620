import SystemSketch.Proofs.Analysis.Facts

/-!
# Calls of routes that a controller exports

The label of a controller shows its whole path, so a controller takes every call whose path its own
path begins with: the blanks and slashes around the route of its decorator are gone from both. If no
two files declare a class of the same name, the roster after the server files is the list of the
declared classes, and such a call is linked with the first declared controller that takes it.

## Main definitions

* `Capture.route` — the route in the decorator of a controller.
* `Project.Shows` — which server files declare a controller whose label shows a path.

## Main results

* `Recognition.apiRoute_infix_controllerLabel` — the label of a controller shows its path.
* `Project.answer?_afterServer` — the classes in file order answer every question.
* `Project.exists_first_of_shows` — the answer for a route is the first class that shows it.
* `analyze_links` — calls of an exported route are linked.
-/

namespace SystemSketch

/-! ### The path of a controller -/

/-- The route in the decorator of a controller: the first part of the match that is not empty. -/
def Capture.route (capture : Capture) : String :=
  (capture.groups.find? fun group => !group.isEmpty).getD ""

namespace Recognition

/-- **The label of a controller** shows the path of its route. -/
theorem apiRoute_infix_controllerLabel (className : String) (capture : Capture) :
    (apiRoute capture.route).toList <:+: (controllerLabel className capture).toList := by
  refine ⟨(className ++ "<br><small>").toList, "</small>".toList, ?_⟩
  rw [← String.toList_append, ← String.toList_append]
  rfl

/-- The marker of controllers is the only one for this kind. -/
theorem eq_controller_of_classify {text : String} {marker : Marker} {capture : Capture}
    (h : classify markers text = some (marker, capture)) (hkind : marker.kind = .controller) :
    marker = .controller := by
  have hmarker := mem_of_classify h
  simp only [markers, List.mem_cons, List.not_mem_nil, or_false] at hmarker
  rcases hmarker with rfl | rfl | rfl
  · rfl
  · cases hkind
  · cases hkind

end Recognition

namespace Project

variable {p : Project} {o : Outcome}

/-! ### The classes in file order -/

/-- A server file **shows** a path if it declares `c`, a controller whose label holds the path. -/
structure Shows (p : Project) (path : String) (file : SourceFile) (c : Component) : Prop where
  declares : (serverFacts p.rules Recognition.markers file).component? = some c
  kind : c.kind = .controller
  label : path.toList <:+: c.label.toList

/-- **The classes answer** every question in file order, if no two of them have the same name. -/
theorem answer?_afterServer (hnames : (p.declarations.map Component.id).Nodup) :
    p.afterServer.answer? = fun r => r.answerAmong? p.declarations := by
  have hsources : Model.Sources p.servers [] :=
    ⟨fun c hc => isClassName_of_mem_declarations hc, hnames,
      fun _ h => absurd h List.not_mem_nil, fun _ h => absurd h List.not_mem_nil⟩
  have hanswer := (Model.progress_of_interleaving hsources (.append p.servers [])).answer?_eq
  rw [List.map_nil, List.append_nil, List.foldl_map] at hanswer
  rw [afterServer_eq_foldl]
  exact hanswer

/-- The classes that show the path of a route are those that the question for it accepts. -/
theorem shows_iff_accepts {file : SourceFile} {c : Component} {route : String} (page : String) :
    p.Shows ("/api/" ++ route) file c ↔
      (serverFacts p.rules Recognition.markers file).component? = some c ∧
        (Reference.toController page route).accepts c = true := by
  rw [Reference.accepts_toController_iff]
  exact ⟨fun h => ⟨h.declares, h.kind, h.label⟩, fun ⟨hdeclares, hkind, hlabel⟩ =>
    ⟨hdeclares, hkind, hlabel⟩⟩

/-- **The first class** that shows the path of a route answers the question for it. -/
theorem exists_first_of_shows {file : SourceFile} {c : Component} {route : String}
    (hfile : file ∈ p.serverFiles) (h : p.Shows ("/api/" ++ route) file c) (page : String) :
    ∃ before first after d, p.serverFiles = before ++ first :: after ∧
      p.Shows ("/api/" ++ route) first d ∧
      (∀ f ∈ before, ∀ e, ¬p.Shows ("/api/" ++ route) f e) ∧
      (Reference.toController page route).answerAmong? p.declarations =
        some { source := page, target := d.id, label := "GET /api/" ++ route } := by
  let accepted (f : SourceFile) : Bool := (serverFacts p.rules Recognition.markers f).component?.any
    (Reference.toController page route).accepts
  obtain ⟨first, hfirst⟩ : ∃ first, p.serverFiles.find? accepted = some first := by
    rw [← Option.isSome_iff_exists, List.find?_isSome]
    obtain ⟨hc, haccepts⟩ := (shows_iff_accepts page).mp h
    exact ⟨file, hfile, Option.any_eq_true _ _ |>.mpr ⟨c, hc, haccepts⟩⟩
  obtain ⟨hany, before, after, hsplit, hbefore⟩ := List.find?_eq_some_iff_append.mp hfirst
  obtain ⟨d, hd, haccepts⟩ := Option.any_eq_true _ _ |>.mp hany
  refine ⟨before, first, after, d, hsplit, (shows_iff_accepts page).mpr ⟨hd, haccepts⟩,
    fun f hf e he => ?_, ?_⟩
  · obtain ⟨he, haccepts⟩ := (shows_iff_accepts page).mp he
    have hyes : accepted f = true := Option.any_eq_true _ _ |>.mpr ⟨e, he, haccepts⟩
    have hno := hbefore f hf
    rw [hyes] at hno
    cases hno
  · rw [Reference.answerAmong?, p.declarations_eq, List.find?_filterMap, hfirst, Option.bind_some,
      hd]
    rfl

/-- A page asks for every route that its text fetches. -/
theorem toController_mem_questions {page : SourceFile} {address route : String}
    (hpage : page ∈ p.clientFiles)
    (haddress : p.clientRoot.address p.rules.pageFilenames page.path = .ok address)
    (hroute : route ∈ Recognition.endpointRoots p.rules.apiBaseVariable page.text)
    (hne : route ≠ "") : .toController (pageId address) route ∈ p.questions := by
  have hfetched : route ∈ fetchedRoutes p.rules page.text := by
    rw [fetchedRoutes, List.mem_filter]
    exact ⟨hroute, by simpa using hne⟩
  have hfacts : (pageFacts p.clientRoot p.rules page).toOption =
      some ⟨⟨pageId address, .clientPage, pageLabel address, page.path⟩,
        pageReferences p.rules page.text (pageId address)⟩ := by
    rw [pageFacts, haddress]
    rfl
  refine List.mem_flatMap.mpr ⟨_, List.mem_filterMap.mpr ⟨page, hpage, hfacts⟩, ?_⟩
  exact List.mem_append_left _ (List.mem_map_of_mem hfetched)

/-- A file whose class a decorator makes a controller shows what the path of its route begins
with. -/
theorem shows_of_classify {file : SourceFile} {name path : String} {marker : Recognition.Marker}
    {capture : Capture} (hname : exportedName? file.text = some name)
    (hclass : Recognition.classify Recognition.markers file.text = some (marker, capture))
    (hkind : marker.kind = .controller)
    (hpath : path.toList <+: (Recognition.apiRoute capture.route).toList) :
    p.Shows path file ⟨name, .controller, Recognition.controllerLabel name capture, file.path⟩ := by
  obtain rfl := Recognition.eq_controller_of_classify hclass hkind
  refine ⟨?_, rfl, ?_⟩
  · rw [serverFacts, hname]
    dsimp only
    rw [serverComponent?, hclass]
    rfl
  · exact hpath.isInfix.trans (Recognition.apiRoute_infix_controllerLabel name capture)

end Project

/-- **Calls of an exported route are linked.** Take an analysis that succeeds, where no two server
files declare a class of the same name. If the path of some exported controller begins with a route
that some client file fetches, then no question for this route stays open, and the page of the file
is linked with the class of the first server file whose controller label shows the route. -/
theorem analyze_links {p : Project} {o : Outcome} (h : analyze p = .ok o)
    (hnames : (p.serverFiles.filterMap fun file =>
      (serverFacts p.rules Recognition.markers file).component?.map Component.id).Nodup)
    {file page : SourceFile} {name route : String} {marker : Recognition.Marker} {capture : Capture}
    (hfile : file ∈ p.serverFiles) (hname : exportedName? file.text = some name)
    (hclass : Recognition.classify Recognition.markers file.text = some (marker, capture))
    (hkind : marker.kind = .controller) (hpage : page ∈ p.clientFiles)
    (hroute : route ∈ Recognition.endpointRoots p.rules.apiBaseVariable page.text)
    (hne : route ≠ "")
    (hbegins : ("/api/" ++ route).toList <+: (Recognition.apiRoute capture.route).toList) :
    (∀ r ∈ o.model.pending, r.route ≠ some route) ∧
    ∃ before first after c address, p.serverFiles = before ++ first :: after ∧
      exportedName? first.text = some c.id ∧ p.Shows ("/api/" ++ route) first c ∧
      (∀ f ∈ before, ∀ d, ¬p.Shows ("/api/" ++ route) f d) ∧
      p.clientRoot.address p.rules.pageFilenames page.path = .ok address ∧
      { source := pageId address, target := c.id, label := "GET /api/" ++ route } ∈
        o.model.interactions := by
  have hdeclared : (p.declarations.map Component.id).Nodup := by
    rw [p.declarations_eq, List.map_filterMap]
    exact hnames
  have hanswer := Project.answer?_afterServer hdeclared
  have hshows := Project.shows_of_classify (p := p) hname hclass hkind hbegins
  have hfirst := Project.exists_first_of_shows hfile hshows
  obtain ⟨facts, hfacts⟩ := exists_pageFacts p.clientRoot p.rules
    (p.exists_analyze_iff.mp ⟨o, h⟩ page hpage)
  obtain ⟨address, haddress, -, -⟩ := pageFacts_eq_ok hfacts
  refine ⟨fun r hr heq => ?_, ?_⟩
  · -- Whichever page asks for the route, the same class answers.
    rw [Project.pending_model h, List.mem_filter, hanswer] at hr
    obtain ⟨hquestion, hnone⟩ := hr
    obtain ⟨asking, -, ⟨asked, rfl⟩ | rfl⟩ := Project.mem_questions_cases hquestion
    · obtain rfl : asked = route := Option.some.inj heq
      obtain ⟨-, -, -, c, -, -, -, hsome⟩ := hfirst asking.page.id
      dsimp only at hnone
      rw [hsome] at hnone
      cases hnone
    · cases heq
  · obtain ⟨before, first, after, c, hsplit, hc, hbefore, hsome⟩ := hfirst (pageId address)
    obtain ⟨className, hexported, marker', -, capture', rfl⟩ :=
      exists_of_component?_serverFacts hc.declares
    refine ⟨before, first, after, _, address, hsplit, hexported, hc, hbefore, haddress, ?_⟩
    rw [Project.interactions_model h, hanswer]
    refine List.mem_append_left _ (List.mem_append_right _ (List.mem_filterMap.mpr ⟨_, ?_, hsome⟩))
    exact Project.toController_mem_questions hpage haddress hroute hne

/-- A controller whose route is written with blanks and slashes. -/
def ordersFile : SourceFile :=
  ⟨"server/src/orders.controller.ts", "@Controller( ' /orders/ ' )\nexport class Orders {}"⟩

/-- A project with three controllers, two of which show `/api/ord`, and with a page that fetches
this beginning of a route. -/
def depot : Project where
  serverFiles :=
    [⟨"server/src/users.controller.ts", "@Controller('users')\nexport class Users {}"⟩,
      ⟨"server/src/archive.controller.ts",
        "@Controller(\"old/api/orders\")\nexport class Archive {}"⟩,
      ordersFile]
  clientFiles := [⟨"client/app/page.tsx", "fetch(`$\x7bapiUrl\x7d/api/ord?all`)"⟩]
  clientRoot := ⟨["work", "project"], "client/app"⟩

/-- The page of the depot is linked with the first controller that shows the route, which is not the
one whose path begins with it. -/
theorem analyze_links_depot :
    ∃ o marker capture page, analyze depot = .ok o ∧
      (depot.serverFiles.filterMap fun file =>
        (serverFacts depot.rules Recognition.markers file).component?.map Component.id).Nodup ∧
      ordersFile ∈ depot.serverFiles ∧ exportedName? ordersFile.text = some "Orders" ∧
      Recognition.classify Recognition.markers ordersFile.text = some (marker, capture) ∧
      marker.kind = .controller ∧ page ∈ depot.clientFiles ∧
      "ord" ∈ Recognition.endpointRoots depot.rules.apiBaseVariable page.text ∧
      ("/api/" ++ "ord").toList <+: (Recognition.apiRoute capture.route).toList ∧
      (∀ r ∈ o.model.pending, r.route ≠ some "ord") ∧
      { source := "Page(/)", target := "Archive", label := "GET /api/" ++ "ord" } ∈
        o.model.interactions := by
  have hlog : (analyze depot).map (fun o => o.model.interactions) =
      .ok [{ source := "Page(/)", target := "Archive", label := "GET /api/" ++ "ord" }] := by
    decide +kernel
  have hnames : (depot.serverFiles.filterMap fun file =>
      (serverFacts depot.rules Recognition.markers file).component?.map Component.id) =
      ["Users", "Archive", "Orders"] := by decide +kernel
  have hmatch : (Recognition.classify Recognition.markers ordersFile.text).map
      (fun found => (found.1.kind, Recognition.apiRoute found.2.route)) =
      some (.controller, "/api/orders") := by decide +kernel
  obtain ⟨⟨marker, capture⟩, hclass, hfound⟩ := Option.map_eq_some_iff.mp hmatch
  obtain ⟨hkind, hpath⟩ := Prod.mk.inj hfound
  have hnodup := hnames ▸ (by decide : ["Users", "Archive", "Orders"].Nodup)
  have hfile : ordersFile ∈ depot.serverFiles := by decide
  have hname : exportedName? ordersFile.text = some "Orders" := by decide +kernel
  have hroute : "ord" ∈ Recognition.endpointRoots depot.rules.apiBaseVariable
      "fetch(`$\x7bapiUrl\x7d/api/ord?all`)" := by decide +kernel
  have hbegins : ("/api/" ++ "ord").toList <+: (Recognition.apiRoute capture.route).toList := by
    rw [hpath]
    decide +kernel
  obtain ⟨o, h⟩ := depot.exists_analyze_iff.mpr (by decide)
  obtain ⟨hpending, -, -, -, c, address, -, -, -, -, -, hlinked⟩ := analyze_links h hnodup hfile
    hname hclass hkind (List.mem_singleton_self _) hroute (by decide) hbegins
  rw [h] at hlog
  simp only [Except.map, Except.ok.injEq] at hlog
  have hlink := hlinked
  rw [hlog, List.mem_singleton] at hlink
  exact ⟨o, marker, capture, _, h, hnodup, hfile, hname, hclass, hkind, List.mem_singleton_self _,
    hroute, hbegins, hpending, hlink ▸ hlinked⟩

end SystemSketch
