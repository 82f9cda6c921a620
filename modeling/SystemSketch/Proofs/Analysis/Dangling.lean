import SystemSketch.Proofs.Analysis.ClassOrder
import SystemSketch.Proofs.Validation.Account

/-!
# Which interactions can dangle

An interaction is appended when a file is read, and the components that are entered after it may
take the place of others. Pages are answered by the classes that all server files leave behind.
A page takes the place of pages only, and an actor that of a class of its name, so both ends of an
answer are still there in the end, and so are those of the arrow to the database. Only what a server
file says of its class can dangle. If no class bears the name of an actor, nothing takes the place
of a class any more, and every answer still ends at the controller or the gateway that gave it.

## Main results

* `Project.get?_model_of_isClassName` — what can take the place of a class.
* `Project.exists_page_of_mem_pages` — a page is never replaced by anything but a page.
* `Project.answer_cases` — what answers look like when they are given.
* `Project.draws_of_answer?`, `Project.draws_of_mem_databaseLink` — they are drawn in the end.
* `analyze_dangling` — which interactions of an analysis can dangle.
-/

namespace SystemSketch

namespace Project

variable {p : Project} {o : Outcome}

/-! ### What is replaced -/

/-- The names of the actors are names of classes. -/
theorem isClassName_actor : ∀ actor ∈ [Model.userActor, Model.databaseActor],
    IsClassName actor.id := by
  have hword : ∀ actor ∈ [Model.userActor, Model.databaseActor],
      actor.id.toList.all Text.isWord = true := by decide
  exact fun actor hactor => List.all_eq_true.mp (hword actor hactor)

/-- What the server files leave behind is a class that one of them exports. -/
theorem exists_exportedName?_of_mem_afterServer {c : Component}
    (hc : c ∈ p.afterServer.components.toList) :
    ∃ file ∈ p.serverFiles, exportedName? file.text = some c.id := by
  obtain ⟨file, hfile, hfacts⟩ :=
    exists_of_mem_declarations (p.records_afterServer.mem_history hc)
  obtain ⟨name, hname, marker, -, capture, rfl⟩ := exists_of_component?_serverFacts hfacts
  exact ⟨file, hfile, hname⟩

/-- **What can take the place of a class** after all server files is an actor of its name, and no
page. -/
theorem get?_model_of_isClassName (h : analyze p = .ok o) {id : String} (hid : IsClassName id) :
    o.model.get? id =
      (latest? [Model.userActor, Model.databaseActor] id).or (p.afterServer.get? id) := by
  have hpages : latest? (p.pages.map PageFacts.page) id = none :=
    latest?_eq_none_iff.mpr (p.notMem_pages_of_isClassName hid)
  rw [(records_model h).get?_eq, p.records_afterServer.get?_eq, latest?_append, latest?_append,
    hpages, Option.none_or]

/-- What the server files leave behind has a component in the end. -/
theorem has_of_mem_afterServer (h : analyze p = .ok o) {c : Component}
    (hc : c ∈ p.afterServer.components.toList) : o.model.has c.id = true := by
  have hhistory := p.records_afterServer.mem_history hc
  rw [Model.has, Keyed.contains_iff, (records_model h).mem_keys_iff]
  exact List.mem_map_of_mem (List.mem_append_left _ (List.mem_append_left _ hhistory))

/-- If no class bears the name of an actor, what the server files leave behind **stays**. -/
theorem get?_model_of_mem_afterServer (h : analyze p = .ok o)
    (hnames : ∀ file ∈ p.serverFiles, exportedName? file.text ≠ some Model.userId ∧
      exportedName? file.text ≠ some Model.databaseId) {c : Component}
    (hc : c ∈ p.afterServer.components.toList) : o.model.get? c.id = some c := by
  obtain ⟨file, hfile, hname⟩ := exists_exportedName?_of_mem_afterServer hc
  have hactors : latest? [Model.userActor, Model.databaseActor] c.id = none := by
    rw [latest?_eq_none_iff]
    intro hactor
    rcases List.mem_pair.mp hactor with huser | hdatabase
    · exact (hnames file hfile).1 (hname.trans (congrArg some huser))
    · exact (hnames file hfile).2 (hname.trans (congrArg some hdatabase))
  rw [get?_model_of_isClassName h (isClassName_of_exportedName? hname), hactors, Option.none_or]
  exact Keyed.get?_eq_some_iff.mpr ⟨hc, rfl⟩

/-- **A page is replaced by a page only.** -/
theorem exists_page_of_mem_pages (h : analyze p = .ok o) {facts : PageFacts}
    (hfacts : facts ∈ p.pages) :
    ∃ page ∈ o.model.ofKind .clientPage, page.id = facts.page.id := by
  have hid := (isPage_of_mem_pages hfacts).2
  have hactors : latest? [Model.userActor, Model.databaseActor] facts.page.id = none := by
    rw [latest?_eq_none_iff, List.mem_map]
    rintro ⟨actor, hactor, heq⟩
    exact (isClassName_actor actor hactor).ne hid heq.symm
  obtain ⟨page, hpage⟩ : ∃ page, latest? (p.pages.map PageFacts.page) facts.page.id = some page :=
    Option.ne_none_iff_exists'.mp fun hnone => latest?_eq_none_iff.mp hnone
      (List.mem_map_of_mem (List.mem_map_of_mem hfacts))
  have hget : o.model.get? facts.page.id = some page := by
    rw [(records_model h).get?_eq, latest?_append, latest?_append, hactors, hpage, Option.none_or,
      Option.some_or]
  obtain ⟨hmem, hpageid⟩ := Keyed.get?_eq_some_iff.mp hget
  obtain ⟨found, hfound, rfl⟩ := List.mem_map.mp (mem_of_latest? hpage)
  exact ⟨_, Model.mem_ofKind.mpr ⟨hmem, (isPage_of_mem_pages hfound).1⟩, hpageid⟩

/-! ### Answers -/

/-- **What answers look like**: they lead from a page to a controller that serves the route, or to a
gateway. -/
theorem answer_cases {r : Reference} (hr : r ∈ p.questions) {i : Interaction}
    (hi : p.afterServer.answer? r = some i) :
    ∃ facts ∈ p.pages, ∃ c ∈ p.afterServer.components.toList,
      (∃ route, c.kind = .controller ∧ ("/api/" ++ route).toList <:+: c.label.toList ∧
        i = { source := facts.page.id, target := c.id, label := "GET /api/" ++ route }) ∨
      (c.kind = .gateway ∧
        i = { source := facts.page.id, target := c.id, label := "connects to",
              isAsync := true }) := by
  obtain ⟨facts, hfacts, hasked⟩ := mem_questions_cases hr
  obtain ⟨c, hc, haccepts, rfl⟩ := Model.exists_of_answer?_eq_some hi
  refine ⟨facts, hfacts, c, hc, ?_⟩
  rcases hasked with ⟨route, rfl⟩ | rfl
  · rw [Reference.accepts_toController, Bool.and_eq_true, beq_iff_eq, Component.serves,
      Text.occursIn_iff] at haccepts
    exact Or.inl ⟨route, haccepts.1, haccepts.2, rfl⟩
  · rw [Reference.accepts_toGateway, beq_iff_eq] at haccepts
    exact Or.inr ⟨haccepts, rfl⟩

/-- An interaction that is labelled as an answer is one. -/
theorem exists_question_of_isAnswer (h : analyze p = .ok o) {i : Interaction}
    (hi : i ∈ o.model.interactions) (hanswer : i.isAnswer = true) :
    ∃ r ∈ p.questions, p.afterServer.answer? r = some i := by
  have hmem : i ∈ o.model.interactions.filter Interaction.isAnswer :=
    List.mem_filter.mpr ⟨hi, hanswer⟩
  rw [filter_isAnswer_model h] at hmem
  exact List.mem_filterMap.mp hmem

/-! ### What is drawn in the end -/

/-- **An answer is drawn**, and leads from a page. -/
theorem draws_of_answer? (h : analyze p = .ok o) {r : Reference} (hr : r ∈ p.questions)
    {i : Interaction} (hi : p.afterServer.answer? r = some i) :
    o.model.draws i = true ∧ ∃ page ∈ o.model.ofKind .clientPage, page.id = i.source := by
  obtain ⟨facts, hfacts, c, hc, hcase⟩ := answer_cases hr hi
  have hends : i.source = facts.page.id ∧ i.target = c.id := by
    rcases hcase with ⟨route, -, -, rfl⟩ | ⟨-, rfl⟩ <;> exact ⟨rfl, rfl⟩
  obtain ⟨page, hpage, hpageid⟩ := exists_page_of_mem_pages h hfacts
  rw [Model.draws, hends.1, hends.2, Bool.and_eq_true]
  refine ⟨⟨?_, has_of_mem_afterServer h hc⟩, page, hpage, hpageid⟩
  rw [← hpageid]
  exact Model.has_of_mem (Model.mem_ofKind.mp hpage).1

/-- **The arrow to the database** is drawn. -/
theorem draws_of_mem_databaseLink (h : analyze p = .ok o) {i : Interaction}
    (hi : i ∈ o.model.databaseLink p.rules) :
    o.model.draws i = true ∧
      i = { source := p.rules.persistenceService, target := Model.databaseId,
            label := "queries" } := by
  rw [Model.databaseLink] at hi
  split at hi
  · next hhas =>
    obtain rfl := List.mem_singleton.mp hi
    refine ⟨?_, rfl⟩
    rw [Model.draws, hhas, Model.has_of_get? (hasActors_model h).database]
    rfl
  · exact absurd hi List.not_mem_nil

/-- **What dangles** is what a server file says of its class. -/
theorem exists_file_of_mem_dangling (h : analyze p = .ok o) {i : Interaction}
    (hi : i ∈ o.model.dangling) :
    (i.label = "injects" ∨ i.label = "uses") ∧
      ∃ file ∈ p.serverFiles, exportedName? file.text = some i.source := by
  obtain ⟨hi, hdangles⟩ := List.mem_filter.mp hi
  rw [Bool.not_eq_true'] at hdangles
  rcases mem_interactions_model_cases h hi with ⟨file, hfile, hi⟩ | ⟨r, hr, hi⟩ | hlink
  · obtain ⟨name, hname, ⟨dependency, -, rfl⟩ | rfl⟩ := exists_of_mem_interactions_serverFacts hi
    · exact ⟨Or.inl rfl, file, hfile, hname⟩
    · exact ⟨Or.inr rfl, file, hfile, hname⟩
  · rw [(draws_of_answer? h hr hi).1] at hdangles
    exact Bool.noConfusion hdangles
  · rw [(draws_of_mem_databaseLink h hlink).1] at hdangles
    exact Bool.noConfusion hdangles

/-- What is labelled as the arrow to the database is this arrow. -/
theorem mem_databaseLink_of_label (h : analyze p = .ok o) {i : Interaction}
    (hi : i ∈ o.model.interactions) (hlabel : i.label = "queries") :
    i ∈ o.model.databaseLink p.rules := by
  rcases mem_interactions_model_cases h hi with ⟨file, hfile, hi⟩ | ⟨r, hr, hi⟩ | hlink
  · obtain ⟨name, -, ⟨dependency, -, rfl⟩ | rfl⟩ := exists_of_mem_interactions_serverFacts hi
    · exact absurd (show "injects" = "queries" from hlabel) (by decide)
    · exact absurd (show "uses" = "queries" from hlabel) (by decide)
  · have hanswer := isAnswer_of_mem_answers (List.mem_filterMap.mpr ⟨r, hr, hi⟩)
    rw [Interaction.isAnswer, hlabel] at hanswer
    exact absurd hanswer (by decide)
  · exact hlink

/-! ### Where answers end -/

/-- If no class bears the name of an actor, what is labelled with a route ends at **a controller
that serves it**. -/
theorem exists_controller_of_label (h : analyze p = .ok o)
    (hnames : ∀ file ∈ p.serverFiles, exportedName? file.text ≠ some Model.userId ∧
      exportedName? file.text ≠ some Model.databaseId)
    {i : Interaction} (hi : i ∈ o.model.interactions) {route : String}
    (hlabel : i.label = "GET /api/" ++ route) :
    ∃ c ∈ o.model.ofKind .controller, c.id = i.target ∧
      ("/api/" ++ route).toList <:+: c.label.toList := by
  obtain ⟨r, hr, hanswer⟩ := exists_question_of_isAnswer h hi
    (Interaction.isAnswer_of_label (Or.inl ⟨route, hlabel⟩))
  obtain ⟨facts, -, c, hc, ⟨asked, hkind, hserves, rfl⟩ | ⟨-, rfl⟩⟩ := answer_cases hr hanswer
  · obtain ⟨hmem, -⟩ := Keyed.get?_eq_some_iff.mp (get?_model_of_mem_afterServer h hnames hc)
    obtain rfl : asked = route := (String.append_right_inj _).mp hlabel
    exact ⟨c, Model.mem_ofKind.mpr ⟨hmem, hkind⟩, rfl, hserves⟩
  · have hfirst := head?_routeLabel route
    rw [show "GET /api/" ++ route = "connects to" from hlabel.symm] at hfirst
    exact absurd hfirst (by decide)

/-- If no class bears the name of an actor, what is labelled as a connection is asynchronous and
ends at **a gateway**. -/
theorem exists_gateway_of_label (h : analyze p = .ok o)
    (hnames : ∀ file ∈ p.serverFiles, exportedName? file.text ≠ some Model.userId ∧
      exportedName? file.text ≠ some Model.databaseId)
    {i : Interaction} (hi : i ∈ o.model.interactions) (hlabel : i.label = "connects to") :
    i.isAsync = true ∧ ∃ c ∈ o.model.ofKind .gateway, c.id = i.target := by
  obtain ⟨r, hr, hanswer⟩ :=
    exists_question_of_isAnswer h hi (Interaction.isAnswer_of_label (Or.inr hlabel))
  obtain ⟨facts, -, c, hc, ⟨asked, -, -, rfl⟩ | ⟨hkind, rfl⟩⟩ := answer_cases hr hanswer
  · have hfirst := head?_routeLabel asked
    rw [show "GET /api/" ++ asked = "connects to" from hlabel] at hfirst
    exact absurd hfirst (by decide)
  · obtain ⟨hmem, -⟩ := Keyed.get?_eq_some_iff.mp (get?_model_of_mem_afterServer h hnames hc)
    exact ⟨rfl, c, Model.mem_ofKind.mpr ⟨hmem, hkind⟩, rfl⟩

end Project

/-! ### The interactions of an analysis -/

/-- **Only what a server file says can dangle.** A dangling interaction of an analysis is labelled
`injects` or `uses`, and its source is the exported class of a server file. Every interaction with
the label of an answer is drawn, and its source is a page; the arrow to the database is drawn. If no
server file exports a class with the name of an actor, the interactions with the label of a route
end at a controller whose label shows the route, and those with the label of a connection are
asynchronous and end at a gateway. -/
theorem analyze_dangling {p : Project} {o : Outcome} (h : analyze p = .ok o) :
    (∀ i ∈ o.model.dangling, (i.label = "injects" ∨ i.label = "uses") ∧
      ∃ file ∈ p.serverFiles, exportedName? file.text = some i.source) ∧
    (∀ i ∈ o.model.interactions,
      (∃ route, i.label = "GET /api/" ++ route) ∨ i.label = "connects to" →
        i ∈ o.model.renderable ∧ ∃ page ∈ o.model.ofKind .clientPage, page.id = i.source) ∧
    (∀ i ∈ o.model.interactions, i.label = "queries" →
      i ∈ o.model.renderable ∧ i.source = p.rules.persistenceService ∧ i.target = "Database") ∧
    ((∀ file ∈ p.serverFiles, exportedName? file.text ≠ some "User" ∧
        exportedName? file.text ≠ some "Database") →
      (∀ i ∈ o.model.interactions, ∀ route, i.label = "GET /api/" ++ route →
        ∃ c ∈ o.model.ofKind .controller, c.id = i.target ∧
          ("/api/" ++ route).toList <:+: c.label.toList) ∧
      ∀ i ∈ o.model.interactions, i.label = "connects to" →
        i.isAsync = true ∧ ∃ c ∈ o.model.ofKind .gateway, c.id = i.target) := by
  refine ⟨fun i hi => Project.exists_file_of_mem_dangling h hi, fun i hi hlabel => ?_,
    fun i hi hlabel => ?_, fun hnames => ⟨fun i hi route hlabel => ?_, fun i hi hlabel => ?_⟩⟩
  · obtain ⟨r, hr, hanswer⟩ :=
      Project.exists_question_of_isAnswer h hi (Interaction.isAnswer_of_label hlabel)
    obtain ⟨hdraws, hpage⟩ := Project.draws_of_answer? h hr hanswer
    exact ⟨List.mem_filter.mpr ⟨hi, hdraws⟩, hpage⟩
  · have hlink := Project.mem_databaseLink_of_label h hi hlabel
    obtain ⟨hdraws, rfl⟩ := Project.draws_of_mem_databaseLink h hlink
    exact ⟨List.mem_filter.mpr ⟨hi, hdraws⟩, rfl, rfl⟩
  · exact Project.exists_controller_of_label h hnames hi hlabel
  · exact Project.exists_gateway_of_label h hnames hi hlabel

/-- A project with a page that calls a controller and a gateway, and with a class that is given what
no file declares. -/
def bazaar : Project where
  serverFiles :=
    [⟨"server/src/prices.controller.ts",
        "@Controller('prices')\nexport class Prices { constructor(private s: Stock) {} }"⟩,
      ⟨"server/src/news.gateway.ts", "@WebSocketGateway()\nexport class News {}"⟩,
      ⟨"server/src/prisma.service.ts", "@Injectable()\nexport class PrismaService {}"⟩]
  clientFiles :=
    [⟨"client/app/page.tsx", "fetch(`$\x7bapiUrl\x7d/api/prices/7`); useSocket();"⟩]
  clientRoot := ⟨["work", "project"], "client/app"⟩

/-- One interaction of the bazaar dangles; the others are drawn, and end where they should. -/
theorem analyze_dangling_bazaar :
    ∃ o, analyze bazaar = .ok o ∧
      o.model.dangling = [{ source := "Prices", target := "Stock", label := "injects" }] ∧
      (∃ file ∈ bazaar.serverFiles, exportedName? file.text = some "Prices") ∧
      (∃ i ∈ o.model.renderable, i.label = "GET /api/" ++ "prices" ∧
        ∃ c ∈ o.model.ofKind .controller, c.id = i.target ∧
          ("/api/" ++ "prices").toList <:+: c.label.toList) ∧
      (∃ i ∈ o.model.renderable, i.label = "connects to" ∧ i.isAsync = true ∧
        ∃ c ∈ o.model.ofKind .gateway, c.id = i.target) ∧
      ∃ i ∈ o.model.renderable, i.label = "queries" ∧ i.source = "PrismaService" := by
  have hfacts : (analyze bazaar).map (fun o => (o.model.dangling, o.model.interactions)) =
      .ok ([{ source := "Prices", target := "Stock", label := "injects" }],
        [{ source := "Prices", target := "Stock", label := "injects" },
          { source := "PrismaService", target := "PrismaService", label := "uses" },
          { source := "Page(/)", target := "Prices", label := "GET /api/" ++ "prices" },
          { source := "Page(/)", target := "News", label := "connects to", isAsync := true },
          { source := "PrismaService", target := "Database", label := "queries" }]) := by
    decide +kernel
  obtain ⟨o, h⟩ := bazaar.exists_analyze_iff.mpr (by decide)
  rw [h] at hfacts
  simp only [Except.map, Except.ok.injEq, Prod.mk.injEq] at hfacts
  obtain ⟨hdangling, hlog⟩ := hfacts
  obtain ⟨hserver, hanswers, hlink, hends⟩ := analyze_dangling h
  obtain ⟨hroutes, hgateways⟩ := hends (by decide +kernel)
  refine ⟨o, h, hdangling, (hserver _ (by rw [hdangling]; exact List.mem_cons_self)).2, ?_, ?_, ?_⟩
  · have hi : { source := "Page(/)", target := "Prices", label := "GET /api/" ++ "prices" } ∈
        o.model.interactions := by rw [hlog]; decide
    exact ⟨_, (hanswers _ hi (Or.inl ⟨"prices", rfl⟩)).1, rfl, hroutes _ hi "prices" rfl⟩
  · have hi : { source := "Page(/)", target := "News", label := "connects to", isAsync := true } ∈
        o.model.interactions := by rw [hlog]; decide
    exact ⟨_, (hanswers _ hi (Or.inr rfl)).1, rfl, hgateways _ hi rfl⟩
  · have hi : { source := "PrismaService", target := "Database", label := "queries" } ∈
        o.model.interactions := by rw [hlog]; decide
    exact ⟨_, (hlink _ hi rfl).1, rfl, rfl⟩

end SystemSketch
