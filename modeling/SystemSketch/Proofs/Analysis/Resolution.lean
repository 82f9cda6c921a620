import SystemSketch.Analysis
import SystemSketch.Proofs.Extraction.Identifier

/-!
# Asking open questions again

An analysis takes up every server file before any client file, so each question of a page meets
every controller and every gateway that there will ever be. Asking the open questions again
therefore finds nothing new: the two settings of an analysis give the same model, the same report
and the same drawing, and differ in one line of the log.

## Main results

* `Project.settled_extracted` — the model after all files is settled.
* `Project.settled_model` — so is the model of a project.
* `analyze_resolving` — asking again changes nothing but the log, and what stays open has no
  answer in the model of the project.
-/

namespace SystemSketch

/-- What every step of a run keeps, the whole run keeps, if it comes to an end. -/
theorem foldlM_invariant {ε σ α : Type} {step : σ → α → Except ε σ} {P : σ → Prop}
    (hstep : ∀ s a s', P s → step s a = .ok s' → P s') {as : List α} {s s' : σ} (hs : P s)
    (h : as.foldlM step s = .ok s') : P s' := by
  induction as generalizing s with
  | nil =>
    obtain rfl := Except.ok.inj h
    exact hs
  | cons a rest ih =>
    rw [List.foldlM_cons] at h
    cases ha : step s a with
    | error e => rw [ha] at h; cases h
    | ok t =>
      rw [ha] at h
      exact ih (hstep s a t hs ha) h

/-- A model that every question of a page leaves settled, whatever pages come next. -/
def Model.Ready (m : Model) : Prop :=
  m.Apart ∧ m.Settled

namespace Project

variable (p : Project)

/-! ### The model after the server files -/

/-- The model after all server files. -/
def afterServer : Model :=
  p.serverFiles.foldl (Model.analyzeServer p.rules Recognition.markers) .empty

/-- The model after all files is made by the client files from the one after the server files. -/
theorem extracted_eq_foldlM :
    p.extracted = p.clientFiles.foldlM (Model.analyzePage p.clientRoot p.rules) p.afterServer := by
  simp only [extracted, runStages, readingStages, List.foldlM_cons, List.foldlM_nil, runStage,
    bind, Except.bind, afterServer]
  split
  · next h => rw [h]
  · next h => rw [h]; rfl

/-- Server files leave the components apart and ask nothing. -/
theorem ready_afterServer : p.afterServer.Ready := by
  suffices h : ∀ (files : List SourceFile) (m : Model), m.Apart → m.pending = [] →
      let m' := files.foldl (Model.analyzeServer p.rules Recognition.markers) m
      m'.Apart ∧ m'.pending = [] by
    obtain ⟨hapart, hpending⟩ := h p.serverFiles .empty Model.apart_empty rfl
    refine ⟨hapart, ⟨fun r hr => ?_, fun r hr => ?_⟩⟩ <;>
      exact absurd (hpending ▸ hr : r ∈ []) List.not_mem_nil
  intro files
  induction files with
  | nil => exact fun m hapart hpending => ⟨hapart, hpending⟩
  | cons file rest ih =>
    intro m hapart hpending
    refine ih _ (hapart.recordServer fun c hc => isClassName_of_serverFacts hc) ?_
    rw [Model.analyzeServer, Model.recordServer, Model.foldl_append]
    cases (serverFacts p.rules Recognition.markers file).component? <;> exact hpending

/-! ### The model after all files -/

/-- A client file keeps a model ready. -/
theorem ready_analyzePage {m m' : Model} {file : SourceFile} (hm : m.Ready)
    (h : m.analyzePage p.clientRoot p.rules file = .ok m') : m'.Ready := by
  rw [Model.analyzePage] at h
  cases hfacts : pageFacts p.clientRoot p.rules file with
  | error e => rw [hfacts] at h; cases h
  | ok facts =>
    rw [hfacts] at h
    obtain rfl := Except.ok.inj h
    obtain ⟨address, -, hpage, hreferences⟩ := pageFacts_eq_ok hfacts
    have hkind : facts.page.kind = .clientPage := by rw [hpage]
    refine ⟨hm.1.recordPage hkind, hm.2.recordPage hkind fun r hr => ?_⟩
    rw [hreferences] at hr
    exact asked_of_mem_pageReferences hr

/-- **The model after all files is settled.** -/
theorem settled_extracted {p : Project} {m : Model} (h : p.extracted = .ok m) : m.Settled := by
  rw [extracted_eq_foldlM] at h
  exact (foldlM_invariant (fun _ _ _ => p.ready_analyzePage) p.ready_afterServer h).2

/-- The closing stages without asking again. -/
theorem runStages_closing_of_not_resolving (h : p.resolvePending = false) (m : Model) :
    p.runStages m p.closingStages = .ok (m.synthesize p.rules) := by
  simp [closingStages, h, runStages, runStage, List.foldlM, bind, Except.bind, pure, Except.pure]

/-- The closing stages with asking again. -/
theorem runStages_closing_of_resolving (h : p.resolvePending = true) (m : Model) :
    p.runStages m p.closingStages = .ok (m.resolvePending.synthesize p.rules) := by
  simp [closingStages, h, runStages, runStage, List.foldlM, bind, Except.bind, pure, Except.pure]

/-- The closing stages add the actors to a settled model and nothing else. -/
theorem runStages_closing_of_settled {m : Model} (h : m.Settled) :
    p.runStages m p.closingStages = .ok (m.synthesize p.rules) := by
  cases hp : p.resolvePending with
  | false => exact p.runStages_closing_of_not_resolving hp m
  | true => rw [p.runStages_closing_of_resolving hp m, Model.resolvePending_of_settled h]

end Project

/-! ### The outcome -/

/-- The outcome of an analysis whose files give `m`. -/
theorem analyze_of_extracted {p : Project} {m : Model} (h : p.extracted = .ok m) :
    let final := m.synthesize p.rules
    analyze p = .ok
      { model := final
        report := Validation.validate final
        diagram := Diagram.render final
        log :=
          (if p.resolvePending then [resolutionLine m] else []) ++
            [sizeLine p final, "[VALIDATOR] " ++ (Validation.validate final).summary] ++
            final.diagnostics.map diagnosticLine } := by
  simp only [analyze, h, bind, Except.bind, pure, Except.pure,
    p.runStages_closing_of_settled (Project.settled_extracted h)]

/-- An analysis fails exactly as the reading of its files does. -/
theorem analyze_of_extracted_error {p : Project} {e : PageError} (h : p.extracted = .error e) :
    analyze p = .error e := by
  simp only [analyze, h, bind, Except.bind]

/-- An analysis that succeeds has read its files, and its model is settled. -/
theorem settled_of_analyze {p : Project} {o : Outcome} (h : analyze p = .ok o) :
    o.model.Settled := by
  cases hm : p.extracted with
  | error e => rw [analyze_of_extracted_error hm] at h; cases h
  | ok m =>
    rw [analyze_of_extracted hm] at h
    obtain rfl := Except.ok.inj h
    exact (Project.settled_extracted hm).synthesize p.rules

/-- The line about the resolution says that nothing was resolved. -/
theorem resolutionLine_of_settled {m : Model} (h : m.Settled) :
    resolutionLine m = "[PIPELINE] Resolution pass: 0 resolved, " ++
      toString m.pending.length ++ " still pending" := by
  have hzero : "[PIPELINE] Resolution pass: " ++ toString 0 ++ " resolved, " =
      "[PIPELINE] Resolution pass: 0 resolved, " := by decide
  delta resolutionLine
  rw [Model.resolvedCount_of_settled h, Model.resolvePending_of_settled h, hzero]

/-- Synthesis asks nothing. -/
theorem Model.pending_synthesize (rules : Rules) (m : Model) :
    (m.synthesize rules).pending = m.pending := by
  rw [synthesize, linkPersistence]
  split <;> rfl

/-- **Asking again changes nothing.** For every project, the analysis that asks its open questions
again fails in the same way, or gives the same model, report and drawing as the one that does not;
all it adds is the line that nothing was resolved. The pass over the open questions answers none.
What stays open in the model of a project is a page's question for a controller, and then no
controller there shows its route, or one for the gateway, and then there is no gateway. -/
theorem analyze_resolving (p : Project) :
    (analyze { p with resolvePending := true } =
      (analyze { p with resolvePending := false }).map fun o =>
        { o with
          log := ("[PIPELINE] Resolution pass: 0 resolved, " ++
            toString o.model.pending.length ++ " still pending") :: o.log }) ∧
    (∀ m, p.extracted = .ok m → m.resolvedCount = 0 ∧ m.resolvePending = m) ∧
    ∀ o, analyze p = .ok o → ∀ r ∈ o.model.pending,
      (∃ page route, r = .toController page route ∧
        ∀ c ∈ o.model.ofKind .controller, ¬("/api/" ++ route).toList <:+: c.label.toList) ∨
      ∃ page, r = .toGateway page ∧ o.model.ofKind .gateway = [] := by
  refine ⟨?_, fun m hm => ?_, fun o ho r hr => ?_⟩
  · cases hm : p.extracted with
    | error e =>
      rw [analyze_of_extracted_error (p := { p with resolvePending := true }) hm,
        analyze_of_extracted_error (p := { p with resolvePending := false }) hm]
      rfl
    | ok m =>
      rw [analyze_of_extracted (p := { p with resolvePending := true }) hm,
        analyze_of_extracted (p := { p with resolvePending := false }) hm]
      simp only [Except.map, if_true, Bool.false_eq_true, if_false,
        resolutionLine_of_settled (Project.settled_extracted hm), Model.pending_synthesize]
      rfl
  · have hsettled := Project.settled_extracted hm
    exact ⟨Model.resolvedCount_of_settled hsettled, Model.resolvePending_of_settled hsettled⟩
  · have hsettled := settled_of_analyze ho
    have hnone := hsettled.unanswered r hr
    rcases hsettled.asked r hr with ⟨page, route, rfl⟩ | ⟨page, rfl⟩
    · refine Or.inl ⟨page, route, rfl, fun c hc => ?_⟩
      obtain ⟨hmem, hkind⟩ := List.mem_filter.mp hc
      have haccepts := hnone c hmem
      rw [Reference.accepts_toController, hkind, Bool.true_and] at haccepts
      exact Component.serves_eq_false_iff.mp haccepts
    · refine Or.inr ⟨page, rfl, List.filter_eq_nil_iff.mpr fun c hc hkind => ?_⟩
      have haccepts := hnone c hc
      rw [Reference.accepts_toGateway, hkind] at haccepts
      cases haccepts

/-- A project with a page that asks for a route no controller serves, and for a gateway that is
not there. -/
def shop : Project where
  serverFiles :=
    [⟨"server/src/cart.controller.ts", "@Controller('cart')\nexport class CartController {}"⟩]
  clientFiles :=
    [⟨"client/app/shop/page.tsx", "fetch(`$\x7bapiUrl\x7d/api/orders/7`); useSocket();"⟩]
  clientRoot := ⟨["work", "project"], "client/app"⟩

/-- Both questions of the shop stay open, next to a controller of another route. -/
theorem shop_resolving :
    ∃ m o, shop.extracted = .ok m ∧ m.resolvedCount = 0 ∧ analyze shop = .ok o ∧
      Reference.toController "Page(shop)" "orders" ∈ o.model.pending ∧
      (∀ c ∈ o.model.ofKind .controller, ¬"/api/orders".toList <:+: c.label.toList) ∧
      Reference.toGateway "Page(shop)" ∈ o.model.pending ∧ o.model.ofKind .gateway = [] := by
  have hpending : (analyze shop).map (fun o => o.model.pending) =
      .ok [.toController "Page(shop)" "orders", .toGateway "Page(shop)"] := by decide +kernel
  obtain ⟨-, hresolved, hopen⟩ := analyze_resolving shop
  cases hm : shop.extracted with
  | error e => rw [analyze_of_extracted_error hm] at hpending; cases hpending
  | ok m =>
    have ho := analyze_of_extracted hm
    rw [ho] at hpending
    have hlist : (m.synthesize shop.rules).pending =
        [.toController "Page(shop)" "orders", .toGateway "Page(shop)"] := Except.ok.inj hpending
    have hroute : Reference.toController "Page(shop)" "orders" ∈
        (m.synthesize shop.rules).pending := by simp [hlist]
    have hgateway : Reference.toGateway "Page(shop)" ∈
        (m.synthesize shop.rules).pending := by simp [hlist]
    refine ⟨m, _, rfl, (hresolved m hm).1, ho, hroute, ?_, hgateway, ?_⟩
    · rcases hopen _ ho _ hroute with ⟨page, route, heq, hnone⟩ | ⟨page, heq, -⟩
      · obtain rfl : "orders" = route := Option.some.inj (congrArg Reference.route heq)
        exact hnone
      · cases heq
    · rcases hopen _ ho _ hgateway with ⟨page, route, heq, -⟩ | ⟨page, -, hnone⟩
      · cases heq
      · exact hnone

end SystemSketch
