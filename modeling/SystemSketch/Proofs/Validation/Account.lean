import SystemSketch.Proofs.Validation.Agreement
import SystemSketch.Proofs.Validation.Verdict

/-!
# What a report accounts for

An analysis ends with the synthesis, which adds the two actors that a drawing must have, whatever
the files call their classes. So its report never finds an error. Every component is of one kind and
every interaction is drawn or not, and what the report counts adds up to what the model holds: to
the components but for the two actors, to the interactions, to the remarks about collisions.

## Main results

* `Model.ofKind_eq_singleton` — an actor is the only component of its kind.
* `Model.size_eq_add_ofKind`, `Model.length_interactions` — the parts add up to the whole.
* `Validation.severity_eq_error_iff`, `Validation.isValid_validate` — when a report finds an error.
* `Project.exists_synthesize` — the last stage of an analysis is the synthesis.
* `analyze_accounts` — what the report of an analysis accounts for.
-/

namespace SystemSketch

/-! ### Parts of a model -/

namespace Model

variable {m : Model}

/-- A component that is found and that all of its kind are equal to is the only one of its kind. -/
theorem ofKind_eq_singleton {c : Component} (hget : m.get? c.id = some c)
    (honly : ∀ d ∈ m.components.toList, d.kind = c.kind → d = c) : m.ofKind c.kind = [c] := by
  obtain ⟨hc, -⟩ := Keyed.get?_eq_some_iff.mp hget
  rw [ofKind, ← Keyed.filter_key hc]
  refine List.filter_congr fun d hd => ?_
  rw [Bool.eq_iff_iff, beq_iff_eq, beq_iff_eq]
  constructor
  · exact fun hkind => congrArg Component.id (honly d hd hkind)
  · intro hid
    by_contra hkind
    exact ne_of_get?_of_kind hget hd hkind hid

/-- **Every component is of one kind.** -/
theorem size_eq_add_ofKind (m : Model) :
    m.components.size =
      (m.ofKind .clientPage).length + (m.ofKind .controller).length +
        (m.ofKind .service).length + (m.ofKind .gateway).length +
        (m.ofKind .user).length + (m.ofKind .database).length := by
  simp only [Keyed.size, ofKind, ← List.countP_eq_length_filter]
  induction m.components.toList with
  | nil => rfl
  | cons c rest ih =>
    simp only [List.countP_cons, List.length_cons, ih]
    cases c.kind <;> simp <;> omega

/-- **Every interaction is drawn or not.** -/
theorem length_interactions (m : Model) :
    m.interactions.length = m.renderable.length + m.dangling.length :=
  List.length_eq_length_filter_add m.draws

end Model

/-! ### Errors and remarks in a report -/

namespace Validation

/-- Only a missing actor is an error. -/
theorem severity_eq_error_iff {issue : Issue} :
    issue.severity = .error ↔ issue.code = "MISSING_ACTOR" := by
  cases issue <;> simp [Issue.severity, Issue.code]

variable {m : Model}

/-- No actor is missing from a model with both. -/
theorem missingActors_eq_nil (h : m.HasActors) : missingActors m = [] := by
  have huser := Model.has_of_get? h.user
  have hdatabase := Model.has_of_get? h.database
  simp [missingActors, requiredActors, huser, hdatabase]

/-- The report of a model with both actors misses none. -/
theorem code_ne_missingActor (h : m.HasActors) :
    ∀ issue ∈ issues m, issue.code ≠ "MISSING_ACTOR" := by
  have hfamily := filter_code m "MISSING_ACTOR" (missingActors m) (by simp [families])
  rw [missingActors_eq_nil h, List.filter_eq_nil_iff] at hfamily
  exact fun issue hissue hcode => hfamily issue hissue (beq_iff_eq.mpr hcode)

/-- **The report of a model with both actors** finds no error. -/
theorem severity_ne_error (h : m.HasActors) : ∀ issue ∈ issues m, issue.severity ≠ .error :=
  fun issue hissue herror => code_ne_missingActor h issue hissue (severity_eq_error_iff.mp herror)

/-- Without strictness, a model with both actors is valid. -/
theorem isValid_validate (h : m.HasActors) : (validate m).isValid = true :=
  isValid_validate_iff.mpr (Report.count_eq_zero_iff.mpr (severity_ne_error h))

/-- A model with both actors is complete exactly if every interaction is drawn. -/
theorem isComplete_validate_iff (h : m.HasActors) :
    (validate m).isComplete = true ↔ (validate m).stats.danglingInteractions = 0 := by
  have hnone : ((validate m).issues.any fun issue => issue.severity == .error) = false := by
    rw [List.any_eq_false]
    exact fun issue hissue herror => severity_ne_error h issue hissue (beq_iff_eq.mp herror)
  rw [Report.isComplete, hnone, Bool.not_false, Bool.true_and, beq_iff_eq]

/-- The interactions that are not drawn are counted by subtraction, and reported one by one. -/
theorem danglingInteractions_stats (m : Model) :
    (stats m).danglingInteractions =
      (issues m).countP fun issue => issue.code == "DANGLING_INTERACTION" := by
  have hlength := m.length_interactions
  rw [List.countP_eq_length_filter,
    filter_code m _ (danglingInteractions m) (by simp [families]), danglingInteractions,
    List.length_map, stats]
  dsimp only
  omega

/-- **Collisions are reported one by one**, in the words of the remarks about them. -/
theorem map_filter_collision (m : Model) :
    ((issues m).filter fun issue => issue.code == "IDENTIFIER_COLLISION").map
        (fun issue => (issue.severity.name, issue.code, issue.message, issue.nodeId?)) =
      m.diagnostics.map fun d => (d.level, d.code, d.message, some d.objectId) := by
  rw [filter_code m _ (collisions m) (by simp [families]), collisions, Model.diagnostics,
    List.map_map, List.map_map]
  rfl

end Validation

/-! ### The end of an analysis -/

namespace Project

variable {p : Project} {o : Outcome}

/-- **The last stage** of an analysis is the synthesis, which appends at most the arrow to the
database. -/
theorem exists_synthesize (h : analyze p = .ok o) :
    ∃ before, p.runStages .empty p.stages.dropLast = .ok before ∧
      o.model = before.synthesize p.rules ∧
      o.model.interactions = before.interactions ++ o.model.databaseLink p.rules := by
  cases hm : p.extracted with
  | error e => rw [analyze_of_extracted_error hm] at h; cases h
  | ok m =>
    rw [analyze_of_extracted hm] at h
    obtain rfl := Except.ok.inj h
    refine ⟨m, ?_, rfl, Model.interactions_synthesize p.rules m⟩
    have hstages : p.stages.dropLast =
        readingStages ++ if p.resolvePending then [.resolution] else [] := by
      rw [stages, closingStages, ← List.append_assoc, List.dropLast_concat]
    rw [hstages, runStages, List.foldlM_append, ← runStages, ← extracted, hm]
    cases p.resolvePending with
    | false => rfl
    | true => exact congrArg Except.ok (Model.resolvePending_of_settled (settled_extracted hm))

/-- The actors of an analysis. -/
theorem hasActors_model (h : analyze p = .ok o) : o.model.HasActors := by
  rw [model_eq h]
  exact Model.hasActors_synthesize p.rules _

/-- **No class and no page is an actor**, whatever it is called: a component of another kind than
theirs is one of the actors. -/
theorem eq_actor_of_kind (h : analyze p = .ok o) {c : Component}
    (hc : c ∈ o.model.components.toList) (hkind : c.kind = .user ∨ c.kind = .database) :
    c = Model.userActor ∨ c = Model.databaseActor := by
  rcases mem_model_cases h hc with hclass | ⟨facts, hfacts, rfl⟩ | hactor
  · have hclass := kind_of_mem_declarations hclass
    rcases hkind with hkind | hkind <;> rw [hkind] at hclass <;> exact absurd hclass (by decide)
  · have hpage := (isPage_of_mem_pages hfacts).1
    rcases hkind with hkind | hkind <;> rw [hkind] at hpage <;> cases hpage
  · exact hactor

/-- The user is the only component of its kind. -/
theorem ofKind_user (h : analyze p = .ok o) : o.model.ofKind .user = [Model.userActor] := by
  refine Model.ofKind_eq_singleton (c := Model.userActor) (hasActors_model h).user
    fun c hc hkind => ?_
  rcases eq_actor_of_kind h hc (Or.inl hkind) with huser | rfl
  · exact huser
  · exact absurd hkind (by decide)

/-- The database is the only component of its kind. -/
theorem ofKind_database (h : analyze p = .ok o) :
    o.model.ofKind .database = [Model.databaseActor] := by
  refine Model.ofKind_eq_singleton (c := Model.databaseActor) (hasActors_model h).database
    fun c hc hkind => ?_
  rcases eq_actor_of_kind h hc (Or.inr hkind) with rfl | hdatabase
  · exact absurd hkind (by decide)
  · exact hdatabase

/-- If there is a component of the persistence service, its arrow to the database comes last. -/
theorem getLast?_interactions (h : analyze p = .ok o)
    (hhas : o.model.has p.rules.persistenceService = true) :
    o.model.interactions.getLast? =
      some { source := p.rules.persistenceService, target := Model.databaseId,
             label := "queries" } := by
  obtain ⟨before, -, -, hlog⟩ := exists_synthesize h
  rw [hlog, Model.databaseLink, if_pos hhas, List.getLast?_concat]

end Project

/-! ### The report of an analysis -/

/-- **Every analysis is synthesised and accounted for.** Its model has one user and one database.
The last stage is the synthesis: it appends the arrow from the persistence service to the database,
which is then the last interaction, if the model has a component of that name, and nothing
otherwise. The report finds no error and misses no actor; it counts two components more than pages,
controllers, services and gateways, and every interaction as drawn or dangling; the dangling ones
are reported one by one, and the report is complete exactly if there is none; and the collisions
are reported one by one, as the remarks say them. -/
theorem analyze_accounts {p : Project} {o : Outcome} (h : analyze p = .ok o) :
    let stats := o.report.stats
    (o.model.ofKind .user = [Model.userActor] ∧
      o.model.ofKind .database = [Model.databaseActor]) ∧
    (∃ before, p.runStages .empty p.stages.dropLast = .ok before ∧
      o.model = before.synthesize p.rules ∧
      o.model.interactions = before.interactions ++
        if o.model.has p.rules.persistenceService then
          [{ source := p.rules.persistenceService, target := "Database", label := "queries",
             isAsync := false }]
        else []) ∧
    (o.model.has p.rules.persistenceService = true →
      o.model.interactions.getLast? =
        some { source := p.rules.persistenceService, target := "Database", label := "queries",
               isAsync := false }) ∧
    (o.report.strict = false ∧ o.report.isValid = true ∧
      ∀ issue ∈ o.report.issues, issue.severity ≠ .error ∧ issue.code ≠ "MISSING_ACTOR") ∧
    stats.components = stats.pages + stats.controllers + stats.services + stats.gateways + 2 ∧
    stats.interactions = stats.renderedInteractions + stats.danglingInteractions ∧
    (stats.danglingInteractions =
        o.report.issues.countP fun issue => issue.code == "DANGLING_INTERACTION") ∧
    (o.report.isComplete = true ↔ stats.danglingInteractions = 0) ∧
    (o.report.issues.filter fun issue => issue.code == "IDENTIFIER_COLLISION").map
        (fun issue => (issue.severity.name, issue.code, issue.message, issue.nodeId?)) =
      o.model.diagnostics.map fun d => (d.level, d.code, d.message, some d.objectId) := by
  have hactors := Project.hasActors_model h
  have huser := Project.ofKind_user h
  have hdatabase := Project.ofKind_database h
  have hsynthesis := Project.exists_synthesize h
  have hlast := Project.getLast?_interactions h
  rw [Project.report_eq h]
  refine ⟨⟨huser, hdatabase⟩, hsynthesis, hlast,
    ⟨rfl, Validation.isValid_validate hactors, fun issue hissue => ?_⟩, ?_, ?_,
    Validation.danglingInteractions_stats o.model, Validation.isComplete_validate_iff hactors,
    Validation.map_filter_collision o.model⟩
  · exact ⟨Validation.severity_ne_error hactors issue hissue,
      Validation.code_ne_missingActor hactors issue hissue⟩
  · have hsize := o.model.size_eq_add_ofKind
    rw [huser, hdatabase] at hsize
    exact hsize
  · have hlength := o.model.length_interactions
    change o.model.interactions.length = o.model.renderable.length +
      (o.model.interactions.length - o.model.renderable.length)
    omega

/-- A project whose classes bear the names of the actors and of the persistence service, one of
which is given what no marker declares. -/
def ledger : Project where
  serverFiles :=
    [⟨"server/src/database.ts", "@Injectable()\nexport class Database {}"⟩,
      ⟨"server/src/user.controller.ts", "@Controller('users')\nexport class User {}"⟩,
      ⟨"server/src/prisma.service.ts",
        "@Injectable()\nexport class PrismaService { constructor(c: ConfigService) {} }"⟩]
  clientFiles := [⟨"client/app/page.tsx", ""⟩]
  clientRoot := ⟨["work", "project"], "client/app"⟩

/-- The ledger has its actors, the arrow to the database comes last, and one interaction and two
collisions are reported. -/
theorem analyze_accounts_ledger :
    ∃ o, analyze ledger = .ok o ∧ o.model.ofKind .user = [Model.userActor] ∧
      o.model.ofKind .database = [Model.databaseActor] ∧
      o.model.interactions.getLast? =
        some { source := "PrismaService", target := "Database", label := "queries" } ∧
      o.report.isValid = true ∧ o.report.isComplete = false ∧
      (o.report.issues.countP fun issue => issue.code == "DANGLING_INTERACTION") = 1 ∧
      ((o.report.issues.filter fun issue => issue.code == "IDENTIFIER_COLLISION").map
        fun issue => issue.nodeId?) = [some "User", some "Database"] := by
  have hfacts : (analyze ledger).map (fun o => (o.model.has ledger.rules.persistenceService,
      o.report.stats.danglingInteractions, o.model.diagnostics.map Diagnostic.objectId)) =
      .ok (true, 1, ["User", "Database"]) := by decide +kernel
  obtain ⟨o, h⟩ := ledger.exists_analyze_iff.mpr (by decide)
  rw [h] at hfacts
  simp only [Except.map, Except.ok.injEq, Prod.mk.injEq] at hfacts
  obtain ⟨hhas, hdangling, hremarks⟩ := hfacts
  obtain ⟨⟨huser, hdatabase⟩, -, hlast, ⟨-, hvalid, -⟩, -, -, hcount, hcomplete, hcollisions⟩ :=
    analyze_accounts h
  refine ⟨o, h, huser, hdatabase, hlast hhas, hvalid, ?_, hcount.symm.trans hdangling, ?_⟩
  · rw [Bool.eq_false_iff, Ne, hcomplete, hdangling]
    exact Nat.one_ne_zero
  · have hnodes := congrArg (List.map fun entry => entry.2.2.2) hcollisions
    rw [List.map_map, List.map_map] at hnodes
    calc _ = o.model.diagnostics.map fun d => some d.objectId := hnodes
      _ = (o.model.diagnostics.map Diagnostic.objectId).map some := by rw [List.map_map]; rfl
      _ = [some "User", some "Database"] := by rw [hremarks]; rfl

end SystemSketch
