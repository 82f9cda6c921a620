import SystemSketch.Proofs.Model.Drawn
import SystemSketch.Proofs.Validation.Agreement

/-!
# Which interactions are drawn, and which are reported

Two selections from the log say which interactions are drawn and which dangle, and validation asks
once more which ends of a dangling interaction are missing. All three agree in every model that
operations build, and what is drawn of a model is drawn of every model that it becomes.

## Main results

* `Validation.mem_missingEnds_iff`, `Validation.missingEnds_ne_nil` — what is missing from a
  dangling interaction.
* `Validation.forall₂_dangling` — the reports about dangling interactions, one for each of them.
* `Validation.drawn_or_reported` — the log is parted, one part is reported, the other stays drawn.
-/

namespace SystemSketch.Validation

variable {m : Model} {i : Interaction} {id : String}

/-- **What is missing** from an interaction are those of its ends that are no components. -/
theorem mem_missingEnds_iff :
    id ∈ missingEnds m i ↔ (id = i.source ∨ id = i.target) ∧ m.has id = false := by
  rw [missingEnds, List.mem_filter, List.mem_pair, Bool.not_eq_true']

/-- Something is missing from every dangling interaction. -/
theorem missingEnds_ne_nil (h : i ∈ m.dangling) : missingEnds m i ≠ [] := by
  rcases (Model.mem_dangling_iff.mp h).2 with hsource | htarget
  · exact List.ne_nil_of_mem (mem_missingEnds_iff.mpr ⟨Or.inl rfl, hsource⟩)
  · exact List.ne_nil_of_mem (mem_missingEnds_iff.mpr ⟨Or.inr rfl, htarget⟩)

/-- An issue **reports** a dangling interaction if it shows the interaction and names ends of it
that are no components: at least one, and all that are missing. -/
structure ReportsDangling (m : Model) (i : Interaction) (issue : Issue) (missing : List String) :
    Prop where
  ne_nil : missing ≠ []
  mem_iff : ∀ id, id ∈ missing ↔ (id = i.source ∨ id = i.target) ∧ m.has id = false
  message : issue.message = "Interaction references unknown component(s) " ++
    String.intercalate ", " (missing.map Text.quote) ++ "; it will not be drawn"
  edgeInfo : issue.edgeInfo? = some (i.source ++ " -> " ++ i.target ++ " (" ++ i.label ++ ")")

/-- The issue of a dangling interaction reports it. -/
theorem reportsDangling (h : i ∈ m.dangling) :
    ReportsDangling m i (.dangling i (missingEnds m i)) (missingEnds m i) where
  ne_nil := missingEnds_ne_nil h
  mem_iff _ := mem_missingEnds_iff
  message := rfl
  edgeInfo := rfl

/-- **The reports** about dangling interactions are one for each of them, in log order. -/
theorem forall₂_dangling (m : Model) :
    List.Forall₂ (fun i issue => ∃ missing, ReportsDangling m i issue missing) m.dangling
      ((issues m).filter fun issue => issue.code == "DANGLING_INTERACTION") := by
  rw [filter_code m _ (danglingInteractions m) (by simp [families]), danglingInteractions,
    List.forall₂_map_right_iff, List.forall₂_same]
  exact fun i hi => ⟨missingEnds m i, reportsDangling hi⟩

/-- **Drawn or reported.** In every model that operations build, the drawn and the dangling
interactions stand in log order and make up the log, each interaction as often as it was appended,
and none of them is in both lists: it is drawn if both its ends are components, and dangles if one
of them is not. One issue reports each dangling interaction, in order, and names the ends that are
missing. Whatever is done to the model then, the interactions that were drawn are drawn, in their
order. -/
theorem drawn_or_reported (operations more : List Operation) :
    let m := Model.empty.after operations
    m.renderable.Sublist m.interactions ∧ m.dangling.Sublist m.interactions ∧
      (m.renderable ++ m.dangling).Perm m.interactions ∧ m.renderable.Disjoint m.dangling ∧
      (∀ i ∈ m.interactions,
        (i ∈ m.renderable ↔ m.has i.source = true ∧ m.has i.target = true) ∧
        (i ∈ m.dangling ↔ m.has i.source = false ∨ m.has i.target = false)) ∧
      List.Forall₂ (fun i issue => ∃ missing, ReportsDangling m i issue missing) m.dangling
        ((issues m).filter fun issue => issue.code == "DANGLING_INTERACTION") ∧
      m.renderable.Sublist (m.after more).renderable := by
  intro m
  refine ⟨List.filter_sublist, List.filter_sublist, m.renderable_append_dangling,
    m.disjoint_dangling, fun i hi => ⟨?_, ?_⟩, forall₂_dangling m,
    Model.renderable_sublist_after operations more⟩
  · rw [Model.mem_renderable_iff, and_iff_right hi]
  · rw [Model.mem_dangling_iff, and_iff_right hi]

end SystemSketch.Validation
