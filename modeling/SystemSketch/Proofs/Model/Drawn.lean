import Mathlib.Data.List.Basic
import Mathlib.Data.List.Perm.Basic
import SystemSketch.Proofs.Model.History

/-!
# What is drawn of the log

An interaction is drawn if both its ends are components, and dangles otherwise, so the log is parted
into two lists. No operation takes a component away or changes the log behind it: what is drawn
once is drawn from then on, and a dangling interaction is drawn as soon as its ends are there.

## Main results

* `Model.mem_renderable_iff`, `Model.mem_dangling_iff` — which interactions are in the two lists.
* `Model.renderable_append_dangling`, `Model.disjoint_dangling` — they part the log.
* `Model.renderable_sublist`, `Model.renderable_sublist_after` — what is drawn stays drawn.
-/

namespace SystemSketch.Model

variable {m m' : Model} {i : Interaction}

/-! ### The two parts of the log -/

/-- An interaction is drawn exactly if it has been appended and both its ends are components. -/
theorem mem_renderable_iff :
    i ∈ m.renderable ↔ i ∈ m.interactions ∧ m.has i.source = true ∧ m.has i.target = true := by
  rw [renderable, List.mem_filter, draws, Bool.and_eq_true]

/-- An interaction dangles exactly if it has been appended and one of its ends is no component. -/
theorem mem_dangling_iff :
    i ∈ m.dangling ↔ i ∈ m.interactions ∧ (m.has i.source = false ∨ m.has i.target = false) := by
  rw [dangling, List.mem_filter, Bool.not_eq_true', draws, Bool.and_eq_false_iff]

/-- **Every interaction** of the log is in one of the two lists, as often as in the log. -/
theorem renderable_append_dangling (m : Model) :
    (m.renderable ++ m.dangling).Perm m.interactions :=
  List.filter_append_perm m.draws m.interactions

/-- **No interaction** is in both lists. -/
theorem disjoint_dangling (m : Model) : m.renderable.Disjoint m.dangling := by
  intro i hdrawn hdangling
  obtain ⟨-, hsource, htarget⟩ := mem_renderable_iff.mp hdrawn
  rcases (mem_dangling_iff.mp hdangling).2 with hmissing | hmissing
  · exact Bool.noConfusion (hsource.symm.trans hmissing)
  · exact Bool.noConfusion (htarget.symm.trans hmissing)

/-! ### Later drawings -/

/-- A model whose roster and log go on draws what it drew before, **in the same order**. -/
theorem renderable_sublist (hkeys : m.components.keys ⊆ m'.components.keys)
    (hlog : m.interactions <+: m'.interactions) : m.renderable.Sublist m'.renderable := by
  have hhas : ∀ id, m.has id = true → m'.has id = true := fun id hid =>
    Keyed.contains_iff.mpr (hkeys (Keyed.contains_iff.mp hid))
  have hdraws : ∀ i, m.draws i = true → m'.draws i = true := by
    intro i hi
    rw [draws, Bool.and_eq_true] at hi ⊢
    exact ⟨hhas _ hi.1, hhas _ hi.2⟩
  have hmore : m.renderable.Sublist (m.interactions.filter m'.draws) :=
    List.monotone_filter_right m.interactions hdraws
  exact hmore.trans (hlog.sublist.filter m'.draws)

/-- **What is drawn stays drawn** in the same order, whatever is done to the model. -/
theorem renderable_sublist_after (operations more : List Operation) :
    (empty.after operations).renderable.Sublist ((empty.after operations).after more).renderable :=
  renderable_sublist ((records_after operations).keys_prefix_after more).subset
    (extends_after _ more).interactions

end SystemSketch.Model
