import SystemSketch.Proofs.Validation.Circuit
import SystemSketch.Proofs.Validation.Looks

/-!
# What the walk of a model goes through

The walk of a model ends by itself. Whenever it is at a node, the path that it keeps is a path to
that node along drawn interactions, and the nodes of the path are the active ones: so the target of
a dependency that leads back is found on the path, and a node that is left is active. Over all roots
every component is entered once and every drawn interaction between different components is looked
at once, and no node stays active.

## Main definitions

* `Walk.start`, `Walk.Reached` — the walk of a model before its first step, and where it can stand.
* `Walk.Follows` — the walk keeps a path to a node, whose nodes are the active ones.

## Main results

* `Walk.run_add` — a run is made of its parts.
* `Walk.Reached.follows` — the walk follows its path wherever it stands.
* `perm_entered` — the walk of a model enters every component once.
* `walk_traverses` — all of it together.
-/

namespace SystemSketch.Validation

variable {m : Model} {edges : List (String × String)}

namespace Walk

/-- **A run is made of its parts**: after some steps it goes on from where it stands. -/
theorem run_add (edges : List (String × String)) (count more : Nat) (w : Walk) :
    w.run edges (count + more) =
      ((w.run edges count).1 ++ ((w.run edges count).2.run edges more).1,
        ((w.run edges count).2.run edges more).2) := by
  induction count generalizing w with
  | zero => rw [Nat.zero_add, run, List.nil_append]
  | succ count ih =>
    rw [Nat.succ_add_eq_add_succ, Nat.add_succ, run, run]
    cases hnext : w.step edges with
    | none =>
      cases more with
      | zero => rfl
      | succ more => simp [run, hnext]
    | some next =>
      obtain ⟨event, w'⟩ := next
      simp only [ih, List.cons_append]

/-- A walk that has ended goes nowhere. -/
theorem run_of_step_eq_none {w : Walk} (h : w.step edges = none) (count : Nat) :
    w.run edges count = ([], w) := by
  cases count with
  | zero => rfl
  | succ count => rw [run, h]

/-- The walk of a model before its first step. -/
def start (m : Model) : Walk :=
  { roots := m.components.keys }

/-- The walk of a model can **reach** a place if it stands there after some steps. -/
def Reached (m : Model) (w : Walk) : Prop :=
  ∃ count, w = ((start m).run (dependencies m) count).2

/-- The walk of a model is sound wherever it stands. -/
theorem Reached.sound {w : Walk} (h : Reached m w) :
    Sound m.components.keys (dependencies m) w := by
  obtain ⟨count, rfl⟩ := h
  exact @run_invariant (dependencies m) (fun _ w => Sound m.components.keys (dependencies m) w)
    (fun _ _ _ _ hsound hmoves => hsound.moves hmoves) count [] (start m)
    (sound_start m.components.keys (dependencies m))

/-- Where a step leads to can be reached. -/
theorem Reached.step {w w' : Walk} {event : Event} (h : Reached m w)
    (hstep : w.step (dependencies m) = some (event, w')) : Reached m w' := by
  obtain ⟨count, rfl⟩ := h
  refine ⟨count + 1, ?_⟩
  rw [run_add, run, hstep]
  rfl

/-- A walk **follows** a path to a node along the drawn interactions of a model if the nodes on the
path are the active ones. -/
structure Follows (m : Model) (w : Walk) (node : String) (path : List String) : Prop
    extends IsPathTo (DependsOn m) node path where
  mem_iff : ∀ n, n ∈ path ↔ n ∈ w.active

/-- **Wherever the walk of a model stands**, it follows the path to its innermost node. -/
theorem Reached.follows {w : Walk} (h : Reached m w) {frame : Frame}
    (hframe : w.frames.head? = some frame) : w.Follows m frame.node frame.path := by
  obtain ⟨roots, frames, visited, active⟩ := w
  obtain ⟨frames, rfl⟩ := List.head?_eq_some_iff.mp hframe
  have hpath := h.sound.isPathTo
  exact ⟨⟨hpath.nodup, hpath.chain.imp fun _ _ => mem_dependencies.mp, hpath.getLast?_eq⟩,
    fun _ => h.sound.mem_path_iff⟩

/-- The node that is entered in a step becomes the innermost one, with the path to it. -/
theorem Moves.head?_of_entered {w w' : Walk} {event : Event} (h : Moves edges w event w')
    {node : String} {path : List String} (hentered : event.entered? = some (node, path)) :
    w'.frames.head? = some ⟨node, path, targets edges node⟩ := by
  cases h with
  | enter _ =>
    obtain ⟨rfl, rfl⟩ := Prod.mk.inj (Option.some.inj hentered)
    rfl
  | descend _ =>
    obtain ⟨rfl, rfl⟩ := Prod.mk.inj (Option.some.inj hentered)
    rfl
  | _ => cases hentered

end Walk

/-! ### Every component is entered once -/

/-- What the walk of a model enters is a component. -/
theorem mem_keys_of_entered {node : String} {path : List String}
    (h : (node, path) ∈ (events m).filterMap Event.entered?) : node ∈ m.components.keys := by
  obtain ⟨event, hevent, hentered⟩ := List.mem_filterMap.mp h
  obtain ⟨w, w', hsound, hmoves⟩ := exists_moves_of_mem_events hevent
  cases hmoves with
  | enter _ =>
    obtain ⟨rfl, -⟩ := Prod.mk.inj (Option.some.inj hentered)
    exact hsound.roots_mem _ List.mem_cons_self
  | descend _ =>
    obtain ⟨rfl, -⟩ := Prod.mk.inj (Option.some.inj hentered)
    have hedge := mem_targets.mp (hsound.trail.left_suffix.subset List.mem_cons_self)
    exact (isGraph_dependencies m).target_mem _ hedge
  | _ => cases hentered

/-- **Every component is entered once** in the walk of a model, and nothing else is entered. -/
theorem perm_entered (m : Model) :
    (((events m).filterMap Event.entered?).map Prod.fst).Perm m.components.keys := by
  obtain ⟨hsound, -, hroots, -⟩ := walk_ended m
  obtain ⟨hcharted, -⟩ := walk_looks m
  have hvisited : ∀ node, node ∈ ((events m).filterMap Event.entered?).map Prod.fst ↔
      node ∈ (walk m).2.visited := fun node => by rw [hcharted.visited_eq, List.mem_reverse]
  have hnodup : (((events m).filterMap Event.entered?).map Prod.fst).Nodup := by
    rw [← List.nodup_reverse, ← hcharted.visited_eq]
    exact hcharted.nodup
  rw [List.perm_ext_iff_of_nodup hnodup m.components.nodup_keys]
  intro node
  constructor
  · intro hnode
    obtain ⟨⟨_, path⟩, hentered, rfl⟩ := List.mem_map.mp hnode
    exact mem_keys_of_entered hentered
  · intro hnode
    have hconsidered := hsound.considered node hnode
    rw [hroots] at hconsidered
    exact (hvisited node).mpr (hconsidered.resolve_left List.not_mem_nil)

/-! ### The whole walk -/

/-- **The walk of a model keeps its path and goes through everything once.** It ends by itself: no
step is left after `walkLength m` of them. Whenever it takes a step, it follows the path to its
innermost node, and a node that is entered is entered with a path that the walk then follows. So the
target of a dependency that closes a cycle is found on the path, and a node that is left is active.
In the end every component has been entered once, every drawn interaction between different
components has been looked at once, and no node is active. -/
theorem walk_traverses (m : Model) :
    ((walk m).2.step (dependencies m) = none ∧
      ∀ more, (Walk.start m).run (dependencies m) (walkLength m + more) = walk m) ∧
    (∀ w event w', Walk.Reached m w → w.step (dependencies m) = some (event, w') →
      (∀ frame, w.frames.head? = some frame → w.Follows m frame.node frame.path) ∧
      (∀ node path, event.entered? = some (node, path) → w'.Follows m node path) ∧
      (∀ source target cycle, event = .close source target cycle →
        ∃ frame, w.frames.head? = some frame ∧ frame.node = source ∧ target ∈ frame.path) ∧
      ∀ node, event = .leave node → node ∈ w.active) ∧
    (((events m).filterMap Event.entered?).map Prod.fst).Perm m.components.keys ∧
    ((events m).filterMap Event.look?).Perm
      ((m.renderable.filter fun i => i.source != i.target).map fun i => (i.source, i.target)) ∧
    (walk m).2.active = [] := by
  obtain ⟨hsound, -, hroots, hframes⟩ := walk_ended m
  have hended : (walk m).2.step (dependencies m) = none :=
    Walk.step_eq_none_iff.mpr ⟨hroots, hframes⟩
  refine ⟨⟨hended, fun more => ?_⟩, fun w event w' hreached hstep => ?_, perm_entered m,
    perm_looks m, ?_⟩
  · have hwalk : (Walk.start m).run (dependencies m) (walkLength m) = walk m := rfl
    rw [Walk.run_add, hwalk, Walk.run_of_step_eq_none hended, List.append_nil]
  · have hmoves := Walk.moves_of_step hstep
    refine ⟨fun frame hframe => hreached.follows hframe, fun node path hentered => ?_, ?_, ?_⟩
    · exact (hreached.step hstep).follows (hmoves.head?_of_entered hentered)
    · rintro source target cycle rfl
      cases hmoves with
      | close _ hactive => exact ⟨_, rfl, rfl, ((hreached.follows rfl).mem_iff target).mpr hactive⟩
    · rintro node rfl
      cases hmoves with
      | leave =>
        have hfollows := hreached.follows rfl
        exact (hfollows.mem_iff node).mp (List.mem_of_getLast? hfollows.getLast?_eq)
  · rw [hsound.active_eq, hframes]
    rfl

/-- In the fork, the walk descends from the first service to the last one, after it has left what
the first one depends on as well. -/
theorem walk_traverses_fork :
    let w : Walk := ((Walk.start fork).run (dependencies fork) 5).2
    let w' : Walk := ((Walk.start fork).run (dependencies fork) 6).2
    (Walk.Reached fork w ∧
      w.step (dependencies fork) = some (.descend "A" "D" ["A", "D"], w')) ∧
    w.Follows fork "A" ["A"] ∧ w'.Follows fork "D" ["A", "D"] ∧
      (((events fork).filterMap Event.entered?).map Prod.fst).Perm ["A", "B", "C", "D"] := by
  intro w w'
  have hreached : Walk.Reached fork w := ⟨5, rfl⟩
  have hstep : w.step (dependencies fork) = some (.descend "A" "D" ["A", "D"], w') := by
    decide +kernel
  have hframe : w.frames.head? = some ⟨"A", ["A"], ["D"]⟩ := by decide +kernel
  obtain ⟨-, hsteps, hentered, -⟩ := walk_traverses fork
  obtain ⟨hfollows, henters, -⟩ := hsteps w _ w' hreached hstep
  exact ⟨⟨hreached, hstep⟩, hfollows _ hframe, henters "D" ["A", "D"] rfl, hentered⟩

end SystemSketch.Validation
