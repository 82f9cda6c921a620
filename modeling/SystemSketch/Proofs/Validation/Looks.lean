import SystemSketch.Proofs.Validation.Walk

/-!
# What a walk looks at

A walk enters every node once, so a node has the same path whenever one of its edges is looked at,
and that path decides what the look gives: a cycle if the target is on the path, and none otherwise.
And the edges of a node are looked at one after the other, so that in the end every edge has been
looked at once, parallel edges once each.

## Main definitions

* `Event.look?` — the edge that is looked at in a step.
* `Event.entered?` — the node that is entered in a step, with the path to it.
* `closing?` — the cycle that a path closes.
* `Walk.Charted` — the nodes were entered once, and the paths to them decide about the cycles.
* `Walk.Examined` — which edges have been looked at.

## Main results

* `Walk.Charted.moves`, `Walk.Examined.moves` — a step keeps what is known of the looks.
* `perm_looks` — the walk of a model looks at every dependency once.
* `cycle?_eq_of_look?` — what is found at two looks at parallel dependencies is the same.
-/

namespace SystemSketch.Validation

/-- The edge that is looked at in a step. -/
def Event.look? : Event → Option (String × String)
  | descend source target _ | close source target _ | cross source target => some (source, target)
  | pass _ | enter _ | leave _ => none

/-- The node that is entered in a step, with the path to it. -/
def Event.entered? : Event → Option (String × List String)
  | enter node => some (node, [node])
  | descend _ target path => some (target, path)
  | pass _ | close .. | cross .. | leave _ => none

/-- The cycle that is closed when the target is reached from the end of the path. -/
def closing? (path : List String) (target : String) : Option (List String) :=
  if target ∈ path then some (path.dropWhile (· != target) ++ [target]) else none

variable {nodes : List String} {edges : List (String × String)}

/-! ### Records -/

/-- What one more event adds to a record. -/
theorem filterMap_concat {α β : Type} (f : α → Option β) (happened : List α) (event : α) :
    (happened ++ [event]).filterMap f = happened.filterMap f ++ (f event).toList := by
  rw [List.filterMap_append]
  cases h : f event <;> simp [h]

/-- What is in a record after one more event. -/
theorem mem_filterMap_concat {α β : Type} {f : α → Option β} {happened : List α} {event : α}
    {b : β} :
    b ∈ (happened ++ [event]).filterMap f ↔ b ∈ happened.filterMap f ∨ f event = some b := by
  rw [filterMap_concat, List.mem_append, Option.mem_toList]

/-- The targets along edges that come one after the other. -/
theorem targets_append (before after : List (String × String)) (node : String) :
    targets (before ++ after) node = targets before node ++ targets after node := by
  simp only [targets, List.filter_append, List.map_append]

/-- The targets along a single edge. -/
theorem targets_singleton (source target node : String) :
    targets [(source, target)] node = if source = node then [target] else [] := by
  by_cases h : source = node <;> simp [targets, h]

/-- Parallel edges are counted at their source. -/
theorem count_eq_count_targets (edges : List (String × String)) (source target : String) :
    edges.count (source, target) = (targets edges source).count target := by
  induction edges with
  | nil => rfl
  | cons edge rest ih =>
    obtain ⟨u, v⟩ := edge
    have hsplit := targets_append [(u, v)] rest source
    rw [List.singleton_append, targets_singleton] at hsplit
    rw [hsplit, List.count_append, List.count_cons, ih, Nat.add_comm]
    by_cases hu : u = source
    · by_cases hv : v = target <;> simp [hu, hv]
    · simp [hu]

namespace Walk

variable {happened : List Event} {event : Event} {roots visited active path left : List String}
  {node target : String} {frame : Frame} {frames : List Frame} {w w' : Walk}

/-! ### Every node has one path -/

/-- A walk is **charted**: the nodes were entered one after the other, none of them twice, each
frame has the path on which its node was entered, and what came of a look at an edge is what the
path to the source closes with the target. -/
structure Charted (happened : List Event) (w : Walk) : Prop where
  visited_eq : w.visited = ((happened.filterMap Event.entered?).map Prod.fst).reverse
  nodup : w.visited.Nodup
  path_mem : ∀ frame ∈ w.frames, (frame.node, frame.path) ∈ happened.filterMap Event.entered?
  cycle_eq : ∀ event ∈ happened, ∀ source target, event.look? = some (source, target) →
    ∃ path, (source, path) ∈ happened.filterMap Event.entered? ∧
      event.cycle? = closing? path target

/-- The walk is charted before its first step. -/
theorem charted_start (roots : List String) : Charted [] { roots := roots } where
  visited_eq := rfl
  nodup := List.nodup_nil
  path_mem _ h := absurd h List.not_mem_nil
  cycle_eq _ h := absurd h List.not_mem_nil

/-- One more event of a charted walk: a node that it enters is new, and an edge that it looks at
starts at a node whose path is known. -/
theorem Charted.extend (h : Charted happened w)
    (hvisited : w'.visited = (event.entered?.map Prod.fst).toList ++ w.visited)
    (hnew : ∀ entry, event.entered? = some entry → entry.1 ∉ w.visited)
    (hframes : ∀ frame ∈ w'.frames, (frame.node, frame.path) ∈ happened.filterMap Event.entered? ∨
      event.entered? = some (frame.node, frame.path))
    (hlook : ∀ source target, event.look? = some (source, target) →
      ∃ path, (source, path) ∈ happened.filterMap Event.entered? ∧
        event.cycle? = closing? path target) :
    Charted (happened ++ [event]) w' where
  visited_eq := by
    rw [hvisited, h.visited_eq, filterMap_concat, List.map_append, List.reverse_append]
    cases event.entered? <;> rfl
  nodup := by
    rw [hvisited]
    cases hentered : event.entered? with
    | none => exact h.nodup
    | some entry => exact List.nodup_cons.mpr ⟨hnew entry hentered, h.nodup⟩
  path_mem frame hframe := mem_filterMap_concat.mpr (hframes frame hframe)
  cycle_eq e he source target hedge := by
    have hknown : ∃ path, (source, path) ∈ happened.filterMap Event.entered? ∧
        e.cycle? = closing? path target := by
      rcases List.mem_append.mp he with he | he
      · exact h.cycle_eq e he source target hedge
      · obtain rfl := List.mem_singleton.mp he
        exact hlook source target hedge
    obtain ⟨path, hpath, hcycle⟩ := hknown
    exact ⟨path, mem_filterMap_concat.mpr (Or.inl hpath), hcycle⟩

/-- A look changes no path. -/
theorem Charted.path_mem_of_look
    (h : Charted happened ⟨roots, ⟨node, path, target :: left⟩ :: frames, visited, active⟩) :
    ∀ frame ∈ (⟨node, path, left⟩ :: frames : List Frame),
      (frame.node, frame.path) ∈ happened.filterMap Event.entered? := by
  intro frame hframe
  rcases List.mem_cons.mp hframe with rfl | hframe
  · exact h.path_mem ⟨node, path, target :: left⟩ List.mem_cons_self
  · exact h.path_mem frame (List.mem_cons_of_mem _ hframe)

/-- A look at the next edge of the innermost node, which enters no node. -/
theorem Charted.look
    (h : Charted happened ⟨roots, ⟨node, path, target :: left⟩ :: frames, visited, active⟩)
    (hentered : event.entered? = none) (hlook : event.look? = some (node, target))
    (hcycle : event.cycle? = closing? path target) :
    Charted (happened ++ [event]) ⟨roots, ⟨node, path, left⟩ :: frames, visited, active⟩ := by
  refine h.extend ?_ (fun entry hentry => ?_)
    (fun frame hframe => Or.inl (h.path_mem_of_look frame hframe)) (fun source t hedge => ?_)
  · rw [hentered]
    rfl
  · rw [hentered] at hentry
    cases hentry
  · rw [hlook] at hedge
    obtain ⟨rfl, rfl⟩ := Prod.mk.inj (Option.some.inj hedge)
    exact ⟨path, h.path_mem _ List.mem_cons_self, hcycle⟩

/-- **A step keeps a walk charted.** -/
theorem Charted.moves (h : Charted happened w) (hsound : Sound nodes edges w)
    (hmoves : Moves edges w event w') : Charted (happened ++ [event]) w' := by
  cases hmoves with
  | pass =>
    exact h.extend rfl (fun _ hentered => nomatch hentered)
      (fun _ hframe => absurd hframe List.not_mem_nil) (fun _ _ hedge => nomatch hedge)
  | @enter root roots visited active hroot =>
    refine h.extend rfl (fun entry hentered => ?_) (fun frame hframe => ?_)
      (fun _ _ hedge => nomatch hedge)
    · obtain rfl := Option.some.inj hentered
      exact hroot
    · obtain rfl := List.mem_singleton.mp hframe
      exact Or.inr rfl
  | @descend roots visited active path left node target frames htarget =>
    refine h.extend rfl (fun entry hentered => ?_) (fun frame hframe => ?_)
      (fun source t hedge => ?_)
    · obtain rfl := Option.some.inj hentered
      exact htarget
    · rcases List.mem_cons.mp hframe with rfl | hframe
      · exact Or.inr rfl
      · exact Or.inl (h.path_mem_of_look frame hframe)
    · obtain ⟨rfl, rfl⟩ := Prod.mk.inj (Option.some.inj hedge)
      have hoff : target ∉ path := fun hmem =>
        htarget (hsound.visited_of_active target (hsound.mem_path_iff.mp hmem))
      exact ⟨path, h.path_mem _ List.mem_cons_self, (if_neg hoff).symm⟩
  | close _ hactive =>
    exact h.look rfl rfl (if_pos (hsound.mem_path_iff.mpr hactive)).symm
  | cross _ hactive =>
    exact h.look rfl rfl (if_neg fun hmem => hactive (hsound.mem_path_iff.mp hmem)).symm
  | leave =>
    exact h.extend rfl (fun _ hentered => nomatch hentered)
      (fun frame hframe => Or.inl (h.path_mem frame (List.mem_cons_of_mem _ hframe)))
      (fun _ _ hedge => nomatch hedge)

/-! ### Every edge is looked at once -/

/-- The edges that a walk has **examined**: none from a node that has not been entered, all from a
node that has been left, and from the node of a frame those in front of what is left of it. -/
structure Examined (edges : List (String × String)) (happened : List Event) (w : Walk) : Prop where
  fresh : ∀ node, node ∉ w.visited → targets (happened.filterMap Event.look?) node = []
  within : ∀ frame ∈ w.frames,
    targets (happened.filterMap Event.look?) frame.node ++ frame.left = targets edges frame.node
  gone : ∀ node ∈ w.visited, node ∉ w.active →
    targets (happened.filterMap Event.look?) node = targets edges node

/-- Nothing is examined before the first step. -/
theorem examined_start (roots : List String) (edges : List (String × String)) :
    Examined edges [] { roots := roots } where
  fresh _ _ := rfl
  within _ h := absurd h List.not_mem_nil
  gone _ h := absurd h List.not_mem_nil

namespace Examined

/-- An event without a look. -/
theorem quiet (hlook : event.look? = none) (h : Examined edges happened w) :
    Examined edges (happened ++ [event]) w := by
  have hsame : (happened ++ [event]).filterMap Event.look? = happened.filterMap Event.look? := by
    rw [filterMap_concat, hlook, Option.toList_none, List.append_nil]
  exact ⟨hsame ▸ h.fresh, hsame ▸ h.within, hsame ▸ h.gone⟩

/-- A node is entered with all its edges still to be looked at. -/
theorem enter (h : Examined edges happened ⟨roots, frames, visited, active⟩)
    (hnew : node ∉ visited) (roots' path : List String) :
    Examined edges happened
      ⟨roots', ⟨node, path, targets edges node⟩ :: frames, node :: visited, node :: active⟩ where
  fresh n hn := h.fresh n fun hmem => hn (List.mem_cons_of_mem _ hmem)
  within frame hframe := by
    rcases List.mem_cons.mp hframe with rfl | hframe
    · rw [h.fresh node hnew, List.nil_append]
    · exact h.within frame hframe
  gone n hvisited hactive := by
    rw [List.mem_cons, not_or] at hactive
    exact h.gone n ((List.mem_cons.mp hvisited).resolve_left hactive.1) hactive.2

/-- A look at the next edge of the innermost node, which no other frame is about. -/
theorem look (h : Examined edges happened
      ⟨roots, ⟨node, path, target :: left⟩ :: frames, visited, active⟩)
    (hsound : Sound nodes edges ⟨roots, ⟨node, path, target :: left⟩ :: frames, visited, active⟩)
    (hlook : event.look? = some (node, target)) :
    Examined edges (happened ++ [event])
      ⟨roots, ⟨node, path, left⟩ :: frames, visited, active⟩ := by
  have hactive : active = node :: frames.map Frame.node := hsound.active_eq
  have hnode : node ∈ active := hactive ▸ List.mem_cons_self
  have hself : targets ((happened ++ [event]).filterMap Event.look?) node =
      targets (happened.filterMap Event.look?) node ++ [target] := by
    rw [filterMap_concat, hlook, targets_append, Option.toList_some, targets_singleton, if_pos rfl]
  have hothers : ∀ n, n ≠ node → targets ((happened ++ [event]).filterMap Event.look?) n =
      targets (happened.filterMap Event.look?) n := by
    intro n hn
    rw [filterMap_concat, hlook, targets_append, Option.toList_some, targets_singleton,
      if_neg hn.symm, List.append_nil]
  refine ⟨fun n hn => ?_, fun frame hframe => ?_, fun n hvisited hn => ?_⟩
  · have hne : n ≠ node := fun heq => hn (heq ▸ hsound.visited_of_active node hnode)
    rw [hothers n hne]
    exact h.fresh n hn
  · rcases List.mem_cons.mp hframe with rfl | hframe
    · rw [hself, List.append_assoc]
      exact h.within _ List.mem_cons_self
    · have hnodup : (node :: frames.map Frame.node).Nodup := hactive ▸ hsound.nodup_active
      have hne : frame.node ≠ node := fun heq =>
        (List.nodup_cons.mp hnodup).1 (heq ▸ List.mem_map_of_mem hframe)
      rw [hothers _ hne]
      exact h.within frame (List.mem_cons_of_mem _ hframe)
  · have hne : n ≠ node := fun heq => hn (heq ▸ hnode)
    rw [hothers n hne]
    exact h.gone n hvisited hn

/-- A node is left when all its edges have been looked at. -/
theorem leave (h : Examined edges happened ⟨roots, ⟨node, path, []⟩ :: frames, visited, active⟩)
    (hsound : Sound nodes edges ⟨roots, ⟨node, path, []⟩ :: frames, visited, active⟩) :
    Examined edges happened ⟨roots, frames, visited, active.erase node⟩ := by
  obtain rfl : active = node :: frames.map Frame.node := hsound.active_eq
  rw [List.erase_cons_head]
  refine ⟨h.fresh, fun frame hframe => h.within frame (List.mem_cons_of_mem _ hframe),
    fun n hvisited hn => ?_⟩
  by_cases hself : n = node
  · have hall := h.within _ List.mem_cons_self
    rw [List.append_nil] at hall
    exact hself ▸ hall
  · exact h.gone n hvisited fun hmem => (List.mem_cons.mp hmem).elim hself hn

/-- **A step keeps what is known of the edges.** -/
theorem moves (h : Examined edges happened w) (hsound : Sound nodes edges w)
    (hmoves : Moves edges w event w') : Examined edges (happened ++ [event]) w' := by
  cases hmoves with
  | pass => exact quiet rfl ⟨h.fresh, h.within, h.gone⟩
  | enter hroot => exact quiet rfl (h.enter hroot _ _)
  | descend htarget => exact (h.look hsound rfl).enter htarget _ _
  | close => exact h.look hsound rfl
  | cross => exact h.look hsound rfl
  | leave => exact quiet rfl (h.leave hsound)

end Examined

end Walk

/-! ### The looks of a model's walk -/

variable {m : Model}

open Walk in
/-- The walk of a model is charted, and the edges that it has examined are known. -/
theorem walk_looks (m : Model) :
    Charted (events m) (walk m).2 ∧ Examined (dependencies m) (events m) (walk m).2 := by
  have hrun := run_invariant (dependencies m)
    (fun happened w => Sound m.components.keys (dependencies m) w ∧ Charted happened w ∧
      Examined (dependencies m) happened w)
    (fun _ _ _ _ h hmoves =>
      ⟨h.1.moves hmoves, h.2.1.moves h.1 hmoves, h.2.2.moves h.1 hmoves⟩)
    (walkLength m) ⟨sound_start m.components.keys (dependencies m),
      charted_start m.components.keys, examined_start m.components.keys (dependencies m)⟩
  exact hrun.2

/-- From every node, the walk of a model looks along its dependencies in their order. -/
theorem targets_looks (m : Model) (node : String) :
    targets ((events m).filterMap Event.look?) node = targets (dependencies m) node := by
  obtain ⟨hsound, -, hroots, hframes⟩ := walk_ended m
  obtain ⟨-, hexamined⟩ := walk_looks m
  by_cases hvisited : node ∈ (walk m).2.visited
  · refine hexamined.gone node hvisited ?_
    rw [hsound.active_eq, hframes]
    exact List.not_mem_nil
  · -- all components have been entered, and only they have dependencies
    rw [hexamined.fresh node hvisited, eq_comm, List.eq_nil_iff_forall_not_mem]
    intro target htarget
    have hknown := (isGraph_dependencies m).source_mem _ (mem_targets.mp htarget)
    have hconsidered := hsound.considered node hknown
    rw [hroots] at hconsidered
    exact hvisited (hconsidered.resolve_left List.not_mem_nil)

/-- **Every dependency is looked at once** in the walk of a model, parallel ones once each. -/
theorem perm_looks (m : Model) : ((events m).filterMap Event.look?).Perm (dependencies m) := by
  rw [List.perm_iff_count]
  rintro ⟨source, target⟩
  rw [count_eq_count_targets, targets_looks, ← count_eq_count_targets]

/-- **Looks at parallel dependencies** find the same: the same cycle, or none. -/
theorem cycle?_eq_of_look? {event event' : Event} (h : event ∈ events m) (h' : event' ∈ events m)
    {source target : String} (hlook : event.look? = some (source, target))
    (hlook' : event'.look? = some (source, target)) : event.cycle? = event'.cycle? := by
  obtain ⟨hcharted, -⟩ := walk_looks m
  obtain ⟨path, hpath, hcycle⟩ := hcharted.cycle_eq event h source target hlook
  obtain ⟨path', hpath', hcycle'⟩ := hcharted.cycle_eq event' h' source target hlook'
  have hnodup : (((events m).filterMap Event.entered?).map Prod.fst).Nodup := by
    rw [← List.nodup_reverse, ← hcharted.visited_eq]
    exact hcharted.nodup
  have hsame : (source, path) = (source, path') := List.inj_on_of_nodup_map hnodup hpath hpath' rfl
  rw [hcycle, hcycle', (Prod.mk.inj hsame).2]

end SystemSketch.Validation
