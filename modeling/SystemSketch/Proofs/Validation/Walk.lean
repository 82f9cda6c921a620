import Mathlib.Algebra.BigOperators.Group.List.Basic
import Mathlib.Algebra.GroupWithZero.Nat
import Mathlib.Data.List.Chain
import Mathlib.Data.List.Nodup
import SystemSketch.Validation.Cycle

/-!
# The walk through a model

A walk enters every node of a graph once and looks at every edge once. What it can do in one step
is said by `Moves`, one way after the other; that the walk ends, that it knows its own path, and
what it has seen of the edges behind it is kept by each way.

## Main definitions

* `IsGraph` — nodes that differ, with edges between them.
* `Walk.Moves` — what a step can do.
* `IsPathTo` — different nodes along a relation, of which the last one is given.
* `Walk.Sound` — the path of a walk leads along edges, through the nodes that are active.
* `Walk.remaining` — the number of steps that are left.
* `Walk.Recorded` — an edge from a node that has been left closes a cycle or leads to a node that
  was left earlier.

## Main results

* `Walk.moves_of_step` — a step moves the walk.
* `Walk.run_invariant` — what every step keeps holds after a run.
* `Walk.Sound.isPathTo` — the path of a sound walk.
* `Walk.Sound.moves`, `Walk.Recorded.moves` — a step keeps what a walk knows.
* `Walk.Sound.remaining_eq` — one step less is left after a step.
* `walk_ended` — the walk of a model ends, with every component entered.
* `exists_moves_of_mem_events` — what happens in it is done by a sound walk.
-/

namespace SystemSketch.Validation

/-- Nodes that differ, with edges between them. -/
structure IsGraph (nodes : List String) (edges : List (String × String)) : Prop where
  nodup : nodes.Nodup
  source_mem : ∀ edge ∈ edges, edge.1 ∈ nodes
  target_mem : ∀ edge ∈ edges, edge.2 ∈ nodes

/-- The node that is left in a step. -/
def Event.left? : Event → Option String
  | leave node => some node
  | _ => none

/-- The edge that closes a cycle in a step. -/
def Event.closing? : Event → Option (String × String)
  | close source target _ => some (source, target)
  | _ => none

/-- **A path** to a node along a relation: different nodes, from each of which the relation leads to
the next one, and the last of which is the node. -/
structure IsPathTo (R : String → String → Prop) (node : String) (path : List String) : Prop where
  nodup : path.Nodup
  chain : path.IsChain R
  getLast?_eq : path.getLast? = some node

variable {nodes : List String} {edges : List (String × String)}

/-- The targets of a node are where its edges lead to. -/
theorem mem_targets {source target : String} :
    target ∈ targets edges source ↔ (source, target) ∈ edges := by
  rw [targets, List.mem_map]
  constructor
  · rintro ⟨⟨u, v⟩, hmem, rfl⟩
    obtain ⟨hedge, hsource⟩ := List.mem_filter.mp hmem
    obtain rfl : u = source := beq_iff_eq.mp hsource
    exact hedge
  · intro hedge
    exact ⟨(source, target), List.mem_filter.mpr ⟨hedge, beq_self_eq_true source⟩, rfl⟩

namespace Walk

/-! ### What a step can do -/

/-- What a step can do. A walk with an open frame looks at the next target of the innermost one, or
leaves it; any other walk considers its next root. -/
inductive Moves (edges : List (String × String)) : Walk → Event → Walk → Prop
  | pass {root : String} {roots visited active : List String} (h : root ∈ visited) :
      Moves edges ⟨root :: roots, [], visited, active⟩ (.pass root) ⟨roots, [], visited, active⟩
  | enter {root : String} {roots visited active : List String} (h : root ∉ visited) :
      Moves edges ⟨root :: roots, [], visited, active⟩ (.enter root)
        ⟨roots, [⟨root, [root], targets edges root⟩], root :: visited, root :: active⟩
  | descend {roots visited active path left : List String} {node target : String}
      {frames : List Frame} (h : target ∉ visited) :
      Moves edges ⟨roots, ⟨node, path, target :: left⟩ :: frames, visited, active⟩
        (.descend node target (path ++ [target]))
        ⟨roots, ⟨target, path ++ [target], targets edges target⟩ :: ⟨node, path, left⟩ :: frames,
          target :: visited, target :: active⟩
  | close {roots visited active path left : List String} {node target : String}
      {frames : List Frame} (hvisited : target ∈ visited) (hactive : target ∈ active) :
      Moves edges ⟨roots, ⟨node, path, target :: left⟩ :: frames, visited, active⟩
        (.close node target (path.dropWhile (· != target) ++ [target]))
        ⟨roots, ⟨node, path, left⟩ :: frames, visited, active⟩
  | cross {roots visited active path left : List String} {node target : String}
      {frames : List Frame} (hvisited : target ∈ visited) (hactive : target ∉ active) :
      Moves edges ⟨roots, ⟨node, path, target :: left⟩ :: frames, visited, active⟩
        (.cross node target) ⟨roots, ⟨node, path, left⟩ :: frames, visited, active⟩
  | leave {roots visited active path : List String} {node : String} {frames : List Frame} :
      Moves edges ⟨roots, ⟨node, path, []⟩ :: frames, visited, active⟩ (.leave node)
        ⟨roots, frames, visited, active.erase node⟩

/-- **A step** moves the walk. -/
theorem moves_of_step {w w' : Walk} {event : Event} (h : w.step edges = some (event, w')) :
    Moves edges w event w' := by
  obtain ⟨roots, frames, visited, active⟩ := w
  rcases frames with _ | ⟨⟨node, path, left⟩, frames⟩
  · rcases roots with _ | ⟨root, roots⟩
    · cases h
    · by_cases hroot : root ∈ visited
      · simp only [step, List.contains_iff_mem, hroot, if_true, Option.some.injEq,
          Prod.mk.injEq] at h
        obtain ⟨rfl, rfl⟩ := h
        exact .pass hroot
      · simp only [step, List.contains_iff_mem, hroot, if_false, Option.some.injEq,
          Prod.mk.injEq] at h
        obtain ⟨rfl, rfl⟩ := h
        exact .enter hroot
  · rcases left with _ | ⟨target, left⟩
    · obtain ⟨rfl, rfl⟩ := Prod.mk.inj (Option.some.inj h)
      exact .leave
    · by_cases hvisited : target ∈ visited
      · by_cases hactive : target ∈ active
        · simp [step, hvisited, hactive] at h
          obtain ⟨rfl, rfl⟩ := h
          exact .close hvisited hactive
        · simp [step, hvisited, hactive] at h
          obtain ⟨rfl, rfl⟩ := h
          exact .cross hvisited hactive
      · simp [step, hvisited] at h
        obtain ⟨rfl, rfl⟩ := h
        exact .descend hvisited

/-- A walk has ended when no root is left to consider and no node to leave. -/
theorem step_eq_none_iff {w : Walk} : w.step edges = none ↔ w.roots = [] ∧ w.frames = [] := by
  obtain ⟨roots, frames, visited, active⟩ := w
  rcases frames with _ | ⟨⟨node, path, left⟩, frames⟩
  · rcases roots with _ | ⟨root, roots⟩
    · simp [step]
    · by_cases hroot : root ∈ visited <;> simp [step, hroot]
  · rcases left with _ | ⟨target, left⟩
    · simp [step]
    · by_cases hvisited : target ∈ visited
      · by_cases hactive : target ∈ active <;> simp [step, hvisited, hactive]
      · simp [step, hvisited]

/-- **What every step keeps** holds after a run, together with what happened in it. -/
theorem run_invariant (edges : List (String × String)) (P : List Event → Walk → Prop)
    (hstep : ∀ happened w event w', P happened w → Moves edges w event w' →
      P (happened ++ [event]) w') (count : Nat) {happened : List Event} {w : Walk}
    (h : P happened w) : P (happened ++ (w.run edges count).1) (w.run edges count).2 := by
  induction count generalizing happened w with
  | zero => simpa [run] using h
  | succ count ih =>
    cases hnext : w.step edges with
    | none => simpa [run, hnext] using h
    | some next =>
      obtain ⟨event, w'⟩ := next
      have hrest := ih (hstep happened w event w' h (moves_of_step hnext))
      simpa [run, hnext] using hrest

/-! ### The path of a walk -/

/-- Frames along which a walk can have come: an inner node is entered along an edge from the node
around it, and its path is that of the outer node with itself. -/
inductive Trail (edges : List (String × String)) : List Frame → Prop
  | nil : Trail edges []
  | root {node : String} {left : List String} (hleft : left <:+ targets edges node) :
      Trail edges [⟨node, [node], left⟩]
  | within {node : String} {left : List String} {outer : Frame} {frames : List Frame}
      (hleft : left <:+ targets edges node) (hedge : (outer.node, node) ∈ edges)
      (houter : Trail edges (outer :: frames)) :
      Trail edges (⟨node, outer.path ++ [node], left⟩ :: outer :: frames)

namespace Trail

variable {frame : Frame} {frames : List Frame}

/-- The frames around the innermost one. -/
theorem tail (h : Trail edges (frame :: frames)) : Trail edges frames := by
  cases h with
  | root => exact .nil
  | within _ _ houter => exact houter

/-- What is left of a frame are targets of its node. -/
theorem left_suffix (h : Trail edges (frame :: frames)) :
    frame.left <:+ targets edges frame.node := by
  cases h with
  | root hleft => exact hleft
  | within hleft _ _ => exact hleft

/-- Targets may be looked at. -/
theorem look {left : List String} (h : Trail edges (frame :: frames))
    (hleft : left <:+ frame.left) :
    Trail edges ({ frame with left := left } :: frames) := by
  cases h with
  | root hframe => exact .root (hleft.trans hframe)
  | within hframe hedge houter => exact .within (hleft.trans hframe) hedge houter

/-- **The path** to a node are the nodes of the frames, from the root to the node. -/
theorem path_eq (h : Trail edges (frame :: frames)) :
    frame.path = ((frame :: frames).map Frame.node).reverse := by
  induction frames generalizing frame with
  | nil => cases h; rfl
  | cons outer frames ih =>
    cases h with
    | within _ _ houter => rw [List.map_cons, List.reverse_cons, ih houter]

/-- A path ends in its node. -/
theorem getLast?_path (h : Trail edges (frame :: frames)) :
    frame.path.getLast? = some frame.node := by
  rw [h.path_eq, List.map_cons, List.reverse_cons, List.getLast?_concat]

/-- **A path leads along edges.** -/
theorem isChain_path (h : Trail edges (frame :: frames)) :
    frame.path.IsChain fun u v => (u, v) ∈ edges := by
  induction frames generalizing frame with
  | nil => cases h; exact List.isChain_singleton _
  | cons outer frames ih =>
    cases h with
    | within _ hedge houter =>
      refine (ih houter).append (List.isChain_singleton _) fun u hu v hv => ?_
      rw [houter.getLast?_path] at hu
      obtain rfl := Option.some.inj hu
      obtain rfl := Option.some.inj hv
      exact hedge

end Trail

/-- A walk is **sound**: it came along its frames, whose nodes are the active ones and have all been
entered, and every node has been entered or waits to be considered as a root. -/
structure Sound (nodes : List String) (edges : List (String × String)) (w : Walk) : Prop where
  trail : Trail edges w.frames
  active_eq : w.active = w.frames.map Frame.node
  nodup_active : w.active.Nodup
  visited_of_active : ∀ node ∈ w.active, node ∈ w.visited
  roots_mem : ∀ node ∈ w.roots, node ∈ nodes
  considered : ∀ node ∈ nodes, node ∈ w.roots ∨ node ∈ w.visited

section

variable {roots visited active : List String} {frame : Frame} {frames : List Frame}

/-- The nodes of the path to the innermost node are the active ones, in the order of entry. -/
theorem Sound.path_eq (h : Sound nodes edges ⟨roots, frame :: frames, visited, active⟩) :
    frame.path = active.reverse :=
  h.trail.path_eq.trans (congrArg List.reverse h.active_eq.symm)

/-- On the path to the innermost node are the active nodes. -/
theorem Sound.mem_path_iff {target : String}
    (h : Sound nodes edges ⟨roots, frame :: frames, visited, active⟩) :
    target ∈ frame.path ↔ target ∈ active := by
  rw [h.path_eq, List.mem_reverse]

/-- **The path of a sound walk** leads to the innermost node, along edges and over no node twice. -/
theorem Sound.isPathTo (h : Sound nodes edges ⟨roots, frame :: frames, visited, active⟩) :
    IsPathTo (fun u v => (u, v) ∈ edges) frame.node frame.path where
  nodup := by
    rw [h.path_eq, List.nodup_reverse]
    exact h.nodup_active
  chain := h.trail.isChain_path
  getLast?_eq := h.trail.getLast?_path

end

/-- The walk is sound before its first step. -/
theorem sound_start (nodes : List String) (edges : List (String × String)) :
    Sound nodes edges { roots := nodes } where
  trail := .nil
  active_eq := rfl
  nodup_active := List.nodup_nil
  visited_of_active _ h := absurd h List.not_mem_nil
  roots_mem _ h := h
  considered _ h := Or.inl h

/-- A root that has been entered no longer waits to be considered. -/
theorem considered_of_cons {root node : String} {roots visited visited' : List String}
    (hroot : root ∈ visited') (hmore : visited ⊆ visited')
    (h : node ∈ root :: roots ∨ node ∈ visited) : node ∈ roots ∨ node ∈ visited' := by
  rcases h with hnode | hnode
  · rcases List.mem_cons.mp hnode with rfl | hnode
    · exact Or.inr hroot
    · exact Or.inl hnode
  · exact Or.inr (hmore hnode)

/-- **A step keeps a walk sound.** -/
theorem Sound.moves {w w' : Walk} {event : Event} (h : Sound nodes edges w)
    (hmoves : Moves edges w event w') : Sound nodes edges w' := by
  obtain ⟨htrail, hactive, hnodup, hvisited, hroots, hconsidered⟩ := h
  cases hmoves with
  | pass hroot =>
    exact ⟨htrail, hactive, hnodup, hvisited, fun n hn => hroots n (List.mem_cons_of_mem _ hn),
      fun n hn => considered_of_cons hroot (List.Subset.refl _) (hconsidered n hn)⟩
  | @enter root roots visited active hroot =>
    have hfresh : root ∉ active := fun hmem => hroot (hvisited root hmem)
    exact ⟨.root (List.suffix_refl _), congrArg (root :: ·) hactive,
      List.nodup_cons.mpr ⟨hfresh, hnodup⟩, fun n hn => List.cons_subset_cons root hvisited hn,
      fun n hn => hroots n (List.mem_cons_of_mem _ hn), fun n hn =>
        considered_of_cons List.mem_cons_self (List.subset_cons_self _ _) (hconsidered n hn)⟩
  | @descend roots visited active path left node target frames htarget =>
    have hfresh : target ∉ active := fun hmem => htarget (hvisited target hmem)
    have hedge : (node, target) ∈ edges :=
      mem_targets.mp (htrail.left_suffix.subset List.mem_cons_self)
    exact ⟨.within (List.suffix_refl _) hedge (htrail.look (List.suffix_cons _ _)),
      congrArg (target :: ·) hactive, List.nodup_cons.mpr ⟨hfresh, hnodup⟩,
      fun n hn => List.cons_subset_cons target hvisited hn, hroots,
      fun n hn => (hconsidered n hn).imp_right (List.mem_cons_of_mem _)⟩
  | close _ _ =>
    exact ⟨htrail.look (List.suffix_cons _ _), hactive, hnodup, hvisited, hroots, hconsidered⟩
  | cross _ _ =>
    exact ⟨htrail.look (List.suffix_cons _ _), hactive, hnodup, hvisited, hroots, hconsidered⟩
  | @leave roots visited active path node frames =>
    obtain rfl : active = node :: frames.map Frame.node := hactive
    rw [List.erase_cons_head]
    exact ⟨htrail.tail, rfl, (List.nodup_cons.mp hnodup).2,
      fun n hn => hvisited n (List.mem_cons_of_mem _ hn), hroots, hconsidered⟩

/-! ### The end of a walk -/

/-- The steps that the nodes outside `visited` still need: a look at each target, and the leaving.
-/
def outstanding (nodes : List String) (edges : List (String × String)) (visited : List String) :
    Nat :=
  ((nodes.filter fun node => !visited.contains node).map fun node =>
    (targets edges node).length + 1).sum

/-- The number of steps that are left: the roots are considered, the frames and the nodes that have
not been entered are left after a look at each of their targets. -/
def remaining (nodes : List String) (edges : List (String × String)) (w : Walk) : Nat :=
  w.roots.length + (w.frames.map fun frame => frame.left.length + 1).sum +
    outstanding nodes edges w.visited

/-- A node that is entered is no longer outstanding. -/
theorem outstanding_cons (edges : List (String × String)) (hnodup : nodes.Nodup) {node : String}
    (hmem : node ∈ nodes) {visited : List String} (hnew : node ∉ visited) :
    outstanding nodes edges visited =
      (targets edges node).length + 1 + outstanding nodes edges (node :: visited) := by
  have hperm : (nodes.filter fun n => !visited.contains n).Perm
      (node :: nodes.filter fun n => !(node :: visited).contains n) := by
    rw [List.perm_ext_iff_of_nodup (hnodup.filter _)
      (List.nodup_cons.mpr ⟨by simp, hnodup.filter _⟩)]
    intro n
    by_cases hn : n = node
    · simp [hn, hmem, hnew]
    · simp [hn]
  rw [outstanding, (hperm.map _).sum_eq, List.map_cons, List.sum_cons, outstanding]

/-- **One step less** is left after a step. -/
theorem Sound.remaining_eq (hgraph : IsGraph nodes edges) {w w' : Walk} {event : Event}
    (h : Sound nodes edges w) (hmoves : Moves edges w event w') :
    remaining nodes edges w = remaining nodes edges w' + 1 := by
  cases hmoves with
  | pass => simp only [remaining, List.length_cons]; omega
  | enter hroot =>
    have hnode := outstanding_cons edges hgraph.nodup
      (h.roots_mem _ List.mem_cons_self) hroot
    simp only [remaining, List.length_cons, List.map_cons, List.map_nil, List.sum_cons,
      List.sum_nil]
    omega
  | @descend roots visited active path left node target frames htarget =>
    have hedge := mem_targets.mp (h.trail.left_suffix.subset List.mem_cons_self)
    have hmem : target ∈ nodes := hgraph.target_mem _ hedge
    have hnode := outstanding_cons edges hgraph.nodup hmem htarget
    simp only [remaining, List.length_cons, List.map_cons, List.sum_cons]
    omega
  | close => simp only [remaining, List.length_cons, List.map_cons, List.sum_cons]; omega
  | cross => simp only [remaining, List.length_cons, List.map_cons, List.sum_cons]; omega
  | leave => simp only [remaining, List.length_nil, List.map_cons, List.sum_cons]; omega

/-- A run of enough steps ends. -/
theorem Sound.ended (hgraph : IsGraph nodes edges) {w : Walk} (h : Sound nodes edges w)
    {count : Nat} (hcount : remaining nodes edges w ≤ count) :
    (w.run edges count).2.step edges = none := by
  induction count generalizing w with
  | zero =>
    cases hnext : w.step edges with
    | none => exact hnext
    | some next =>
      have := h.remaining_eq hgraph (moves_of_step hnext)
      omega
  | succ count ih =>
    cases hnext : w.step edges with
    | none => simp [run, hnext]
    | some next =>
      obtain ⟨event, w'⟩ := next
      have hmoves := moves_of_step hnext
      have hless := h.remaining_eq hgraph hmoves
      simpa [run, hnext] using ih (h.moves hmoves) (by omega)

/-- No node has more targets than there are edges, nor have all nodes together. -/
theorem sum_targets_le (hnodup : nodes.Nodup) (edges : List (String × String)) :
    (nodes.map fun node => (targets edges node).length).sum ≤ edges.length := by
  induction edges with
  | nil => simp [targets]
  | cons edge rest ih =>
    have hsplit : ∀ node, (targets (edge :: rest) node).length =
        (targets rest node).length + if edge.1 = node then 1 else 0 := by
      intro node
      by_cases h : edge.1 = node <;> simp [targets, h]
    have hone : (nodes.map fun node => if edge.1 = node then 1 else 0).sum ≤ 1 := by
      rw [List.sum_map_eq_nsmul_single edge.1 _ fun n hn _ => if_neg hn.symm, if_pos rfl]
      exact (Nat.mul_one _).trans_le (List.nodup_iff_count_le_one.mp hnodup edge.1)
    simp only [hsplit, List.sum_map_add, List.length_cons]
    omega

/-- The steps of a whole walk. -/
theorem remaining_start_le (edges : List (String × String)) (hnodup : nodes.Nodup) :
    remaining nodes edges { roots := nodes } ≤ 2 * nodes.length + edges.length := by
  have hall : (nodes.filter fun node => !([] : List String).contains node) = nodes := by simp
  have hsum := sum_targets_le hnodup edges
  simp only [remaining, outstanding, List.map_nil, List.sum_nil, hall, List.sum_map_add,
    List.map_const', List.sum_const_nat]
  omega

/-! ### What a walk has seen -/

/-- What has been seen of the targets of the frames: each one is still to be looked at, or it closes
a cycle, or it has been left, or it is `inner?`, the node of the frame within. -/
def Looked (edges : List (String × String)) (happened : List Event) :
    (inner? : Option String) → List Frame → Prop
  | _, [] => True
  | inner?, frame :: frames =>
    (∀ target ∈ targets edges frame.node,
      target ∈ frame.left ∨ (frame.node, target) ∈ happened.filterMap Event.closing? ∨
        target ∈ happened.filterMap Event.left? ∨ inner? = some target) ∧
    Looked edges happened (some frame.node) frames

/-- What has been seen is not lost when more happens. -/
theorem Looked.mono {happened : List Event} (event : Event) {inner? : Option String}
    {frames : List Frame} (h : Looked edges happened inner? frames) :
    Looked edges (happened ++ [event]) inner? frames := by
  induction frames generalizing inner? with
  | nil => trivial
  | cons frame frames ih =>
    refine ⟨fun target htarget => ?_, ih h.2⟩
    rw [List.filterMap_append, List.filterMap_append, List.mem_append, List.mem_append]
    rcases h.1 target htarget with hleft | hclosing | hgone | hinner
    · exact Or.inl hleft
    · exact Or.inr (Or.inl (Or.inl hclosing))
    · exact Or.inr (Or.inr (Or.inl (Or.inl hgone)))
    · exact Or.inr (Or.inr (Or.inr hinner))

/-- The record of a walk: every node that has been entered is active or has been left, and **an edge
from a node that has been left closes a cycle or leads to a node that was left earlier**. -/
structure Recorded (edges : List (String × String)) (happened : List Event) (w : Walk) : Prop where
  visited : ∀ node ∈ w.visited, node ∈ w.active ∨ node ∈ happened.filterMap Event.left?
  left : ∀ before node after, happened.filterMap Event.left? = before ++ node :: after →
    ∀ target ∈ targets edges node,
      (node, target) ∈ happened.filterMap Event.closing? ∨ target ∈ before
  looked : Looked edges happened none w.frames

/-- The record is empty before the first step. -/
theorem recorded_start (roots : List String) (edges : List (String × String)) :
    Recorded edges [] { roots := roots } where
  visited _ h := absurd h List.not_mem_nil
  left before node after h := by simp at h
  looked := trivial

/-- A step that leaves no node and looks at no edge adds to the record what it enters. -/
theorem Recorded.of_event {happened : List Event} {event : Event} {w w' : Walk}
    (h : Recorded edges happened w) (hleft : event.left? = none)
    (hvisited : ∀ node ∈ w'.visited, node ∈ w'.active ∨ node ∈ happened.filterMap Event.left?)
    (hlooked : Looked edges (happened ++ [event]) none w'.frames) :
    Recorded edges (happened ++ [event]) w' := by
  have hsame : (happened ++ [event]).filterMap Event.left? = happened.filterMap Event.left? := by
    rw [List.filterMap_append, List.filterMap_cons_none hleft, List.filterMap_nil, List.append_nil]
  refine ⟨fun node hnode => ?_, fun before node after hsplit target htarget => ?_, hlooked⟩
  · rw [hsame]
    exact hvisited node hnode
  · rw [hsame] at hsplit
    refine (h.left before node after hsplit target htarget).imp_left fun hclosing => ?_
    rw [List.filterMap_append]
    exact List.mem_append_left _ hclosing

/-- The innermost frame after a look at one target, of which is known what became of it. -/
theorem Looked.look {happened : List Event} (event : Event) {node target : String}
    {path left : List String} {frames : List Frame}
    (h : Looked edges happened none (⟨node, path, target :: left⟩ :: frames))
    {inner? : Option String}
    (htarget : (node, target) ∈ (happened ++ [event]).filterMap Event.closing? ∨
      target ∈ (happened ++ [event]).filterMap Event.left? ∨ inner? = some target) :
    Looked edges (happened ++ [event]) inner? (⟨node, path, left⟩ :: frames) := by
  obtain ⟨hframe, hframes⟩ := h.mono event
  refine ⟨fun t ht => ?_, hframes⟩
  rcases hframe t ht with hmem | hclosing | hgone | hinner
  · rcases List.mem_cons.mp hmem with rfl | hmem
    · exact Or.inr htarget
    · exact Or.inl hmem
  · exact Or.inr (Or.inl hclosing)
  · exact Or.inr (Or.inr (Or.inl hgone))
  · cases hinner

/-- What leaving a node adds to the nodes that have been left. -/
theorem filterMap_left?_leave (happened : List Event) (node : String) :
    (happened ++ [Event.leave node]).filterMap Event.left? =
      happened.filterMap Event.left? ++ [node] := by
  rw [List.filterMap_append]
  rfl

/-- The frame around a node that is left. -/
theorem Looked.leave {happened : List Event} {node : String} {frames : List Frame}
    (h : Looked edges happened (some node) frames) :
    Looked edges (happened ++ [.leave node]) none frames := by
  cases frames with
  | nil => trivial
  | cons frame frames =>
    obtain ⟨hframe, hframes⟩ := h.mono (.leave node)
    refine ⟨fun target htarget => ?_, hframes⟩
    rcases hframe target htarget with hmem | hclosing | hgone | hinner
    · exact Or.inl hmem
    · exact Or.inr (Or.inl hclosing)
    · exact Or.inr (Or.inr (Or.inl hgone))
    · obtain rfl := Option.some.inj hinner
      rw [filterMap_left?_leave]
      exact Or.inr (Or.inr (Or.inl List.mem_concat_self))

/-- What has been entered is active or has been left, also with one more node. -/
theorem Recorded.visited_cons {happened : List Event} {w : Walk} (h : Recorded edges happened w)
    (node : String) :
    ∀ n ∈ node :: w.visited, n ∈ node :: w.active ∨ n ∈ happened.filterMap Event.left? := by
  intro n hn
  rcases List.mem_cons.mp hn with rfl | hn
  · exact Or.inl List.mem_cons_self
  · exact (h.visited n hn).imp_left (List.mem_cons_of_mem _)

/-- **A step keeps the record.** -/
theorem Recorded.moves {happened : List Event} {w w' : Walk} {event : Event}
    (h : Recorded edges happened w) (hsound : Sound nodes edges w)
    (hmoves : Moves edges w event w') : Recorded edges (happened ++ [event]) w' := by
  cases hmoves with
  | pass => exact h.of_event rfl h.visited (h.looked.mono _)
  | enter => exact h.of_event rfl (h.visited_cons _) ⟨fun target htarget => Or.inl htarget, trivial⟩
  | descend =>
    exact h.of_event rfl (h.visited_cons _)
      ⟨fun target htarget => Or.inl htarget, h.looked.look _ (Or.inr (Or.inr rfl))⟩
  | close =>
    refine h.of_event rfl h.visited (h.looked.look _ (Or.inl ?_))
    simp [Event.closing?]
  | cross hvisited hactive =>
    -- the target was entered and is not active, so it has been left
    refine h.of_event rfl h.visited (h.looked.look _ (Or.inr (Or.inl ?_)))
    rw [List.filterMap_append]
    exact List.mem_append_left _ ((h.visited _ hvisited).resolve_left hactive)
  | @leave roots visited active path node frames =>
    obtain rfl : active = node :: frames.map Frame.node := hsound.active_eq
    obtain ⟨hframe, hframes⟩ := h.looked
    refine ⟨fun n hn => ?_, fun before n after hsplit target htarget => ?_, hframes.leave⟩
    · rw [List.erase_cons_head, filterMap_left?_leave, List.mem_append, List.mem_singleton]
      rcases h.visited n hn with hactive | hleft
      · exact (List.mem_cons.mp hactive).elim (fun heq => Or.inr (Or.inr heq)) Or.inl
      · exact Or.inr (Or.inl hleft)
    · rw [filterMap_left?_leave] at hsplit
      have hclosing : ∀ edge, edge ∈ happened.filterMap Event.closing? →
          edge ∈ (happened ++ [Event.leave node]).filterMap Event.closing? := fun edge hedge => by
        rw [List.filterMap_append]
        exact List.mem_append_left _ hedge
      rcases List.eq_nil_or_concat after with rfl | ⟨earlier, last, rfl⟩
      · -- the node that is left now: all its targets have been looked at
        obtain ⟨rfl, hlast⟩ := List.append_inj' hsplit rfl
        obtain rfl : node = n := List.singleton_inj.mp hlast
        rcases hframe target htarget with hmem | hedge | hgone | hinner
        · cases hmem
        · exact Or.inl (hclosing _ hedge)
        · exact Or.inr hgone
        · cases hinner
      · rw [List.concat_eq_append, ← List.cons_append, ← List.append_assoc] at hsplit
        obtain ⟨hsplit, -⟩ := List.append_inj' hsplit rfl
        exact (h.left before n earlier hsplit target htarget).imp_left (hclosing _)

end Walk

/-! ### The walk of a model -/

/-- The components of a model and its dependencies. -/
theorem isGraph_dependencies (m : Model) : IsGraph m.components.keys (dependencies m) := by
  have hends : ∀ edge ∈ dependencies m,
      edge.1 ∈ m.components.keys ∧ edge.2 ∈ m.components.keys := by
    intro edge hedge
    obtain ⟨i, hi, rfl⟩ := List.mem_map.mp hedge
    have hdraws := (List.mem_filter.mp (List.mem_filter.mp hi).1).2
    rw [Model.draws, Bool.and_eq_true, Model.has, Model.has, Keyed.contains_iff,
      Keyed.contains_iff] at hdraws
    exact hdraws
  exact ⟨m.components.nodup_keys, fun edge h => (hends edge h).1, fun edge h => (hends edge h).2⟩

open Walk in
/-- **The walk of a model** is sound and recorded, and it has ended: every component has been
considered as a root, and every node that was entered has been left. -/
theorem walk_ended (m : Model) :
    Sound m.components.keys (dependencies m) (walk m).2 ∧
      Recorded (dependencies m) (events m) (walk m).2 ∧
      (walk m).2.roots = [] ∧ (walk m).2.frames = [] := by
  have hgraph := isGraph_dependencies m
  have hstart := sound_start m.components.keys (dependencies m)
  have hrun := run_invariant (dependencies m)
    (fun happened w => Sound m.components.keys (dependencies m) w ∧
      Recorded (dependencies m) happened w)
    (fun _ _ _ _ h hmoves => ⟨h.1.moves hmoves, h.2.moves h.1 hmoves⟩)
    (walkLength m) ⟨hstart, recorded_start m.components.keys (dependencies m)⟩
  have hlength : m.components.keys.length = m.components.size := List.length_map _
  have hcount := remaining_start_le (dependencies m) hgraph.nodup
  rw [hlength] at hcount
  exact ⟨hrun.1, hrun.2, step_eq_none_iff.mp (hstart.ended hgraph hcount)⟩

open Walk in
/-- **Everything that happens** in the walk of a model is what a sound walk does in one step. -/
theorem exists_moves_of_mem_events {m : Model} {event : Event} (h : event ∈ events m) :
    ∃ w w', Sound m.components.keys (dependencies m) w ∧ Moves (dependencies m) w event w' := by
  have hrun := run_invariant (dependencies m)
    (fun happened w => Sound m.components.keys (dependencies m) w ∧ ∀ event ∈ happened,
      ∃ w w', Sound m.components.keys (dependencies m) w ∧ Moves (dependencies m) w event w')
    ?_ (walkLength m)
    ⟨sound_start m.components.keys (dependencies m), fun _ hmem => absurd hmem List.not_mem_nil⟩
  · exact hrun.2 event h
  · rintro happened w event w' ⟨hsound, hbefore⟩ hmoves
    refine ⟨hsound.moves hmoves, fun e he => ?_⟩
    rcases List.mem_append.mp he with he | he
    · exact hbefore e he
    · obtain rfl := List.mem_singleton.mp he
      exact ⟨w, w', hsound, hmoves⟩

end SystemSketch.Validation
