import SystemSketch.Proofs.Validation.Agreement
import SystemSketch.Proofs.Validation.Walk

/-!
# Circuits and reported cycles

A circuit leads along dependencies and ends where it began. The walk of a model leaves the target of
a dependency before its source unless the dependency closes a cycle. So a circuit, along which
nodes cannot have been left earlier and earlier, passes over a dependency that closes one; and every
cycle that the walk closes is a circuit.

## Main definitions

* `DependsOn` — a drawn interaction leads from one component to another one.
* `IsCircuit` — nodes along a relation that end where they began.
* `IsCycle` — different components, each of which leads to the next one, and the last to the first.

## Main results

* `isCircuit_of_close` — what the walk closes is a circuit, whose last step is the closing one.
* `exists_closing_of_isCircuit` — every circuit passes over a dependency that closes a cycle.
* `circuit_reported` — unless three cycles are reported, every circuit passes over the last step of
  a reported one; and a cycle is reported exactly if there is a circuit.
* `cycle_genuine` — every reported cycle is a cycle of the model.
-/

namespace SystemSketch.Validation

/-- Whether a component depends on another one: a drawn interaction leads from it to the other. -/
def DependsOn (m : Model) (u v : String) : Prop :=
  u ≠ v ∧ ∃ i ∈ m.renderable, i.source = u ∧ i.target = v

/-- A **circuit** of a relation: at least one step along the relation, and in the end the node where
it began. -/
structure IsCircuit (R : String → String → Prop) (nodes : List String) : Prop where
  chain : nodes.IsChain R
  closed : nodes.head? = nodes.getLast?
  two_le : 2 ≤ nodes.length

/-- A **cycle** of a model: at least two components, all different, from each of which a drawn
interaction leads to the next one, and from the last one back to the first. -/
structure IsCycle (m : Model) (first : String) (rest : List String) : Prop where
  ne_nil : rest ≠ []
  nodup : (first :: rest).Nodup
  has : ∀ node ∈ first :: rest, m.has node = true
  chain : (first :: (rest ++ [first])).IsChain fun u v =>
    ∃ i ∈ m.renderable, i.source = u ∧ i.target = v

variable {m : Model}

/-- The dependencies of a model are the pairs of different components between which an interaction
is drawn. -/
theorem mem_dependencies {u v : String} : (u, v) ∈ dependencies m ↔ DependsOn m u v := by
  simp only [dependencies, List.mem_map, List.mem_filter, bne_iff_ne, Prod.mk.injEq, DependsOn]
  constructor
  · rintro ⟨i, ⟨hi, hne⟩, rfl, rfl⟩
    exact ⟨hne, i, hi, rfl, rfl⟩
  · rintro ⟨hne, i, hi, rfl, rfl⟩
    exact ⟨i, ⟨hi, hne⟩, rfl, rfl⟩

/-! ### What is closed is a circuit -/

/-- **A path cut in front of one of its nodes** begins with that node. -/
theorem exists_dropWhile_eq {path : List String} {target : String} (h : target ∈ path) :
    ∃ before after, path = before ++ target :: after ∧
      path.dropWhile (· != target) = target :: after := by
  obtain ⟨before, after, rfl, hbefore⟩ := List.eq_append_cons_of_mem h
  refine ⟨before, after, rfl, ?_⟩
  have hothers : ∀ node ∈ before, (node != target) = true := fun node hnode =>
    bne_iff_ne.mpr fun heq : node = target => hbefore (heq ▸ hnode)
  exact Text.dropWhile_append_cons hothers (bne_self_eq_false target) after

/-- **The path back** from a node to itself. A path that leads along a relation to `source`, cut in
front of one of its nodes `target` and closed by that node, is a circuit if the relation leads from
`source` to `target`, and this is its last step. -/
theorem isCircuit_closing {R : String → String → Prop} {path : List String} {source target : String}
    (hchain : path.IsChain R) (hlast : path.getLast? = some source) (hmem : target ∈ path)
    (hstep : R source target) :
    IsCircuit R (path.dropWhile (· != target) ++ [target]) ∧
      [source, target] <:+ path.dropWhile (· != target) ++ [target] := by
  obtain ⟨before, after, rfl, hdrop⟩ := exists_dropWhile_eq hmem
  have hback : (target :: after).IsChain R := hchain.right_of_append
  have hsource : (target :: after).getLast? = some source := by
    rw [← hlast, List.getLast?_append_of_ne_nil _ (List.cons_ne_nil _ _)]
  obtain ⟨front, hfront⟩ := List.getLast?_eq_some_iff.mp hsource
  rw [hdrop]
  refine ⟨⟨?_, ?_, ?_⟩, ⟨front, ?_⟩⟩
  · refine hback.append (List.isChain_singleton _) fun u hu v hv => ?_
    rw [hsource] at hu
    obtain rfl := Option.some.inj hu
    obtain rfl := Option.some.inj hv
    exact hstep
  · rw [List.cons_append, List.head?_cons, ← List.cons_append, List.getLast?_concat]
  · simp
  · rw [hfront, List.append_assoc]
    rfl

/-- **Where a cycle is closed**: a path leads along dependencies to the source, over no node twice;
the target is one of its nodes, and the cycle is the path from there on, back to the target. -/
theorem exists_path_of_close {source target : String} {cycle : List String}
    (h : Event.close source target cycle ∈ events m) :
    ∃ path : List String, path.IsChain (DependsOn m) ∧ path.Nodup ∧
      path.getLast? = some source ∧ target ∈ path ∧ DependsOn m source target ∧
      cycle = path.dropWhile (· != target) ++ [target] := by
  obtain ⟨w, w', hsound, hmoves⟩ := exists_moves_of_mem_events h
  cases hmoves with
  | @close roots visited active path left node target frames hvisited hactive =>
    have hedge := mem_targets.mp (hsound.trail.left_suffix.subset List.mem_cons_self)
    have hpath := hsound.isPathTo
    exact ⟨path, hpath.chain.imp fun _ _ => mem_dependencies.mp, hpath.nodup, hpath.getLast?_eq,
      hsound.mem_path_iff.mpr hactive, mem_dependencies.mp hedge, rfl⟩

/-- **A cycle that is closed** in the walk of a model is a circuit of its dependencies, and its last
step is the one that closes it. -/
theorem isCircuit_of_close {source target : String} {cycle : List String}
    (h : Event.close source target cycle ∈ events m) :
    IsCircuit (DependsOn m) cycle ∧ [source, target] <:+ cycle := by
  obtain ⟨path, hchain, -, hlast, hmem, hstep, rfl⟩ := exists_path_of_close h
  exact isCircuit_closing hchain hlast hmem hstep

/-! ### A closed cycle meets no component twice -/

/-- From every node of a chain but the last one, the relation leads on. -/
theorem exists_rel_of_mem_chain {R : String → String → Prop} {nodes : List String}
    {node last : String} (h : (nodes ++ [last]).IsChain R) (hmem : node ∈ nodes) :
    ∃ next, R node next := by
  obtain ⟨before, after, rfl⟩ := List.append_of_mem hmem
  rw [List.append_assoc, List.cons_append] at h
  have hback : (node :: (after ++ [last])).IsChain R := h.right_of_append
  cases after with
  | nil => exact ⟨last, List.isChain_cons_cons.mp hback |>.1⟩
  | cons next after => exact ⟨next, List.isChain_cons_cons.mp hback |>.1⟩

/-- **A cycle that is closed** in the walk of a model is a cycle of the model. -/
theorem exists_isCycle_of_close {source target : String} {cycle : List String}
    (h : Event.close source target cycle ∈ events m) :
    ∃ rest, cycle = target :: (rest ++ [target]) ∧ IsCycle m target rest := by
  obtain ⟨path, -, hnodup, hlast, hmem, hstep, hcycle⟩ := exists_path_of_close h
  obtain ⟨before, rest, hpath, hdrop⟩ := exists_dropWhile_eq hmem
  rw [hdrop, List.cons_append] at hcycle
  have hchain : (target :: (rest ++ [target])).IsChain (DependsOn m) :=
    hcycle ▸ (isCircuit_of_close h).1.chain
  refine ⟨rest, hcycle, ?_, ?_, fun node hnode => ?_, hchain.imp fun _ _ hdepends => hdepends.2⟩
  · -- the path would end in the target, which is not the source
    rintro rfl
    rw [hpath, List.getLast?_concat] at hlast
    exact hstep.1 (Option.some.inj hlast).symm
  · rw [hpath] at hnodup
    exact (List.nodup_append.mp hnodup).2.1
  · obtain ⟨next, -, i, hi, rfl, -⟩ := exists_rel_of_mem_chain hchain hnode
    exact (Model.has_of_mem_renderable hi).1

/-! ### Every circuit is met -/

/-- **A circuit cannot descend**: no number goes down with every step of a circuit. -/
theorem IsCircuit.not_descending {R : String → String → Prop} {nodes : List String}
    (h : IsCircuit R nodes) (rank : String → Nat) :
    ¬nodes.IsChain fun u v => rank v < rank u := by
  intro hdown
  have hpairs : nodes.Pairwise fun u v => rank v < rank u := by
    have : IsTrans String fun u v => rank v < rank u := ⟨fun _ _ _ huv hvw => hvw.trans huv⟩
    exact List.isChain_iff_pairwise.mp hdown
  obtain ⟨-, hclosed, hlength⟩ := h
  rcases nodes with _ | ⟨first, rest⟩
  · exact absurd hlength (by decide)
  · have hne : rest ≠ [] := fun hnil => by simp [hnil] at hlength
    have hlast : first ∈ rest := by
      rw [List.head?_cons, List.getLast?_cons, Option.some.injEq,
        List.getLast?_eq_some_getLast hne, Option.getD_some] at hclosed
      rw [hclosed]
      exact List.getLast_mem hne
    exact lt_irrefl _ (List.rel_of_pairwise_cons hpairs hlast)

/-- **Left earlier.** The target of a dependency that closes no cycle was left before its source. -/
theorem idxOf_lt_of_not_closing {u v : String} (h : DependsOn m u v)
    (hopen : (u, v) ∉ (events m).filterMap Event.closing?) :
    ((events m).filterMap Event.left?).idxOf v < ((events m).filterMap Event.left?).idxOf u := by
  obtain ⟨hsound, hrecorded, hroots, hframes⟩ := walk_ended m
  have hedge := mem_dependencies.mpr h
  have hleft : u ∈ (events m).filterMap Event.left? := by
    have hconsidered := hsound.considered u ((isGraph_dependencies m).source_mem _ hedge)
    rw [hroots] at hconsidered
    have hvisited := hrecorded.visited u (hconsidered.resolve_left List.not_mem_nil)
    rw [hsound.active_eq, hframes] at hvisited
    exact hvisited.resolve_left List.not_mem_nil
  obtain ⟨before, after, hsplit, hfirst⟩ := List.eq_append_cons_of_mem hleft
  have hearlier : v ∈ before :=
    (hrecorded.left before u after hsplit v (mem_targets.mpr hedge)).resolve_left hopen
  rw [hsplit, List.idxOf_append_of_mem hearlier, List.idxOf_append_of_notMem hfirst,
    List.idxOf_cons_self, Nat.add_zero]
  exact List.idxOf_lt_length_of_mem hearlier

/-- **Every circuit** of a model passes over a dependency that closes a cycle. -/
theorem exists_closing_of_isCircuit {nodes : List String} (h : IsCircuit (DependsOn m) nodes) :
    ∃ u v cycle, Event.close u v cycle ∈ events m ∧ [u, v] <:+: nodes := by
  by_contra hnone
  refine h.not_descending (((events m).filterMap Event.left?).idxOf ·) ?_
  rw [List.isChain_iff_forall_rel_of_append_cons_cons]
  rintro u v before after rfl
  have hstep : DependsOn m u v :=
    List.isChain_iff_forall_rel_of_append_cons_cons.mp h.chain rfl
  refine idxOf_lt_of_not_closing hstep fun hclosing => hnone ?_
  obtain ⟨event, hevent, hedge⟩ := List.mem_filterMap.mp hclosing
  cases event with
  | close source target cycle =>
    obtain ⟨rfl, rfl⟩ := Prod.mk.inj (Option.some.inj hedge)
    exact ⟨source, target, cycle, hevent, before, after, by simp⟩
  | _ => cases hedge

/-! ### Reported cycles -/

/-- The cycles are those of the events that close one. -/
theorem mem_cycles {cycle : List String} :
    cycle ∈ cycles m ↔ ∃ u v, Event.close u v cycle ∈ events m := by
  rw [cycles, List.mem_filterMap]
  constructor
  · rintro ⟨event, hevent, hcycle⟩
    cases event with
    | close source target _ =>
      obtain rfl := Option.some.inj hcycle
      exact ⟨source, target, hevent⟩
    | _ => cases hcycle
  · rintro ⟨u, v, hevent⟩
    exact ⟨_, hevent, rfl⟩

/-- **Cycle detection is complete.** The graph of a model leads from the source to the target of
every drawn interaction between different components. If fewer than three circular dependencies are
reported, strictly or not, then every circuit of the graph passes over the last step of a reported
one; and none is reported exactly if the graph has no circuit. -/
theorem circuit_reported (m : Model) (strict : Bool) :
    let reported := (validate m strict).issues.filter (·.code == "CIRCULAR_DEPENDENCY")
    (reported.length < 3 → ∀ nodes, IsCircuit (DependsOn m) nodes →
      ∃ cycle u v, .cycle cycle ∈ reported ∧ [u, v] <:+ cycle ∧ [u, v] <:+: nodes) ∧
    (reported = [] ↔ ∀ nodes, ¬IsCircuit (DependsOn m) nodes) := by
  have hreported : (validate m strict).issues.filter (·.code == "CIRCULAR_DEPENDENCY") =
      ((cycles m).take cycleLimit).map .cycle :=
    filter_code m _ (circularDependencies m) (by simp [families])
  rw [hreported]
  have hcomplete : (((cycles m).take cycleLimit).map Issue.cycle).length < 3 →
      ∀ nodes, IsCircuit (DependsOn m) nodes →
        ∃ cycle u v, .cycle cycle ∈ ((cycles m).take cycleLimit).map Issue.cycle ∧
          [u, v] <:+ cycle ∧ [u, v] <:+: nodes := by
    intro hfew nodes hnodes
    obtain ⟨u, v, cycle, hclose, hpasses⟩ := exists_closing_of_isCircuit hnodes
    -- fewer than the limit are reported, so all of them are
    have hall : (cycles m).take cycleLimit = cycles m := by
      rw [List.length_map, List.length_take, cycleLimit] at hfew
      exact List.take_of_length_le (by rw [cycleLimit]; omega)
    rw [hall]
    exact ⟨cycle, u, v, List.mem_map_of_mem (mem_cycles.mpr ⟨u, v, hclose⟩),
      (isCircuit_of_close hclose).2, hpasses⟩
  refine ⟨hcomplete, fun hnone nodes hnodes => ?_, fun hacyclic => ?_⟩
  · obtain ⟨cycle, u, v, hcycle, -⟩ := hcomplete (by simp [hnone]) nodes hnodes
    rw [hnone] at hcycle
    cases hcycle
  · rw [List.map_eq_nil_iff, List.eq_nil_iff_forall_not_mem]
    intro cycle hcycle
    obtain ⟨u, v, hclose⟩ := mem_cycles.mp (List.mem_of_mem_take hcycle)
    exact hacyclic cycle (isCircuit_of_close hclose).1

/-- Three services that depend on each other: in a ring, back from the second one to the first, and
a second time from the first one to the second. -/
def ring : Model :=
  Model.empty.after
    ((["A", "B", "C"].map fun id => .upsert { id := id, kind := .service, label := id }) ++
      [("A", "B"), ("B", "C"), ("C", "A"), ("B", "A"), ("A", "B")].map fun (source, target) =>
        .append { source := source, target := target, label := "injects" })

/-- Two cycles are reported in the ring, and the way around it from the second service passes over
the last step of one of them. -/
theorem circuit_reported_ring :
    let reported := (validate ring).issues.filter (·.code == "CIRCULAR_DEPENDENCY")
    (reported.length = 2 ∧ IsCircuit (DependsOn ring) ["B", "C", "A", "B"]) ∧
      (∃ cycle u v, .cycle cycle ∈ reported ∧ [u, v] <:+ cycle ∧
        [u, v] <:+: ["B", "C", "A", "B"]) ∧
      reported ≠ [] := by
  have hcount : ((validate ring).issues.filter (·.code == "CIRCULAR_DEPENDENCY")).length = 2 := by
    decide +kernel
  have hround : IsCircuit (DependsOn ring) ["B", "C", "A", "B"] := by
    refine ⟨?_, rfl, by decide⟩
    simp only [List.isChain_cons_cons, List.isChain_singleton, ← mem_dependencies, and_true]
    decide +kernel
  obtain ⟨hpasses, hacyclic⟩ := circuit_reported ring false
  exact ⟨⟨hcount, hround⟩, hpasses (hcount ▸ by decide) _ hround,
    fun hnone => hacyclic.mp hnone _ hround⟩

/-- **Reported cycles are genuine.** Every cycle that the walk of a model records leads from a
component of the model along drawn interactions through at least one other component, over none of
them twice, and back to it. The circular dependencies that are reported, strictly or not, are the
first three of these cycles at most, and each message shows the nodes of its cycle in order. -/
theorem cycle_genuine (m : Model) (strict : Bool) :
    let reported := (validate m strict).issues.filter (·.code == "CIRCULAR_DEPENDENCY")
    (∀ nodes ∈ cycles m, ∃ first rest, nodes = first :: (rest ++ [first]) ∧
      IsCycle m first rest) ∧
    reported.length ≤ 3 ∧
    reported.map Issue.message = ((cycles m).take 3).map fun nodes =>
      "Circular dependency detected: " ++ String.intercalate " -> " nodes := by
  have hreported : (validate m strict).issues.filter (·.code == "CIRCULAR_DEPENDENCY") =
      ((cycles m).take cycleLimit).map .cycle :=
    filter_code m _ (circularDependencies m) (by simp [families])
  rw [hreported]
  refine ⟨fun nodes hnodes => ?_, ?_, ?_⟩
  · obtain ⟨source, target, hclose⟩ := mem_cycles.mp hnodes
    obtain ⟨rest, hcycle, hgenuine⟩ := exists_isCycle_of_close hclose
    exact ⟨target, rest, hcycle, hgenuine⟩
  · rw [List.length_map]
    exact List.length_take_le _ _
  · rw [List.map_map]
    rfl

/-- Four services, of which the first one depends on the second and on the last one. Both lead to
the third one, which has been left when the last one looks at it; and the last one leads back. -/
def fork : Model :=
  Model.empty.after
    ((["A", "B", "C", "D"].map fun id => .upsert { id := id, kind := .service, label := id }) ++
      [("A", "B"), ("B", "C"), ("A", "D"), ("D", "C"), ("D", "A")].map fun (source, target) =>
        .append { source := source, target := target, label := "injects" })

/-- In the fork, one cycle is recorded. -/
theorem cycle_genuine_fork :
    cycles fork = [["A", "D", "A"]] ∧
      (∃ first rest, ["A", "D", "A"] = first :: (rest ++ [first]) ∧ IsCycle fork first rest) ∧
      ((validate fork).issues.filter (·.code == "CIRCULAR_DEPENDENCY")).map Issue.message =
        ["Circular dependency detected: A -> D -> A"] := by
  have hcycles : cycles fork = [["A", "D", "A"]] := by decide +kernel
  obtain ⟨hgenuine, -, hmessages⟩ := cycle_genuine fork false
  refine ⟨hcycles, hgenuine _ (hcycles ▸ List.mem_singleton_self _), ?_⟩
  rw [hmessages, hcycles]
  decide +kernel

end SystemSketch.Validation
