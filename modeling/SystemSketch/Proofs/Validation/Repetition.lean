import SystemSketch.Proofs.Validation.Circuit
import SystemSketch.Proofs.Validation.Looks

/-!
# Cycles that are recorded again

Every look that closes a cycle is recorded, and parallel interactions are looked at one by one. So
the walk records a cycle as often as there are interactions for its last step. Only the first three
records are reported: a cycle that is closed by several interactions takes the place of others.

## Main definitions

* `drawnBetween` — how many drawn interactions lead from one component to another.
* `closes` — the dependencies that close a cycle, each with its cycle.

## Main results

* `fst_eq_iff_snd_eq` — cycles are the same exactly if the same step closes them.
* `count_cycles` — how often a cycle is recorded.
* `cycles_repeated` — which cycles are recorded again, and when the reported ones differ.
* `roundabout_repeats` — a project in which a cycle is reported twice and another one is not.
-/

namespace SystemSketch.Validation

/-- How many drawn interactions lead from one component to another. -/
def drawnBetween (m : Model) (source target : String) : Nat :=
  m.renderable.countP fun i => i.source == source && i.target == target

/-- The dependency that closes a cycle in a step, with the cycle. -/
def Event.closed? : Event → Option ((String × String) × List String)
  | close source target cycle => some ((source, target), cycle)
  | _ => none

/-- The dependencies that close a cycle in the walk of a model, in order, each with its cycle. -/
def closes (m : Model) : List ((String × String) × List String) :=
  (events m).filterMap Event.closed?

variable {m : Model} {source target : String} {cycle : List String}

/-! ### Recorded cycles and their last steps -/

/-- The recorded cycles. -/
theorem cycles_eq_map_closes (m : Model) : cycles m = (closes m).map Prod.snd := by
  rw [cycles, closes, List.map_filterMap]
  congr 1
  funext event
  cases event <;> rfl

/-- The dependencies that close them. -/
theorem closing_eq_map_closes (m : Model) :
    (events m).filterMap Event.closing? = (closes m).map Prod.fst := by
  rw [closes, List.map_filterMap]
  congr 1
  funext event
  cases event <;> rfl

/-- What is closed is closed in an event. -/
theorem mem_closes :
    ((source, target), cycle) ∈ closes m ↔ .close source target cycle ∈ events m := by
  rw [closes, List.mem_filterMap]
  constructor
  · rintro ⟨event, hevent, hclosed⟩
    cases event with
    | close u v nodes =>
      obtain ⟨⟨rfl, rfl⟩, rfl⟩ : (u = source ∧ v = target) ∧ nodes = cycle := by
        simpa [Event.closed?] using hclosed
      exact hevent
    | _ => cases hclosed
  · exact fun hevent => ⟨_, hevent, rfl⟩

/-- The step that closes a cycle is its last one. -/
theorem suffix_of_mem_closes {close : (String × String) × List String} (h : close ∈ closes m) :
    [close.1.1, close.1.2] <:+ close.2 :=
  (isCircuit_of_close (mem_closes.mp h)).2

/-- A list has one last step. -/
theorem eq_of_suffix {u v u' v' : String} {nodes : List String} (h : [u, v] <:+ nodes)
    (h' : [u', v'] <:+ nodes) : (u, v) = (u', v') := by
  have hsuffix : [u, v] <:+ [u', v'] := List.suffix_of_suffix_length_le h h' le_rfl
  simpa using hsuffix.eq_of_length rfl

/-- **Cycles are the same** exactly if the same step closes them: the step is the last one of the
cycle, and two looks along parallel dependencies find the same cycle. -/
theorem fst_eq_iff_snd_eq {close close' : (String × String) × List String}
    (h : close ∈ closes m) (h' : close' ∈ closes m) : close.1 = close'.1 ↔ close.2 = close'.2 := by
  constructor
  · intro hstep
    have hlook : (Event.close close'.1.1 close'.1.2 close'.2).look? = some close.1 :=
      congrArg some hstep.symm
    exact Option.some.inj (cycle?_eq_of_look? (mem_closes.mp h) (mem_closes.mp h') rfl hlook)
  · intro hcycle
    have hlast := suffix_of_mem_closes h'
    rw [← hcycle] at hlast
    exact eq_of_suffix (suffix_of_mem_closes h) hlast

/-- Any selection of what is closed has no cycle twice exactly if it has no step twice. -/
theorem nodup_map_snd_iff {selected : List ((String × String) × List String)}
    (h : selected ⊆ closes m) :
    (selected.map Prod.snd).Nodup ↔ (selected.map Prod.fst).Nodup := by
  rw [List.Nodup, List.Nodup, List.pairwise_map, List.pairwise_map]
  exact List.Pairwise.iff_of_mem fun ha hb => not_congr (fst_eq_iff_snd_eq (h ha) (h hb)).symm

/-! ### How often a cycle is recorded -/

/-- The dependencies between two components are the interactions that are drawn between them. -/
theorem count_dependencies (hne : source ≠ target) :
    (dependencies m).count (source, target) = drawnBetween m source target := by
  rw [dependencies, List.count, List.countP_map, List.countP_filter, drawnBetween]
  refine List.countP_congr fun i _ => ?_
  simp only [Function.comp_apply, Bool.and_eq_true, beq_iff_eq, bne_iff_ne, Prod.mk.injEq]
  refine and_iff_left_of_imp ?_
  rintro ⟨rfl, rfl⟩
  exact hne

/-- **How often a cycle is recorded**: once for each interaction that is drawn for its last step. -/
theorem count_cycles (h : ((source, target), cycle) ∈ closes m) :
    (cycles m).count cycle = drawnBetween m source target := by
  have hclose : Event.close source target cycle ∈ events m := mem_closes.mp h
  obtain ⟨-, -, -, -, -, hstep, -⟩ := exists_path_of_close hclose
  have hlooks : ∀ event ∈ events m,
      event.cycle? = some cycle ↔ event.look? = some (source, target) := by
    intro event hevent
    constructor
    · intro hfound
      cases event with
      | close u v nodes =>
        obtain rfl : nodes = cycle := Option.some.inj hfound
        exact congrArg some ((fst_eq_iff_snd_eq (mem_closes.mpr hevent) h).mpr rfl)
      | _ => cases hfound
    · exact fun hlook => cycle?_eq_of_look? hevent hclose hlook rfl
  calc (cycles m).count cycle
      = (events m).countP fun event => event.cycle? == some cycle := List.count_filterMap
    _ = (events m).countP fun event => event.look? == some (source, target) := by
        refine List.countP_congr fun event hevent => ?_
        rw [beq_iff_eq, beq_iff_eq]
        exact hlooks event hevent
    _ = ((events m).filterMap Event.look?).count (source, target) := List.count_filterMap.symm
    _ = (dependencies m).count (source, target) := (perm_looks m).count_eq _
    _ = drawnBetween m source target := count_dependencies hstep.1

/-- Every recorded cycle has its last step. -/
theorem exists_mem_closes (h : cycle ∈ cycles m) :
    ∃ source target, ((source, target), cycle) ∈ closes m := by
  rw [cycles_eq_map_closes, List.mem_map] at h
  obtain ⟨⟨⟨source, target⟩, _⟩, hclose, rfl⟩ := h
  exact ⟨source, target, hclose⟩

/-- No cycle is recorded twice exactly if one interaction is drawn for each of their last steps. -/
theorem nodup_cycles_iff :
    (cycles m).Nodup ↔
      ∀ nodes ∈ cycles m, ∀ u v, [u, v] <:+ nodes → drawnBetween m u v = 1 := by
  rw [List.nodup_iff_count_eq_one]
  refine forall₂_congr fun nodes hnodes => ?_
  obtain ⟨source, target, hclose⟩ := exists_mem_closes hnodes
  have hlast : [source, target] <:+ nodes := suffix_of_mem_closes hclose
  rw [count_cycles hclose]
  constructor
  · intro hone u v hstep
    obtain ⟨rfl, rfl⟩ := Prod.mk.inj (eq_of_suffix hlast hstep)
    exact hone
  · exact fun hall => hall source target hlast

/-- **A cycle is recorded for each interaction that closes it.** The walk of a model records a cycle
for every look that closes one, and the step of that look is the last one of the cycle. A cycle is
recorded as often as interactions are drawn for its last step, and so no cycle is recorded twice
exactly if there is one such interaction for each recorded cycle. The first three records are
reported, strictly or not: they are pairwise different exactly if their last steps are, and so they
are if no two interactions are drawn from one component to the same other one. -/
theorem cycles_repeated (m : Model) (strict : Bool) :
    let reported := (validate m strict).issues.filter (·.code == "CIRCULAR_DEPENDENCY")
    let steps := (events m).filterMap Event.closing?
    reported = ((cycles m).take 3).map .cycle ∧
    List.Forall₂ (fun step nodes => [step.1, step.2] <:+ nodes) steps (cycles m) ∧
    (∀ nodes ∈ cycles m, ∃ u v, [u, v] <:+ nodes ∧
      (cycles m).count nodes = drawnBetween m u v) ∧
    ((cycles m).Nodup ↔
      ∀ nodes ∈ cycles m, ∀ u v, [u, v] <:+ nodes → drawnBetween m u v = 1) ∧
    (reported.Nodup ↔ (steps.take 3).Nodup) ∧
    ((∀ u v, u ≠ v → drawnBetween m u v ≤ 1) → reported.Nodup) := by
  have hreported : (validate m strict).issues.filter (·.code == "CIRCULAR_DEPENDENCY") =
      ((cycles m).take 3).map .cycle :=
    filter_code m _ (circularDependencies m) (by simp [families])
  have hinjective : Function.Injective Issue.cycle := fun _ _ h => Issue.cycle.inj h
  dsimp only
  rw [hreported, List.nodup_map_iff hinjective]
  refine ⟨rfl, ?_, fun nodes hnodes => ?_, nodup_cycles_iff, ?_, fun hsingle => ?_⟩
  · rw [closing_eq_map_closes, cycles_eq_map_closes, List.forall₂_map_left_iff,
      List.forall₂_map_right_iff, List.forall₂_same]
    exact fun close hclose => suffix_of_mem_closes hclose
  · obtain ⟨source, target, hclose⟩ := exists_mem_closes hnodes
    exact ⟨source, target, suffix_of_mem_closes hclose, count_cycles hclose⟩
  · rw [closing_eq_map_closes, cycles_eq_map_closes, ← List.map_take, ← List.map_take]
    exact nodup_map_snd_iff (List.take_subset 3 (closes m))
  · refine (List.nodup_iff_count_le_one.mpr fun nodes => ?_).sublist (List.take_sublist 3 _)
    by_cases hnodes : nodes ∈ cycles m
    · obtain ⟨source, target, hclose⟩ := exists_mem_closes hnodes
      obtain ⟨-, -, -, -, -, hstep, -⟩ := exists_path_of_close (mem_closes.mp hclose)
      rw [count_cycles hclose]
      exact hsingle source target hstep.1
    · rw [List.count_eq_zero_of_not_mem hnodes]
      exact Nat.zero_le 1

/-- In the fork no two interactions are parallel, and its one cycle is recorded once. -/
theorem cycles_repeated_fork :
    (["A", "D", "A"] ∈ cycles fork ∧ ∀ u v, u ≠ v → drawnBetween fork u v ≤ 1) ∧
      (∃ u v, [u, v] <:+ ["A", "D", "A"] ∧
        (cycles fork).count ["A", "D", "A"] = drawnBetween fork u v) ∧
      ((validate fork).issues.filter (·.code == "CIRCULAR_DEPENDENCY")).Nodup := by
  have hcycle : ["A", "D", "A"] ∈ cycles fork := by decide +kernel
  have hnodup : (dependencies fork).Nodup := by decide +kernel
  have hsingle : ∀ u v, u ≠ v → drawnBetween fork u v ≤ 1 := fun u v hne => by
    rw [← count_dependencies hne]
    exact List.nodup_iff_count_le_one.mp hnodup (u, v)
  obtain ⟨-, -, hcount, -, -, hreported⟩ := cycles_repeated fork false
  exact ⟨⟨hcycle, hsingle⟩, hcount _ hcycle, hreported hsingle⟩

/-- A project whose persistence service depends on three classes that depend on it. Each of the
three both injects the persistence service and mentions its name. -/
def roundabout : Project where
  serverFiles :=
    [⟨"server/src/prisma.service.ts", "@Injectable()\nexport class PrismaService " ++
        "{ constructor(o: OrdersService, u: UsersService, a: AuditService) {} }"⟩,
      ⟨"server/src/orders.service.ts",
        "@Injectable()\nexport class OrdersService { constructor(p: PrismaService) {} }"⟩,
      ⟨"server/src/users.service.ts",
        "@Injectable()\nexport class UsersService { constructor(p: PrismaService) {} }"⟩,
      ⟨"server/src/audit.service.ts",
        "@Injectable()\nexport class AuditService { constructor(p: PrismaService) {} }"⟩]
  clientFiles := []
  clientRoot := ⟨["work", "project"], "client/app"⟩

/-- On the roundabout the cycle over the orders is reported twice. It takes up the place of the
cycle over the audit, the third one of the model, which is not reported. -/
theorem roundabout_repeats :
    ∃ o, analyze roundabout = .ok o ∧
      let reported := o.report.issues.filter (·.code == "CIRCULAR_DEPENDENCY")
      reported = [.cycle ["PrismaService", "OrdersService", "PrismaService"],
        .cycle ["PrismaService", "OrdersService", "PrismaService"],
        .cycle ["PrismaService", "UsersService", "PrismaService"]] ∧
      ¬reported.Nodup ∧ IsCycle o.model "PrismaService" ["AuditService"] ∧
      .cycle ["PrismaService", "AuditService", "PrismaService"] ∉ reported := by
  have hfacts : (analyze roundabout).map (fun o =>
      (o.report.issues.filter (·.code == "CIRCULAR_DEPENDENCY"),
        (cycles o.model).contains ["PrismaService", "AuditService", "PrismaService"])) =
      .ok ([.cycle ["PrismaService", "OrdersService", "PrismaService"],
        .cycle ["PrismaService", "OrdersService", "PrismaService"],
        .cycle ["PrismaService", "UsersService", "PrismaService"]], true) := by decide +kernel
  obtain ⟨o, h⟩ := roundabout.exists_analyze_iff.mpr (by decide)
  rw [h] at hfacts
  simp only [Except.map, Except.ok.injEq, Prod.mk.injEq, List.contains_iff_mem] at hfacts
  obtain ⟨hreported, haudit⟩ := hfacts
  obtain ⟨source, target, hclose⟩ := mem_cycles.mp haudit
  obtain ⟨rest, hnodes, hcycle⟩ := exists_isCycle_of_close hclose
  obtain ⟨rfl, hrest⟩ := List.cons.inj hnodes
  obtain rfl : rest = ["AuditService"] := (List.append_left_injective _ hrest).symm
  refine ⟨o, h, ?_⟩
  dsimp only
  rw [hreported]
  exact ⟨rfl, by decide, hcycle, by decide⟩

end SystemSketch.Validation
