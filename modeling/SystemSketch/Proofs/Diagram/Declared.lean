import Mathlib.Order.Lattice.Nat
import SystemSketch.Proofs.Diagram.Markdown
import SystemSketch.Proofs.Keyed

/-!
# What the lines of a drawing declare

The drawing that is read from any lines, printed ones or not, can be told from the lines alone. A
line declares a statement if it is the line of one and the directive stands before it. A node
is had on the first line that declares it and with the label of the last such line, and the edges
are those that some line declares, one behind the other.

## Main definitions

* `Declares`, `nodeLinesOf` — the lines that declare a statement, or a node.
* `DeclareMore` — lines that declare one more statement than others.
* `Edge.statement` — the statement of an edge.
* `Drawing.NodesFrom`, `Drawing.EdgesFrom` — the nodes and the edges of a drawing are those that
  some lines declare.

## Main results

* `Drawing.NodesFrom.declareNode`, `Drawing.EdgesFrom.declareEdge` — one more declaration.
* `Reader.from_read`, `Reader.from_readLines` — one more line, and all lines.
-/

namespace SystemSketch.Diagram

open Text

variable {ls ls' : List (List Char)} {line : List Char} {n : ℕ} {s : Statement}
  {id label : String}

/-! ### Lines that declare something -/

/-- A line **declares** a statement: it is the line of the statement, and the directive stands
before it. -/
def Declares (ls : List (List Char)) (n : ℕ) (s : Statement) : Prop :=
  (∃ line, ls[n]? = some line ∧ statementOf? line = some s) ∧
    ∃ line ∈ ls.take n, isPassedOver (trim line) = false

/-- The lines that declare a node. -/
def nodeLinesOf (ls : List (List Char)) (id : String) : Set ℕ :=
  {n | ∃ label, Declares ls n (.node id label)}

theorem mem_nodeLinesOf : n ∈ nodeLinesOf ls id ↔ ∃ label, Declares ls n (.node id label) :=
  Iff.rfl

/-- Only lines that are there declare something. -/
theorem Declares.lt_length (h : Declares ls n s) : n < ls.length := by
  obtain ⟨⟨line, hline, -⟩, -⟩ := h
  exact (List.getElem?_eq_some_iff.mp hline).1

/-- **One more line** declares its statement, if the directive stands before it, and the lines
before it declare what they did. -/
theorem declares_append_iff :
    Declares (ls ++ [line]) n s ↔ Declares ls n s ∨
      (n = ls.length ∧ statementOf? line = some s ∧
        ∃ line ∈ ls, isPassedOver (trim line) = false) := by
  rcases lt_trichotomy n ls.length with hlt | rfl | hgt
  · rw [Declares, List.getElem?_append_left hlt, List.take_append_of_le_length (Nat.le_of_lt hlt),
      ← Declares, or_iff_left fun h => absurd h.1 (Nat.ne_of_lt hlt)]
  · have hold : ¬Declares ls ls.length s := fun h => absurd h.lt_length (Nat.lt_irrefl _)
    rw [or_iff_right hold, Declares, List.getElem?_concat_length, List.take_left]
    simp
  · have hnew : ¬Declares (ls ++ [line]) n s := fun h => by
      have hlt := h.lt_length
      rw [List.length_append, List.length_singleton] at hlt
      omega
    have hold : ¬Declares ls n s := fun h => absurd h.lt_length (Nat.lt_asymm hgt)
    exact iff_of_false hnew fun h => h.elim hold fun heq => absurd heq.1 (Nat.ne_of_gt hgt)

/-- Only lines that are there declare a node. -/
theorem lt_length_of_mem_nodeLinesOf (h : n ∈ nodeLinesOf ls id) : n < ls.length := by
  obtain ⟨label, hdeclares⟩ := mem_nodeLinesOf.mp h
  exact hdeclares.lt_length

/-- Lines that **declare one more statement**, on the line behind the others. -/
def DeclareMore (ls ls' : List (List Char)) (s : Statement) : Prop :=
  ∀ n t, Declares ls' n t ↔ Declares ls n t ∨ (n = ls.length ∧ t = s)

namespace DeclareMore

/-- What is no more declared than before. -/
theorem of_ne {t : Statement} (h : DeclareMore ls ls' s) (ht : t ≠ s) :
    Declares ls' n t ↔ Declares ls n t :=
  (h n t).trans (or_iff_left fun hand => ht hand.2)

/-- A node is declared on one more line. -/
theorem nodeLinesOf_self (h : DeclareMore ls ls' (.node id label)) :
    nodeLinesOf ls' id = insert ls.length (nodeLinesOf ls id) := by
  ext n
  simp only [mem_nodeLinesOf, h n, Set.mem_insert_iff, Statement.node.injEq, true_and, exists_or,
    exists_and_left, exists_eq, and_true]
  exact or_comm

/-- The other nodes are declared where they were. -/
theorem nodeLinesOf_of_ne (h : DeclareMore ls ls' (.node id label)) {other : String}
    (hother : other ≠ id) : nodeLinesOf ls' other = nodeLinesOf ls other := by
  ext n
  refine exists_congr fun _ => h.of_ne fun heq => hother ?_
  exact (Statement.node.inj heq).1

end DeclareMore

/-! ### The first and the last of some numbers -/

/-- The least number, if a larger one than all others comes in. -/
theorem isLeast_insert_iff {S : Set ℕ} {top : ℕ} (h : ∀ m ∈ S, m < top) :
    IsLeast (insert top S) n ↔ IsLeast S n ∨ (S = ∅ ∧ n = top) := by
  rcases S.eq_empty_or_nonempty with rfl | hne
  · have hnone : ¬IsLeast (∅ : Set ℕ) n := fun hn => hn.1
    rw [or_iff_right hnone, and_iff_right rfl, insert_empty_eq]
    exact ⟨fun hn => hn.unique isLeast_singleton, fun hn => hn ▸ isLeast_singleton⟩
  · have hleast : IsLeast S (sInf S) := isLeast_csInf hne
    have hinsert : IsLeast (insert top S) (sInf S) := by
      have hmin := hleast.insert top
      rwa [min_eq_right (Nat.le_of_lt (h _ hleast.1))] at hmin
    rw [or_iff_left fun hand => hne.ne_empty hand.1]
    exact ⟨fun hn => hn.unique hinsert ▸ hleast, fun hn => hn.unique hleast ▸ hinsert⟩

/-- The greatest number, if a larger one than all others comes in. -/
theorem isGreatest_insert_iff {S : Set ℕ} {top : ℕ} (h : ∀ m ∈ S, m < top) :
    IsGreatest (insert top S) n ↔ n = top := by
  have hinsert : IsGreatest (insert top S) top :=
    ⟨Set.mem_insert top S, fun m hm => hm.elim (fun heq => heq.le) fun hS => (h m hS).le⟩
  exact ⟨fun hn => hn.unique hinsert, fun hn => hn ▸ hinsert⟩

/-! ### Nodes -/

variable {d d' : Drawing} {r : Reader}

/-- **The nodes of a drawing** are those that some lines declare. -/
structure Drawing.NodesFrom (d : Drawing) (ls : List (List Char)) : Prop where
  /-- The nodes that have a line are the nodes, in the same order. -/
  keys : d.nodeLines.keys = d.nodes.keys
  /-- What stands within a cluster is a node. -/
  clusters : ∀ id ∈ d.nodeClusters.keys, id ∈ d.nodes.keys
  /-- The line of a node is the first one that declares it. -/
  first : ∀ id n, d.nodeLines.value? id = some n ↔ IsLeast (nodeLinesOf ls id) n
  /-- The label of a node is that of the last line that declares it. -/
  last : ∀ id label, d.nodes.value? id = some label ↔
    ∃ n, IsGreatest (nodeLinesOf ls id) n ∧ Declares ls n (.node id label)

namespace Drawing.NodesFrom

/-- What changes neither the nodes nor the lines that declare them. -/
theorem congr (h : d.NodesFrom ls) (hnodes : d'.nodes = d.nodes)
    (hlines : d'.nodeLines = d.nodeLines) (hclusters : d'.nodeClusters = d.nodeClusters)
    (hdeclares : ∀ n id label,
      Declares ls' n (.node id label) ↔ Declares ls n (.node id label)) : d'.NodesFrom ls' := by
  have hset : ∀ id, nodeLinesOf ls' id = nodeLinesOf ls id := fun id =>
    Set.ext fun n => exists_congr fun label => hdeclares n id label
  constructor
  · rw [hlines, hnodes, h.keys]
  · rw [hclusters, hnodes]
    exact h.clusters
  · intro id n
    rw [hlines, hset, h.first]
  · intro id label
    rw [hnodes, hset, h.last]
    exact exists_congr fun n => and_congr_right fun _ => (hdeclares n id label).symm

/-- A node has no line exactly if no line declares it. -/
theorem value?_eq_none_iff (h : d.NodesFrom ls) (id : String) :
    d.nodeLines.value? id = none ↔ nodeLinesOf ls id = ∅ := by
  rw [Option.eq_none_iff_forall_ne_some]
  constructor
  · intro hnone
    by_contra hne
    exact hnone _ ((h.first id _).mpr (isLeast_csInf (Set.nonempty_iff_ne_empty.mpr hne)))
  · intro hempty n hn
    have hmem := ((h.first id n).mp hn).1
    rw [hempty] at hmem
    exact hmem

/-- **One more declaration** of a node. -/
theorem declareNode (h : r.drawing.NodesFrom ls)
    (hmore : DeclareMore ls ls' (.node id label)) :
    (r.declareNode ls.length id label).drawing.NodesFrom ls' := by
  have hbefore : ∀ m ∈ nodeLinesOf ls id, m < ls.length := fun _ => lt_length_of_mem_nodeLinesOf
  constructor
  · change (r.drawing.nodeLines.setNew id ls.length).keys = (r.drawing.nodes.set id label).keys
    rw [Table.keys_setNew, Table.keys_set, h.keys]
  · intro j hj
    change j ∈ (r.drawing.nodes.set id label).keys
    rw [Table.mem_keys_set]
    rw [Reader.declareNode] at hj
    dsimp only at hj
    split at hj
    · rw [Table.mem_keys_extend] at hj
      exact hj.imp_right (h.clusters j)
    · exact Or.inr (h.clusters j hj)
  · intro j n
    change (r.drawing.nodeLines.setNew id ls.length).value? j = some n ↔ _
    rw [Table.value?_setNew, Option.or_eq_some_iff, h.first, h.value?_eq_none_iff]
    -- the new line is behind all others, so it is the first one only if there is no other
    by_cases hj : j = id
    · rw [if_pos hj, hj, hmore.nodeLinesOf_self, isLeast_insert_iff hbefore, Option.some.injEq,
        eq_comm (a := ls.length)]
    · rw [if_neg hj, hmore.nodeLinesOf_of_ne hj]
      simp
  · intro j label'
    change (r.drawing.nodes.set id label).value? j = some label' ↔ _
    rw [Table.value?_set]
    -- the new line is always the last one
    by_cases hj : j = id
    · subst hj
      have hold : ¬Declares ls ls.length (.node j label') := fun hold =>
        absurd hold.lt_length (Nat.lt_irrefl _)
      simp only [hmore.nodeLinesOf_self, isGreatest_insert_iff hbefore, exists_eq_left,
        hmore ls.length, or_iff_right hold, true_and, Statement.node.injEq, if_pos,
        Option.some.injEq]
      exact eq_comm
    · have hne : ∀ label', Statement.node j label' ≠ .node id label := fun _ heq =>
        hj (Statement.node.inj heq).1
      rw [if_neg hj, hmore.nodeLinesOf_of_ne hj, h.last]
      exact exists_congr fun n => and_congr_right fun _ => (hmore.of_ne (hne label')).symm

end Drawing.NodesFrom

/-! ### Edges -/

/-- The statement of an edge. -/
def Edge.statement (e : Edge) : Statement :=
  .edge e.source e.isAsync e.label e.target

theorem Edge.eq_iff {e e' : Edge} :
    e = e' ↔ e.line = e'.line ∧ e.statement = e'.statement := by
  rw [Edge.mk.injEq, statement, statement, Statement.edge.injEq]
  tauto

/-- **The edges of a drawing** are those that some lines declare. -/
structure Drawing.EdgesFrom (d : Drawing) (ls : List (List Char)) : Prop where
  /-- The edges are those that their lines declare. -/
  mem_iff : ∀ e, e ∈ d.edges ↔ Declares ls e.line e.statement
  /-- Every edge stands on a later line than those before it. -/
  ascending : d.edges.Pairwise fun e e' => e.line < e'.line

namespace Drawing.EdgesFrom

/-- What changes neither the edges nor the lines that declare them. -/
theorem congr (h : d.EdgesFrom ls) (hedges : d'.edges = d.edges)
    (hdeclares : ∀ n (e : Edge), Declares ls' n e.statement ↔ Declares ls n e.statement) :
    d'.EdgesFrom ls' := by
  constructor
  · intro e
    rw [hedges, h.mem_iff, hdeclares]
  · rw [hedges]
    exact h.ascending

/-- **One more declaration** of an edge. -/
theorem declareEdge (h : d.EdgesFrom ls) {edge : Edge} (hline : edge.line = ls.length)
    (hedges : d'.edges = d.edges ++ [edge])
    (hmore : DeclareMore ls ls' edge.statement) : d'.EdgesFrom ls' := by
  constructor
  · intro e
    rw [hedges, List.mem_append, List.mem_singleton, h.mem_iff, hmore, Edge.eq_iff, hline]
  · rw [hedges, List.pairwise_append]
    refine ⟨h.ascending, List.pairwise_singleton _ _, fun e he e' he' => ?_⟩
    rw [List.mem_singleton.mp he', hline]
    exact ((h.mem_iff e).mp he).lt_length

end Drawing.EdgesFrom

/-! ### Reading -/

namespace Reader

/-- **The directive** is the first line that is not passed over, and nothing else is read from
it. -/
theorem read_of_isNone (hdirective : r.drawing.directive.isNone = true) (number : ℕ)
    (line : List Char) :
    r.read number line = { r with drawing := { r.drawing with
      directive :=
        if isPassedOver (trim line) then none else some (String.ofList (trim line)) } } := by
  obtain ⟨⟨directive, _, _, _, _, _⟩, _⟩ := r
  obtain rfl : directive = none := Option.isNone_iff_eq_none.mp hdirective
  rw [read, readTrimmed]
  split <;> rfl

/-- **The directive is there** once a line is not passed over. -/
theorem isSome_directive_readLines (ls : List (List Char)) :
    (readLines {} 0 ls).drawing.directive.isSome = true ↔
      ∃ line ∈ ls, isPassedOver (trim line) = false := by
  induction ls using List.reverseRecOn with
  | nil => simp [readLines]
  | append_singleton ls line ih =>
    have hmem : (∃ l ∈ ls ++ [line], isPassedOver (trim l) = false) ↔
        (readLines {} 0 ls).drawing.directive.isSome = true ∨
          isPassedOver (trim line) = false := by
      rw [ih]
      simp [or_and_right, exists_or]
    rw [hmem, readLines_append, readLines, readLines]
    by_cases hdirective : (readLines {} 0 ls).drawing.directive.isSome = true
    · rw [read_eq hdirective]
      cases statementOf? line with
      | none => simp [hdirective]
      | some s => simp [hdirective, directive_declare]
    · rw [Option.not_isSome_iff_eq_none, ← Option.isNone_iff_eq_none] at hdirective
      rw [read_of_isNone hdirective]
      cases isPassedOver (trim line) <;> simp [Option.isNone_iff_eq_none.mp hdirective]

/-- **One more statement**: the nodes and the edges are those of one more line. -/
theorem from_declare (hnodes : r.drawing.NodesFrom ls) (hedges : r.drawing.EdgesFrom ls)
    (hmore : DeclareMore ls ls' s) :
    (r.declare ls.length s).drawing.NodesFrom ls' ∧
      (r.declare ls.length s).drawing.EdgesFrom ls' := by
  cases s with
  | node id label =>
    exact ⟨hnodes.declareNode hmore,
      hedges.congr rfl fun _ _ => hmore.of_ne Statement.noConfusion⟩
  | edge source isAsync label target =>
    exact ⟨hnodes.congr rfl rfl rfl fun _ _ _ => hmore.of_ne Statement.noConfusion,
      hedges.declareEdge rfl rfl hmore⟩
  | directive _ | openCluster _ _ | closeCluster | assign _ _ | style _ | comment _ | space =>
    exact ⟨hnodes.congr rfl rfl rfl fun _ _ _ => hmore.of_ne Statement.noConfusion,
      hedges.congr rfl fun _ _ => hmore.of_ne Statement.noConfusion⟩

/-- **One more line**: the nodes and the edges are those that the lines declare. -/
theorem from_read (hnodes : r.drawing.NodesFrom ls) (hedges : r.drawing.EdgesFrom ls)
    (hdirective : r.drawing.directive.isSome = true ↔
      ∃ line ∈ ls, isPassedOver (trim line) = false) (line : List Char) :
    (r.read ls.length line).drawing.NodesFrom (ls ++ [line]) ∧
      (r.read ls.length line).drawing.EdgesFrom (ls ++ [line]) := by
  by_cases hbehind : r.drawing.directive.isSome = true
  · rw [read_eq hbehind]
    cases hline : statementOf? line with
    | none =>
      have hsame : ∀ n t, Declares (ls ++ [line]) n t ↔ Declares ls n t := by
        simp [declares_append_iff, hline]
      exact ⟨hnodes.congr rfl rfl rfl fun _ _ _ => hsame _ _,
        hedges.congr rfl fun _ _ => hsame _ _⟩
    | some s =>
      refine from_declare hnodes hedges fun n t => ?_
      rw [declares_append_iff, hline, Option.some.injEq, ← hdirective, and_iff_left hbehind,
        eq_comm (a := s)]
  · have hsame : ∀ n t, Declares (ls ++ [line]) n t ↔ Declares ls n t := by
      simp [declares_append_iff, ← hdirective, hbehind]
    rw [Option.not_isSome_iff_eq_none, ← Option.isNone_iff_eq_none] at hbehind
    rw [read_of_isNone hbehind]
    exact ⟨hnodes.congr rfl rfl rfl fun _ _ _ => hsame _ _,
      hedges.congr rfl fun _ _ => hsame _ _⟩

/-- **All lines**: the nodes and the edges are those that the lines declare. -/
theorem from_readLines (ls : List (List Char)) :
    (readLines {} 0 ls).drawing.NodesFrom ls ∧ (readLines {} 0 ls).drawing.EdgesFrom ls := by
  -- from the end, as what a line declares depends on the lines before it
  induction ls using List.reverseRecOn with
  | nil =>
    have hnone : ∀ n s, ¬Declares [] n s := fun n s h => Nat.not_lt_zero n h.lt_length
    have hempty : ∀ id, nodeLinesOf [] id = ∅ := fun id =>
      Set.eq_empty_of_forall_notMem fun n ⟨label, h⟩ => hnone n _ h
    refine ⟨⟨rfl, fun _ h => h, fun id n => ?_, fun id label => ?_⟩, fun e => ?_, List.Pairwise.nil⟩
    · rw [hempty]
      exact iff_of_false nofun fun h => h.1
    · exact iff_of_false nofun fun ⟨n, _, h⟩ => hnone n _ h
    · exact iff_of_false List.not_mem_nil (hnone _ _)
  | append_singleton ls line ih =>
    rw [readLines_append, readLines, readLines, Nat.zero_add]
    exact from_read ih.1 ih.2 (isSome_directive_readLines ls) line

end Reader

end SystemSketch.Diagram
