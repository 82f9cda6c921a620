import SystemSketch.Diagram.Reading
import SystemSketch.Proofs.Diagram.Statement

/-!
# Reading printed statements

A reader that meets the line of a statement takes up that statement, and nothing is lost between
the two: reading the lines of a whole list of statements is declaring the list. What a list of
statements declares is then a matter of lists. Every part of the drawing gathers the entries
of the statements that concern it, in their order, and a node is placed in the cluster that is
open where it stands.

## Main definitions

* `Statement.IsSilent` — the statements that are read as nothing.
* `statementOf?` — the statement of a line.
* `Reader.declareAll` — takes up a list of statements.
* `Statement.nodeEntry?`, `Statement.edgeEntry?`, `Statement.classEntry?`, `placements` — what a
  statement adds to each part of the drawing.

## Main results

* `Reader.read_eq`, `Reader.read_print` — one line.
* `Reader.readLines_print` — the lines of a list.
* `Reader.nodes_readLines` — the nodes that any lines declare.
* `Reader.nodes_declareAll`, `Reader.nodeClusters_declareAll`, `Reader.edges_declareAll`,
  `Reader.classes_declareAll` — the parts of the drawing.
-/

namespace SystemSketch.Diagram

open Text

/-! ### Lines -/

/-- A line that begins with a name is not passed over. -/
theorem IsName.isPassedOver_append {id : String} (h : IsName id) (rest : List Char) :
    isPassedOver (id.toList ++ rest) = false := by
  obtain ⟨c, text, hid, hc⟩ := h.exists_cons
  have hpercent : ¬('%' == c) = true := by
    rw [beq_iff_eq]
    rintro rfl
    exact absurd hc (by decide)
  have hremark : after? "%%".toList (c :: (text ++ rest)) = none := if_neg hpercent
  rw [hid, List.cons_append, isPassedOver, hremark]
  rfl

namespace Statement

/-- The line of a statement that is read back begins with a name. -/
theorem Legible.exists_name {s : Statement} (h : s.Legible) :
    ∃ id rest, IsName id ∧ trim s.print.toList = id.toList ++ rest := by
  cases s with
  | openCluster id title =>
    exact ⟨"subgraph", _, by decide, trim_print_openCluster id title⟩
  | closeCluster => exact ⟨"end", [], by decide, by decide⟩
  | node id label => exact ⟨id, _, h, trim_print_node h label⟩
  | edge source isAsync label target =>
    exact ⟨source, _, h.1, trim_print_edge h.1 h.2 isAsync label⟩
  | assign ids className => exact ⟨"class", _, by decide, trim_print_assign h.2.2 ids⟩
  | directive _ | style _ | comment _ | space => exact h.elim

/-- The statements that are **read as nothing**: remarks, empty lines, and the look of a style
class, as long as it cannot be read as anything else. -/
def IsSilent : Statement → Prop
  | comment _ | space => True
  | style definition => ofLine? (trim definition.toList) = none
  | directive _ | openCluster _ _ | closeCluster | node _ _ | edge _ _ _ _ | assign _ _ => False

/-- A remark is passed over. -/
theorem isPassedOver_comment (text : String) :
    isPassedOver (trim (comment text).print.toList) = true := by
  have hprint : (comment text).print.toList = "  ".toList ++ '%' :: '%' :: ' ' :: text.toList := by
    rw [toList_print_comment]
    rfl
  have hend : trimEnd ('%' :: ' ' :: text.toList) = '%' :: trimEnd (' ' :: text.toList) :=
    dropEndWhile_append_cons [] _ (by decide)
  rw [hprint, trim_append _ (by decide), trim_cons _ (by decide), hend]
  rfl

end Statement

/-- The **statement of a line** behind the directive, if it has one. -/
def statementOf? (line : List Char) : Option Statement :=
  if isPassedOver (trim line) then none else Statement.ofLine? (trim line)

/-- The line of a statement is that of the statement, if it is read back. -/
theorem statementOf?_print {s : Statement} (h : s.Legible) :
    statementOf? s.print.toList = some s := by
  obtain ⟨id, rest, hname, htrim⟩ := h.exists_name
  have hline : ¬isPassedOver (trim s.print.toList) = true := by
    rw [htrim, hname.isPassedOver_append]
    exact Bool.false_ne_true
  rw [statementOf?, if_neg hline, Statement.ofLine?_print h]

/-- The line of a silent statement has none. -/
theorem statementOf?_print_of_isSilent {s : Statement} (h : s.IsSilent) :
    statementOf? s.print.toList = none := by
  cases s with
  | comment text => exact if_pos (Statement.isPassedOver_comment text)
  | space => rfl
  | style definition =>
    have hprint : (Statement.style definition).print.toList =
        "  ".toList ++ definition.toList := String.toList_append
    have hnone : Statement.ofLine? (trim definition.toList) = none := h
    rw [statementOf?, hprint, trim_append _ (by decide), hnone]
    exact ite_self none
  | directive _ | openCluster _ _ | closeCluster | node _ _ | edge _ _ _ _ | assign _ _ =>
    exact h.elim

namespace Reader

/-- A statement does not change the directive. -/
theorem directive_declare (r : Reader) (number : Nat) (s : Statement) :
    (r.declare number s).drawing.directive = r.drawing.directive := by
  cases s <;> rfl

/-- Behind the directive, a line is read as its statement. -/
theorem read_eq {r : Reader} (hdir : r.drawing.directive.isSome = true) (number : Nat)
    (line : List Char) :
    r.read number line = ((statementOf? line).map (r.declare number)).getD r := by
  have hnone : ¬r.drawing.directive.isNone = true := by
    rw [Option.isNone_eq_false_iff.mpr hdir]
    exact Bool.false_ne_true
  rw [read, readTrimmed, if_neg hnone, statementOf?]
  split
  · rfl
  · cases Statement.ofLine? (trim line) <;> rfl

/-- **One line**: behind the directive, the line of a statement is read as the statement. -/
theorem read_print {r : Reader} (hdir : r.drawing.directive.isSome = true) (number : Nat)
    {s : Statement} (h : s.Legible ∨ s.IsSilent) :
    r.read number s.print.toList = r.declare number s := by
  rw [read_eq hdir]
  rcases h with hlegible | hsilent
  · rw [statementOf?_print hlegible, Option.map_some, Option.getD_some]
  · rw [statementOf?_print_of_isSilent hsilent, Option.map_none, Option.getD_none]
    cases s with
    | comment _ | space | style _ => rfl
    | directive _ | openCluster _ _ | closeCluster | node _ _ | edge _ _ _ _ | assign _ _ =>
      exact hsilent.elim

/-- Takes up statements of which the first one stands in the given line. -/
def declareAll (r : Reader) (number : Nat) : List Statement → Reader
  | [] => r
  | s :: rest => (r.declare number s).declareAll (number + 1) rest

/-- **The lines of a list** of statements are read as the list. -/
theorem readLines_print {r : Reader} (hdir : r.drawing.directive.isSome = true) (number : Nat)
    {ss : List Statement} (h : ∀ s ∈ ss, s.Legible ∨ s.IsSilent) :
    r.readLines number (ss.map fun s => s.print.toList) = r.declareAll number ss := by
  induction ss generalizing r number with
  | nil => rfl
  | cons s rest ih =>
    have hs := read_print hdir number (h s List.mem_cons_self)
    have hdir' : (r.declare number s).drawing.directive.isSome = true := by
      rwa [directive_declare]
    rw [List.map_cons, readLines, hs, ih hdir' (number + 1) fun t ht =>
      h t (List.mem_cons_of_mem s ht), declareAll]

end Reader

/-! ### What statements add to a drawing -/

/-- The node that a statement declares, with its label. -/
def Statement.nodeEntry? : Statement → Option (String × String)
  | node id label => some (id, label)
  | _ => none

/-- The ends, the label and the manner of the edge that a statement declares. -/
def Statement.edgeEntry? : Statement → Option (String × String × String × Bool)
  | edge source isAsync label target => some (source, target, label, isAsync)
  | _ => none

/-- The style class that a statement names, with its nodes. -/
def Statement.classEntry? : Statement → Option (String × List String)
  | assign ids className => some (className, ids)
  | _ => none

/-- The nodes that statements declare within clusters, each with its cluster, if the given
cluster is open before them. -/
def placements (cluster? : Option String) : List Statement → List (String × List String)
  | [] => []
  | .openCluster id _ :: rest => placements (some id) rest
  | .closeCluster :: rest => placements none rest
  | .node id _ :: rest =>
    (cluster?.toList.map fun cluster => (id, [cluster])) ++ placements cluster? rest
  | _ :: rest => placements cluster? rest

/-- The arrow of a drawing without the line that declares it. -/
def Edge.entry (e : Edge) : String × String × String × Bool :=
  (e.source, e.target, e.label, e.isAsync)

namespace Reader

/-- The nodes of a drawing are those that the statements declare. -/
theorem nodes_declareAll (r : Reader) (number : Nat) (ss : List Statement) :
    (r.declareAll number ss).drawing.nodes =
      (ss.filterMap Statement.nodeEntry?).foldl (fun t e => t.set e.1 e.2) r.drawing.nodes := by
  induction ss generalizing r number with
  | nil => rfl
  | cons s rest ih =>
    rw [declareAll, ih]
    cases s <;> rfl

/-- The nodes of a drawing are those that the lines behind the directive declare. -/
theorem nodes_readLines {r : Reader} (hdir : r.drawing.directive.isSome = true) (number : Nat)
    (ls : List (List Char)) :
    (r.readLines number ls).drawing.nodes =
      ((ls.filterMap statementOf?).filterMap Statement.nodeEntry?).foldl
        (fun t e => t.set e.1 e.2) r.drawing.nodes := by
  induction ls generalizing r number with
  | nil => rfl
  | cons line rest ih =>
    rw [readLines, read_eq hdir]
    cases hline : statementOf? line with
    | none => rw [List.filterMap_cons_none hline, Option.map_none, Option.getD_none, ih hdir]
    | some s =>
      have hdir' : (r.declare number s).drawing.directive.isSome = true := by
        rwa [directive_declare]
      rw [List.filterMap_cons_some hline, Option.map_some, Option.getD_some, ih hdir']
      cases s <;> rfl

/-- **A node is placed** in the cluster that is open where it is declared. -/
theorem nodeClusters_declareAll (r : Reader) (number : Nat) (ss : List Statement) :
    (r.declareAll number ss).drawing.nodeClusters =
      (placements r.cluster? ss).foldl (fun t e => t.extend e.1 e.2)
        r.drawing.nodeClusters := by
  induction ss generalizing r number with
  | nil => rfl
  | cons s rest ih =>
    rw [declareAll, ih]
    cases s with
    | node id label =>
      rw [placements, List.foldl_append, declare, declareNode]
      cases r.cluster? <;> rfl
    | directive _ | openCluster _ _ | closeCluster | edge _ _ _ _ | assign _ _ | style _
    | comment _ | space => rfl

/-- The edges of a drawing are those that the statements declare, in their order. -/
theorem edges_declareAll (r : Reader) (number : Nat) (ss : List Statement) :
    (r.declareAll number ss).drawing.edges.map Edge.entry =
      r.drawing.edges.map Edge.entry ++ ss.filterMap Statement.edgeEntry? := by
  induction ss generalizing r number with
  | nil => rw [declareAll, List.filterMap_nil, List.append_nil]
  | cons s rest ih =>
    rw [declareAll, ih]
    cases s with
    | edge source isAsync label target =>
      rw [declare, List.map_append, List.append_assoc]
      rfl
    | directive _ | openCluster _ _ | closeCluster | node _ _ | assign _ _ | style _
    | comment _ | space => rfl

/-- The style classes of a drawing are those that the statements name. -/
theorem classes_declareAll (r : Reader) (number : Nat) (ss : List Statement) :
    (r.declareAll number ss).drawing.classes =
      (ss.filterMap Statement.classEntry?).foldl (fun t e => t.extend e.1 e.2)
        r.drawing.classes := by
  induction ss generalizing r number with
  | nil => rfl
  | cons s rest ih =>
    rw [declareAll, ih]
    cases s <;> rfl

/-- Statements do not change the directive. -/
theorem directive_declareAll (r : Reader) (number : Nat) (ss : List Statement) :
    (r.declareAll number ss).drawing.directive = r.drawing.directive := by
  induction ss generalizing r number with
  | nil => rfl
  | cons s rest ih => rw [declareAll, ih, directive_declare]

end Reader

end SystemSketch.Diagram
