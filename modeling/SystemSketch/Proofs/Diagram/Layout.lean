import Mathlib.Algebra.BigOperators.Group.Finset.Basic
import SystemSketch.Proofs.Diagram.Declared

/-!
# The layout of a drawing

A drawing is read line by line, without the blanks at the ends of a line, and blank lines and
remarks are passed over. So how a drawing is laid out does not matter: lines of these two kinds may
be put between any two lines, and blanks may come in or go away at the ends of lines. All that
changes are the numbers of the lines, and each of them by the number of lines that are put before
the line.

What the lines of a text are is a matter of its breaks. Where blanks are all that stands between a
carriage return and a line feed, these become one break without them; then the text has other lines,
and is not just laid out anew.

## Main definitions

* `weave`, `insertedBefore` — lines with other lines put between them, and how many are put before
  a line.
* `Respaced` — lines that differ in nothing but the blanks at their ends.
* `Relaid` — texts that differ in nothing but their layout.
* `Drawing.renumber` — a drawing with other line numbers.

## Main results

* `relaid_unlines` — every layout is that of a text.
* `Reader.renumber_read`, `Reader.readLines_weave` — one line, and all lines.
* `read_relaid` — the drawing of a text that is laid out anew.
* `read_consistent` — what is read from any text, whatever its layout.
-/

namespace SystemSketch.Diagram

open Text

variable {gap : ℕ → List (List Char)} {ls ls' : List (List Char)} {line line' : List Char}

/-! ### Other layouts -/

/-- Lines with other lines put between them: those of `gap n` before line `n`, and those of the last
gap behind all lines. -/
def weave (gap : ℕ → List (List Char)) : List (List Char) → List (List Char)
  | [] => gap 0
  | line :: rest => gap 0 ++ line :: weave (fun n => gap (n + 1)) rest

/-- How many lines are put before line `n`. -/
def insertedBefore (gap : ℕ → List (List Char)) (n : ℕ) : ℕ :=
  ∑ i ∈ Finset.range (n + 1), (gap i).length

/-- The lines before a later line are those of the first gap and those of the others. -/
theorem insertedBefore_succ (gap : ℕ → List (List Char)) (n : ℕ) :
    insertedBefore gap (n + 1) =
      (gap 0).length + insertedBefore (fun n => gap (n + 1)) n := by
  rw [insertedBefore, Finset.sum_range_succ', Nat.add_comm, insertedBefore]

/-- Lines that differ in nothing but **the blanks at their ends**. -/
def Respaced (line line' : List Char) : Prop :=
  ∃ front front' inner back back', line = front ++ inner ++ back ∧
    line' = front' ++ inner ++ back' ∧
    ∀ part ∈ [front, front', back, back'], ∀ c ∈ part, isBlank c = true

/-- Lines are respaced exactly if the same is left of them when they are trimmed. -/
theorem respaced_iff : Respaced line line' ↔ trim line = trim line' := by
  constructor
  · rintro ⟨front, front', inner, back, back', rfl, rfl, hblank⟩
    simp only [List.forall_mem_cons] at hblank
    obtain ⟨hfront, hfront', hback, hback', -⟩ := hblank
    rw [trim, trim, trimBoth_append hfront hback, trimBoth_append hfront' hback']
  · intro h
    obtain ⟨front, back, hline, hfront, hback, -⟩ := isTrimmed_iff.mpr (Eq.refl (trim line))
    obtain ⟨front', back', hline', hfront', hback', -⟩ := isTrimmed_iff.mpr (Eq.refl (trim line'))
    refine ⟨front, front', trim line, back, back', hline, h ▸ hline', ?_⟩
    simp only [List.forall_mem_cons]
    exact ⟨hfront, hfront', hback, hback', fun _ h => absurd h List.not_mem_nil⟩

/-- Lines are respaced one by one exactly if the same is left of all of them. -/
theorem forall₂_respaced_iff : List.Forall₂ Respaced ls ls' ↔ ls.map trim = ls'.map trim := by
  rw [← List.forall₂_eq_eq_eq, List.forall₂_map_left_iff, List.forall₂_map_right_iff]
  exact ⟨fun h => h.imp fun _ _ => respaced_iff.mp, fun h => h.imp fun _ _ => respaced_iff.mpr⟩

/-- Texts that differ in nothing but **their layout**. -/
structure Relaid (gap : ℕ → List (List Char)) (text text' : String) : Prop where
  /-- What is put between the lines are blank lines, and lines that begin as remarks do. -/
  silent : ∀ n, ∀ line ∈ gap n, (∀ c ∈ line, isBlank c = true) ∨ "%%".toList <+: line
  /-- The old lines and those that are put between them are the new ones, up to the blanks at their
  ends. A line of blanks at the end of a text is no line any more when all of them go away. -/
  respaced : ∃ k k', List.Forall₂ Respaced
    (weave gap (lines text.toList) ++ List.replicate k [])
    (lines text'.toList ++ List.replicate k' [])

/-- **Every layout is had**: lines without breaks that are the old ones and those between them, up
to the blanks at their ends, are the lines of a text. -/
theorem relaid_unlines {text : String}
    (hsilent : ∀ n, ∀ line ∈ gap n, (∀ c ∈ line, isBlank c = true) ∨ "%%".toList <+: line)
    (hlines : ∀ line ∈ ls', SingleLine line)
    (h : List.Forall₂ Respaced (weave gap (lines text.toList)) ls') :
    Relaid gap text (String.ofList (unlines ls')) := by
  refine ⟨hsilent, 0, 0, ?_⟩
  rw [String.toList_ofList, lines_unlines hlines]
  simpa using h

/-- A line that is blank or begins as remarks do is passed over. -/
theorem isPassedOver_trim (h : (∀ c ∈ line, isBlank c = true) ∨ "%%".toList <+: line) :
    isPassedOver (trim line) = true := by
  rcases h with hblank | ⟨text, rfl⟩
  · rw [trim_eq_nil hblank]
    rfl
  · change isPassedOver (trim ('%' :: '%' :: text)) = true
    have hend : trimEnd ('%' :: text) = '%' :: trimEnd text :=
      dropEndWhile_append_cons [] text (by decide)
    rw [trim_cons _ (by decide), hend]
    rfl

/-! ### Other line numbers -/

/-- An edge with another line number. -/
def Edge.renumber (f : ℕ → ℕ) (e : Edge) : Edge :=
  { e with line := f e.line }

/-- A drawing with **other line numbers**. -/
def Drawing.renumber (f : ℕ → ℕ) (d : Drawing) : Drawing :=
  { d with
    nodeLines := d.nodeLines.mapValues f
    edges := d.edges.map (Edge.renumber f) }

section

variable (f : ℕ → ℕ) (d : Drawing)

@[simp] theorem Drawing.nodes_renumber : (d.renumber f).nodes = d.nodes := rfl

@[simp] theorem Drawing.nodeClusters_renumber :
    (d.renumber f).nodeClusters = d.nodeClusters := rfl

@[simp] theorem Drawing.toList_nodeLines_renumber :
    (d.renumber f).nodeLines.toList = d.nodeLines.toList.map (Prod.map id f) := rfl

@[simp] theorem Drawing.edges_renumber :
    (d.renumber f).edges = d.edges.map (Edge.renumber f) := rfl

end

namespace Reader

/-- A reader whose drawing has other line numbers. -/
def renumber (f : ℕ → ℕ) (r : Reader) : Reader :=
  { r with drawing := r.drawing.renumber f }

/-- A statement is taken up in whatever line it stands. -/
theorem renumber_declare (f : ℕ → ℕ) (r : Reader) (number : ℕ) (s : Statement) :
    (r.declare number s).renumber f = (r.renumber f).declare (f number) s := by
  cases s with
  | node id label =>
    simp only [declare, declareNode, renumber, Drawing.renumber, Table.mapValues_setNew]
  | edge source isAsync label target =>
    simp only [declare, renumber, Drawing.renumber, List.map_append]
    rfl
  | directive _ | openCluster _ _ | closeCluster | assign _ _ | style _ | comment _ | space => rfl

/-- **One line** is read as it is, whatever its number. -/
theorem renumber_read (f : ℕ → ℕ) (r : Reader) (number : ℕ) (line : List Char) :
    (r.read number line).renumber f = (r.renumber f).read (f number) line := by
  by_cases hdirective : r.drawing.directive.isSome = true
  · have hrenumbered : (r.renumber f).drawing.directive.isSome = true := hdirective
    rw [read_eq hdirective, read_eq hrenumbered]
    cases statementOf? line with
    | none => rfl
    | some s => exact renumber_declare f r number s
  · rw [Option.not_isSome_iff_eq_none, ← Option.isNone_iff_eq_none] at hdirective
    have hrenumbered : (r.renumber f).drawing.directive.isNone = true := hdirective
    rw [read_of_isNone hdirective, read_of_isNone hrenumbered]
    rfl

/-- **All lines**, with lines between them that are passed over: if `f` says where each line comes
to stand, the same is read from it there. -/
theorem readLines_weave (hgap : ∀ n, ∀ line ∈ gap n, isPassedOver (trim line) = true)
    {f : ℕ → ℕ} {start start' : ℕ}
    (hf : ∀ n, f (start + n) = start' + n + insertedBefore gap n) (r : Reader)
    (ls : List (List Char)) :
    (r.renumber f).readLines start' (weave gap ls) = (r.readLines start ls).renumber f := by
  -- each line takes its gap with it, and the other gaps move up by one
  induction ls generalizing gap start start' r with
  | nil => exact readLines_of_isPassedOver _ _ (hgap 0)
  | cons line ls ih =>
    have hline : start' + (gap 0).length = f start := by
      simpa [insertedBefore] using (hf 0).symm
    have hrest : ∀ n, f (start + 1 + n) =
        start' + (gap 0).length + 1 + n + insertedBefore (fun n => gap (n + 1)) n := by
      intro n
      rw [Nat.add_assoc, Nat.add_comm 1, hf, insertedBefore_succ]
      omega
    rw [weave, readLines_append, readLines_of_isPassedOver _ _ (hgap 0), readLines, readLines,
      ← ih (fun n => hgap (n + 1)) hrest, renumber_read, ← hline]

end Reader

/-! ### Reading -/

/-- **A text that is laid out anew** has the same drawing, and the number of every line grows by the
number of lines that are put before it. -/
theorem read_relaid {text text' : String} (h : Relaid gap text text') :
    read text' = (read text).renumber fun n => n + insertedBefore gap n := by
  obtain ⟨k, k', hrespaced⟩ := h.respaced
  have hempty : ∀ m, ∀ line ∈ List.replicate m ([] : List Char),
      isPassedOver (trim line) = true := fun m line hline => by
    rw [List.eq_of_mem_replicate hline]
    rfl
  have hgap : ∀ n, ∀ line ∈ gap n, isPassedOver (trim line) = true := fun n line hline =>
    isPassedOver_trim (h.silent n line hline)
  have hplace : ∀ n,
      0 + n + insertedBefore gap (0 + n) = 0 + n + insertedBefore gap n := fun n => by
    rw [Nat.zero_add]
  have hwoven := Reader.readLines_weave (f := fun n => n + insertedBefore gap n) hgap hplace {}
    (lines text.toList)
  have hpadded := Reader.readLines_congr (forall₂_respaced_iff.mp hrespaced) {} 0
  rw [Reader.readLines_append, Reader.readLines_append,
    Reader.readLines_of_isPassedOver _ _ (hempty k),
    Reader.readLines_of_isPassedOver _ _ (hempty k')] at hpadded
  exact congrArg Reader.drawing (hpadded.symm.trans hwoven)

/-- **What is read from any text** is consistent, and does not depend on its layout. The nodes and
the edges are those that its lines declare: each node on the first of its lines and with the label
of the last, each edge on a later line than those before it. In a text that is laid out anew nothing
changes but the numbers of the lines, which grow by the number of lines that are put before them. -/
theorem read_consistent (text : String) :
    ((read text).NodesFrom (lines text.toList) ∧ (read text).EdgesFrom (lines text.toList)) ∧
      ∀ gap text', Relaid gap text text' →
        read text' = (read text).renumber fun n => n + insertedBefore gap n :=
  ⟨Reader.from_readLines _, fun _ _ h => read_relaid h⟩

/-- A drawing that declares a node twice and holds a line that says nothing, with a line of blanks
at its end. -/
def draft : String :=
  "\n graph TD\nsubgraph s[\"S\"]\nA[\"one\"]\nB[\"b\"]\nend\nA[\"two\"]\r B[\"\n" ++
    "A -->|x| B\n  B -.->|y| A\n  "

/-- The drawing with lines before the directive, in the open cluster and at the end, with other
breaks and with other blanks at the ends of its lines. -/
def redraft : String :=
  "%% new\r\n\n\u3000graph TD\t\n\n subgraph s[\"S\"]\n\tA[\"one\"]\x1f\n%%A[\"x\"]\n \u2028" ++
    "B[\"b\"]\x0bend\nA[\"two\"]\nB[\"\n\u00a0A -->|x| B\nB -.->|y| A\n%% end"

/-- The lines that are put between those of the drawing. -/
def draftGap : ℕ → List (List Char)
  | 0 => ["%% new".toList]
  | 2 => [[]]
  | 4 => ["%%A[\"x\"]".toList, [' ']]
  | 10 => ["%% end".toList]
  | _ => []

/-- The redraft declares what the draft does. Its lines have other numbers, and a node keeps the
number of the line that declared it first. -/
theorem read_consistent_redraft :
    Relaid draftGap draft redraft ∧
      (read redraft).nodes.toList = [("A", "two"), ("B", "b")] ∧
      (read redraft).nodeClusters.toList = [("A", ["s"]), ("B", ["s"])] ∧
      ((read draft).nodeLines.toList = [("A", 3), ("B", 4)] ∧
        (read redraft).nodeLines.toList = [("A", 5), ("B", 8)]) ∧
      ((read draft).edges.map Edge.line = [8, 9] ∧
        (read redraft).edges = [⟨"A", "B", "x", false, 12⟩, ⟨"B", "A", "y", true, 13⟩]) := by
  have hrelaid : Relaid draftGap draft redraft := by
    have hsilent : ∀ n, (draftGap n).all
        (fun line => line.all isBlank || "%%".toList.isPrefixOf line) = true := fun n => by
      unfold draftGap
      split <;> rfl
    refine ⟨fun n line hline => ?_, 0, 1, forall₂_respaced_iff.mpr (by decide +kernel)⟩
    have hall := List.all_eq_true.mp (hsilent n) line hline
    rwa [Bool.or_eq_true, List.all_eq_true, List.isPrefixOf_iff_prefix] at hall
  have hread := (read_consistent draft).2 draftGap redraft hrelaid
  have hdraft : (read draft).nodes.toList = [("A", "two"), ("B", "b")] ∧
      (read draft).nodeClusters.toList = [("A", ["s"]), ("B", ["s"])] ∧
      (read draft).nodeLines.toList = [("A", 3), ("B", 4)] ∧
      (read draft).edges = [⟨"A", "B", "x", false, 8⟩, ⟨"B", "A", "y", true, 9⟩] := by
    decide +kernel
  obtain ⟨hnodes, hclusters, hlines, hedges⟩ := hdraft
  rw [hread, Drawing.nodes_renumber, Drawing.nodeClusters_renumber,
    Drawing.toList_nodeLines_renumber, Drawing.edges_renumber, hnodes, hclusters, hlines, hedges]
  exact ⟨hrelaid, rfl, rfl, ⟨rfl, by decide⟩, rfl, by decide⟩

end SystemSketch.Diagram
