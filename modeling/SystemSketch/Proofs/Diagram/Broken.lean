import SystemSketch.Proofs.Diagram.Render

/-!
# Labels that hold line breaks

The label of a node keeps the line breaks of its text, so a node whose label holds one is written
on several lines. A line that declares a node holds two double quotes, but the label holds none,
and the two of the statement stand on different lines: such a node is never read. The drawing
that is read therefore has the nodes of exactly the components whose labels stand on one line.

What the pieces of a broken label declare instead is another matter: they are read like any other
lines, and can end a cluster or declare an edge.

## Main results

* `Statement.two_le_count_of_ofLine?_node` — what a line holds that declares a node.
* `count_le_one_of_mem_lines_node` — what the lines of a broken node hold.
* `filterMap_lines_of_singleLine`, `filterMap_lines_of_broken` — the nodes that the lines of a
  statement declare.
* `nodes_read_render_of_any` — the nodes that are read from the drawing of any model.
-/

namespace SystemSketch.Diagram

open Text

/-! ### Lines that declare a node -/

namespace Statement

/-- A text in brackets and quotes holds two quotes. -/
theorem two_le_count_of_bracketed? {text label : List Char} (h : bracketed? text = some label) :
    2 ≤ text.count '\x22' := by
  simp only [bracketed?, Option.bind_eq_bind, Option.bind_eq_some_iff] at h
  obtain ⟨rest, hopen, hclose⟩ := h
  rw [after?_eq_some_iff.mp hopen, before?_eq_some_iff.mp hclose, List.count_append,
    List.count_append]
  have hfront : "[\"".toList.count '\x22' = 1 := by decide
  have hback : "\"]".toList.count '\x22' = 1 := by decide
  omega

/-- **A line that declares a node** holds two quotes. -/
theorem two_le_count_of_ofLine?_node {line : List Char} {id label : String}
    (h : ofLine? line = some (node id label)) : 2 ≤ line.count '\x22' := by
  have hopen : readOpenCluster? line ≠ some (node id label) := by
    intro heq
    simp only [readOpenCluster?, Option.bind_eq_bind, Option.bind_eq_some_iff] at heq
    obtain ⟨-, -, -, -, ⟨name, rest⟩, -, htitle⟩ := heq
    split at htitle <;> simp [Option.bind_eq_some_iff] at htitle
  have hclose : readCloseCluster? line ≠ some (node id label) := by
    intro heq
    simp [readCloseCluster?] at heq
  have hedge : readEdge? line ≠ some (node id label) := by
    intro heq
    simp [readEdge?, Option.bind_eq_some_iff] at heq
  have hassign : readAssign? line ≠ some (node id label) := by
    intro heq
    simp [readAssign?, Option.bind_eq_some_iff] at heq
  have hnode : readNode? line = some (node id label) := by
    simp only [ofLine?, Option.orElse_eq_orElse, Option.orElse_eq_or, Option.or_eq_some_iff] at h
    tauto
  simp only [readNode?, Option.bind_eq_bind, Option.bind_eq_some_iff] at hnode
  obtain ⟨⟨name, rest⟩, hname, found, hlabel, -⟩ := hnode
  have hrest : rest = line.dropWhile isWord := by
    rw [nameFirst?] at hname
    split at hname
    · cases hname
    · exact (Prod.mk.inj (Option.some.inj hname)).2.symm
  calc 2 ≤ rest.count '\x22' := two_le_count_of_bracketed? hlabel
    _ ≤ line.count '\x22' := by
      rw [hrest]
      exact (List.dropWhile_sublist isWord).count_le _

end Statement

/-- A line with less than two quotes declares no node. -/
theorem nodeEntry?_statementOf?_eq_none {line : List Char} (h : line.count '\x22' ≤ 1) :
    (statementOf? line).bind Statement.nodeEntry? = none := by
  cases hs : statementOf? line with
  | none => rfl
  | some s =>
    rw [statementOf?] at hs
    split at hs
    · cases hs
    · cases s with
      | node id label =>
        have htwo := Statement.two_le_count_of_ofLine?_node hs
        have hle : (trim line).count '\x22' ≤ line.count '\x22' :=
          (trimBoth_sublist isBlank line).count_le _
        omega
      | directive _ | openCluster _ _ | closeCluster | edge _ _ _ _ | assign _ _ | style _
      | comment _ | space => rfl

/-! ### The lines of a statement -/

/-- The lines of a node whose label holds a break hold less than two quotes each: the one that
opens the label stands on the first line, and the one that closes it on a later one. -/
theorem count_le_one_of_mem_lines_node {id label : String} (hid : IsName id)
    (hquote : '\x22' ∉ label.toList) (hbroken : ¬SingleLine label.toList) {line : List Char}
    (h : line ∈ lines ((Statement.node id label).print.toList ++ ['\n'])) :
    line.count '\x22' ≤ 1 := by
  obtain ⟨front, b, back, hlabel, hfront, hb⟩ := exists_break_of_not_singleLine hbroken
  rw [hlabel, List.mem_append, List.mem_cons, not_or, not_or] at hquote
  obtain ⟨hfrontquote, -, hbackquote⟩ := hquote
  have hprint : (Statement.node id label).print.toList ++ ['\n'] =
      ("    ".toList ++ (id.toList ++ ("[\"".toList ++ front))) ++
        b :: (back ++ ("\"]".toList ++ ['\n'])) := by
    simp only [Statement.toList_print_node, hlabel, List.append_assoc, List.cons_append]
  have hopening : SingleLine ("    ".toList ++ (id.toList ++ ("[\"".toList ++ front))) :=
    SingleLine.append (by decide) (hid.singleLine.append (SingleLine.append (by decide) hfront))
  obtain ⟨rest, hrest, hlines⟩ :=
    lines_append_break (back ++ ("\"]".toList ++ ['\n'])) hopening hb
  rw [hprint, hlines] at h
  rcases List.mem_cons.mp h with rfl | hlater
  · have hname : id.toList.count '\x22' = 0 := List.count_eq_zero.mpr (hid.notMem (by decide))
    have hlabelfront : front.count '\x22' = 0 := List.count_eq_zero.mpr hfrontquote
    have hindent : "    ".toList.count '\x22' = 0 := by decide
    have hbracket : "[\"".toList.count '\x22' = 1 := by decide
    simp only [List.count_append]
    omega
  · have hpart : line.Sublist (back ++ ("\"]".toList ++ ['\n'])) :=
      ((List.sublist_flatten_of_mem hlater).trans (flatten_lines_sublist rest)).trans hrest
    have hle := hpart.count_le '\x22'
    have hlabelback : back.count '\x22' = 0 := List.count_eq_zero.mpr hbackquote
    have hbracket : ("\"]".toList ++ ['\n']).count '\x22' = 1 := by decide
    rw [List.count_append] at hle
    omega

/-- A statement on one line declares the node that it is, if it is one. -/
theorem filterMap_lines_of_singleLine {s : Statement} (h : s.Legible ∨ s.IsSilent)
    (hline : SingleLine s.print.toList) :
    ((lines (s.print.toList ++ ['\n'])).filterMap statementOf?).filterMap Statement.nodeEntry? =
      s.nodeEntry?.toList := by
  have hlines : lines (s.print.toList ++ ['\n']) = [s.print.toList] :=
    lines_append_lineFeed [] hline
  rcases h with hlegible | hsilent
  · rw [hlines, List.filterMap_cons_some (statementOf?_print hlegible), List.filterMap_nil]
    cases s <;> rfl
  · rw [hlines, List.filterMap_cons_none (statementOf?_print_of_isSilent hsilent)]
    cases s with
    | comment _ | space | style _ => rfl
    | directive _ | openCluster _ _ | closeCluster | node _ _ | edge _ _ _ _ | assign _ _ =>
      exact hsilent.elim

/-- **A node whose label holds a break** is read as none. -/
theorem filterMap_lines_of_broken {id label : String} (hid : IsName id)
    (hquote : '\x22' ∉ label.toList) (hbroken : ¬SingleLine label.toList) :
    ((lines ((Statement.node id label).print.toList ++ ['\n'])).filterMap
      statementOf?).filterMap Statement.nodeEntry? = [] := by
  rw [List.filterMap_filterMap, List.filterMap_eq_nil_iff]
  intro line hline
  exact nodeEntry?_statementOf?_eq_none (count_le_one_of_mem_lines_node hid hquote hbroken hline)

section

variable {m : Model} {s : Statement}

/-- A statement behind the directive stands on one line, or it is a node whose label does not. -/
theorem Drawn.singleLine_or_broken (h : Drawn m s) :
    (SingleLine s.print.toList ∧ ∀ entry ∈ s.nodeEntry?, SingleLine entry.2.toList) ∨
      ∃ c, s = nodeOf (nodeIds m) c ∧ ¬SingleLine (escapeLabel c.label).toList := by
  by_cases hs : ∀ entry ∈ s.nodeEntry?, SingleLine entry.2.toList
  · exact Or.inl ⟨h.singleLine_of_entry hs, hs⟩
  · refine Or.inr ?_
    cases h with
    | node c hc =>
      refine ⟨c, rfl, fun hlabel => hs fun entry hentry => ?_⟩
      obtain rfl := Option.some.inj hentry
      exact hlabel
    | openCluster _ | closeCluster | edge _ _ _ _ _ | assign _ _ | style _ _ | remark _ _
    | space => exact absurd (fun entry hentry => by cases hentry) hs

/-- The lines of a statement behind the directive declare a node exactly if the statement is one
with its label on one line. -/
theorem Drawn.filterMap_lines (h : Drawn m s) :
    ((lines (s.print.toList ++ ['\n'])).filterMap statementOf?).filterMap Statement.nodeEntry? =
      (s.nodeEntry?.filter fun entry => decide (SingleLine entry.2.toList)).toList := by
  rcases h.singleLine_or_broken with ⟨hline, hs⟩ | ⟨c, rfl, hbroken⟩
  · rw [filterMap_lines_of_singleLine h.legible_or_silent hline]
    cases hentry : s.nodeEntry? with
    | none => rfl
    | some entry => rw [Option.filter_some, if_pos (decide_eq_true (hs entry hentry))]
  · have hnone := filterMap_lines_of_broken (isName_idOf m c.id)
      (quote_notMem_escapeLabel c.label) hbroken
    rw [nodeOf, hnone, Statement.nodeEntry?, Option.filter_some,
      if_neg (mt of_decide_eq_true hbroken)]
    rfl

/-- No statement ends in the first half of a break. -/
theorem Drawn.getLast?_print_ne (h : Drawn m s) : s.print.toList.getLast? ≠ some '\r' := by
  intro hlast
  rcases h.singleLine_or_broken with ⟨hline, -⟩ | ⟨c, rfl, -⟩
  · have hreturn := hline '\r' (List.mem_of_getLast? hlast)
    exact absurd hreturn (by decide)
  · rw [nodeOf, Statement.print, String.toList_append,
      List.getLast?_append_of_ne_nil _ (by decide)] at hlast
    exact absurd hlast (by decide)

end

/-! ### Reading any drawing -/

variable (m : Model)

/-- The lines of a drawing: the directive, and the lines of every statement behind it. -/
theorem lines_render :
    lines (render m).toList = (Statement.directive directive).print.toList ::
      (body m).flatMap fun s => lines (s.print.toList ++ ['\n']) := by
  have hends : ∀ line ∈ (statements m).map (fun s => s.print.toList),
      line.getLast? ≠ some '\r' := by
    intro line hline
    rw [statements_eq, List.map_cons, List.mem_cons] at hline
    rcases hline with rfl | hline
    · decide
    · obtain ⟨s, hs, rfl⟩ := List.mem_map.mp hline
      exact (drawn_of_mem_body hs).getLast?_print_ne
  have hfirst : lines ((Statement.directive directive).print.toList ++ ['\n']) =
      [(Statement.directive directive).print.toList] := by decide
  rw [render, String.toList_ofList, lines_unlines_of_getLast? hends, statements_eq,
    List.map_cons, List.flatMap_cons, hfirst, List.flatMap_map]
  rfl

/-- The nodes that the lines behind the directive declare. -/
theorem filterMap_lines_body :
    (((body m).flatMap fun s => lines (s.print.toList ++ ['\n'])).filterMap
      statementOf?).filterMap Statement.nodeEntry? =
        ((clustered m).filter fun c => decide (SingleLine c.label.toList)).map fun c =>
          ((nodeIds m).idOf c.id, escapeLabel c.label) := by
  calc (((body m).flatMap fun s => lines (s.print.toList ++ ['\n'])).filterMap
        statementOf?).filterMap Statement.nodeEntry?
      = (body m).flatMap fun s =>
          (s.nodeEntry?.filter fun entry => decide (SingleLine entry.2.toList)).toList := by
        rw [List.filterMap_flatMap, List.filterMap_flatMap]
        exact List.flatMap_congr fun s hs => (drawn_of_mem_body hs).filterMap_lines
    _ = ((body m).filterMap Statement.nodeEntry?).filter fun entry =>
          decide (SingleLine entry.2.toList) := by
        rw [List.filter_filterMap, List.filterMap_eq_flatMap_toList]
    _ = ((clustered m).filter fun c => decide (SingleLine c.label.toList)).map fun c =>
          ((nodeIds m).idOf c.id, escapeLabel c.label) := by
        have hentries := filterMap_nodeEntry? (m := m)
        rw [hentries, List.filter_map]
        simp only [Function.comp_def, singleLine_escapeLabel_iff]

/-- **The nodes of any drawing.** The nodes that are read are those of the components whose labels
stand on one line, cluster by cluster. -/
theorem nodes_read_render_of_any :
    (read (render m)).nodes.toList =
      ((clustered m).filter fun c => decide (SingleLine c.label.toList)).map fun c =>
        ((nodeIds m).idOf c.id, escapeLabel c.label) := by
  have hnodup : ((((clustered m).filter fun c => decide (SingleLine c.label.toList)).map fun c =>
      ((nodeIds m).idOf c.id, escapeLabel c.label)).map Prod.fst).Nodup := by
    rw [List.map_map]
    exact (nodup_clustered_ids m).sublist (List.filter_sublist.map _)
  rw [read, lines_render, Reader.readLines, read_directive, Reader.nodes_readLines rfl,
    filterMap_lines_body]
  exact Table.toList_foldl_set hnodup

/-- How many nodes are read: one for each component whose label stands on one line. -/
theorem size_nodes_read_render :
    (read (render m)).nodes.size =
      m.components.toList.countP fun c => decide (SingleLine c.label.toList) := by
  rw [Keyed.size, nodes_read_render_of_any, List.length_map, ← List.countP_eq_length_filter,
    (clustered_perm m).countP_eq]

/-- **Every component is drawn** exactly if every label stands on one line. -/
theorem size_nodes_eq_iff :
    (read (render m)).nodes.size = m.components.size ↔ m.SingleLine := by
  rw [size_nodes_read_render, Keyed.size, List.countP_eq_length, Model.SingleLine]
  simp only [decide_eq_true_eq]

end SystemSketch.Diagram
