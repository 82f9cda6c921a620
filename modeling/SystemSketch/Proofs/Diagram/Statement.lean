import SystemSketch.Diagram.Statement
import SystemSketch.Proofs.Diagram.NodeId
import SystemSketch.Proofs.Text.Search

/-!
# Printing and reading a statement

A statement whose ids are names is read back from the line it is printed as, whatever its labels
hold. A label reaches to the last mark that can end it, and behind that mark stands nothing, or
a name, so the label itself is never cut.

The readings of a line are tried one after the other. No id needs to differ from a keyword for
that: behind a keyword stands a blank, and behind an id a bracket or an arrow.

## Main definitions

* `Statement.Legible` — the statements that are read back.

## Main results

* `IsName.nameFirst?_append`, `IsName.afterBlanks?_after?` — how far a name is read, and that a
  keyword at its front is not taken for the keyword.
* `Statement.ofLine?_print` — what is printed is read back.
* `Statement.singleLine_print_node`, `Statement.singleLine_print_edge`,
  `Statement.singleLine_print_assign` — a statement is printed on one line.
-/

namespace SystemSketch.Diagram

open Text

/-! ### Names in a line -/

namespace IsName

variable {id : String}

/-- The first character of a name. -/
theorem exists_cons (h : IsName id) : ∃ c text, id.toList = c :: text ∧ isPlainWord c = true := by
  cases hid : id.toList with
  | nil => exact absurd hid h.ne_nil
  | cons c text =>
    refine ⟨c, text, rfl, h.plain c ?_⟩
    rw [hid]
    exact List.mem_cons_self

/-- A name holds no character of another kind. -/
theorem notMem (h : IsName id) {c : Char} (hc : isPlainWord c = false) : c ∉ id.toList := by
  intro hmem
  rw [h.plain c hmem] at hc
  exact Bool.noConfusion hc

/-- A name is read up to the first character that belongs to no word. -/
theorem nameFirst?_append (h : IsName id) {c : Char} (rest : List Char) (hc : isWord c = false) :
    Statement.nameFirst? (id.toList ++ c :: rest) = some (id.toList, c :: rest) := by
  have hword : ∀ d ∈ id.toList, isWord d = true := fun d hd => isWord_of_isPlainWord (h.plain d hd)
  have hne : id.toList.isEmpty = false := by
    rw [List.isEmpty_eq_false_iff]
    exact h.ne_nil
  rw [Statement.nameFirst?, takeWhile_append_cons hword hc, dropWhile_append_cons hword hc, hne,
    if_neg Bool.false_ne_true]

/-- A name stands behind the blank that separates it. -/
theorem afterBlanks?_space (h : IsName id) (rest : List Char) :
    Statement.afterBlanks? (' ' :: (id.toList ++ rest)) = some (id.toList ++ rest) := by
  obtain ⟨c, text, hid, hc⟩ := h.exists_cons
  have hblank : ¬isBlank c = true := by
    rw [isBlank_of_isPlainWord hc]
    exact Bool.false_ne_true
  rw [hid, Statement.afterBlanks?, if_pos (by decide), trimStart,
    List.cons_append, List.dropWhile_cons_of_neg hblank]

/-- A name fills the rest of a line. -/
theorem all_isWord (h : IsName id) : id.toList.all isWord = true :=
  List.all_eq_true.mpr fun c hc => isWord_of_isPlainWord (h.plain c hc)

/-- A name holds no blank. -/
theorem isBlank_of_mem (h : IsName id) : ∀ c ∈ id.toList, isBlank c = false :=
  fun c hc => isBlank_of_isPlainWord (h.plain c hc)

/-- A name holds no blank. -/
theorem any_isBlank (h : IsName id) : id.toList.any isBlank = false :=
  List.any_eq_false.mpr fun c hc => Bool.eq_false_iff.mp (h.isBlank_of_mem c hc)

/-- A name stands on one line. -/
theorem singleLine (h : IsName id) : SingleLine id.toList :=
  singleLine_of_isBlank h.isBlank_of_mem

end IsName

/-! ### Keywords in a line -/

/-- A keyword is cut off a name or from nothing, since no keyword holds what ends the name. -/
theorem after?_append_cons {word name rest : List Char} {c : Char}
    (hword : ∀ d ∈ word, isPlainWord d = true) (hc : isPlainWord c = false) :
    after? word (name ++ c :: rest) = (after? word name).map (· ++ c :: rest) := by
  induction word generalizing name with
  | nil => rfl
  | cons w word ih =>
    have hw : isPlainWord w = true := hword w List.mem_cons_self
    cases name with
    | nil =>
      have hne : ¬(w == c) = true := by
        rw [beq_iff_eq]
        rintro rfl
        rw [hw] at hc
        exact Bool.noConfusion hc
      rw [List.nil_append]
      exact if_neg hne
    | cons d name =>
      rw [List.cons_append, after?, after?, ih fun e he => hword e (List.mem_cons_of_mem w he)]
      split <;> rfl

/-- Behind a keyword at the front of a name there is no blank, unless the name ends there. -/
theorem IsName.afterBlanks?_after? {id word : String} (h : IsName id) (hword : IsName word)
    {c : Char} (rest : List Char) (hc : isPlainWord c = false) :
    (after? word.toList (id.toList ++ c :: rest)).bind Statement.afterBlanks? = none ∨
      (after? word.toList (id.toList ++ c :: rest)).bind Statement.afterBlanks? =
        Statement.afterBlanks? (c :: rest) := by
  rw [after?_append_cons hword.plain hc]
  cases hcut : after? word.toList id.toList with
  | none => exact Or.inl rfl
  | some more =>
    cases more with
    | nil => exact Or.inr rfl
    | cons d more =>
      have hd : d ∈ id.toList := by
        rw [after?_eq_some_iff.mp hcut]
        exact List.mem_append_right word.toList List.mem_cons_self
      have hblank : ¬isBlank d = true := by
        rw [isBlank_of_isPlainWord (h.plain d hd)]
        exact Bool.false_ne_true
      exact Or.inl (if_neg hblank)

namespace Statement

/-- The start of a cluster is `subgraph`, blanks, and what is read behind them. -/
theorem readOpenCluster?_eq_none {line : List Char}
    (h : ∀ rest, (after? "subgraph".toList line).bind afterBlanks? = some rest →
      nameFirst? rest = none) : readOpenCluster? line = none := by
  cases hword : after? "subgraph".toList line with
  | none => rw [readOpenCluster?, hword]; rfl
  | some tail =>
    cases hblank : afterBlanks? tail with
    | none => rw [readOpenCluster?, hword, Option.bind_eq_bind, Option.bind_some, hblank]; rfl
    | some rest =>
      have hname : nameFirst? rest = none := h rest (by rw [hword, Option.bind_some, hblank])
      rw [readOpenCluster?, hword, Option.bind_eq_bind, Option.bind_some, hblank,
        Option.bind_eq_bind, Option.bind_some, hname]
      rfl

/-- A name with a bracket behind it does not start a cluster. -/
theorem readOpenCluster?_bracket {id : String} (h : IsName id) (rest : List Char) :
    readOpenCluster? (id.toList ++ '[' :: rest) = none := by
  refine readOpenCluster?_eq_none fun tail htail => ?_
  have hword : IsName "subgraph" := by decide
  rcases h.afterBlanks?_after? hword rest (by decide : isPlainWord '[' = false) with
    hnone | hblank
  · rw [hnone] at htail
    exact absurd htail (Option.some_ne_none tail).symm
  · rw [hblank, afterBlanks?, if_neg (by decide)] at htail
    exact absurd htail (Option.some_ne_none tail).symm

/-- A name with an arrow behind it does not start a cluster. -/
theorem readOpenCluster?_arrow {id : String} (h : IsName id) (rest : List Char) :
    readOpenCluster? (id.toList ++ ' ' :: '-' :: rest) = none := by
  refine readOpenCluster?_eq_none fun tail htail => ?_
  have hword : IsName "subgraph" := by decide
  rcases h.afterBlanks?_after? hword ('-' :: rest) (by decide : isPlainWord ' ' = false) with
    hnone | hblank
  · rw [hnone] at htail
    exact absurd htail (Option.some_ne_none tail).symm
  · rw [hblank, afterBlanks?, if_pos (by decide), Option.some.injEq] at htail
    rw [← htail]
    rfl

/-- A line that holds a character of no keyword does not end a cluster. -/
theorem readCloseCluster?_eq_none {line : List Char} {c : Char} (hc : c ∈ line)
    (hend : c ∉ "end".toList) : readCloseCluster? line = none := by
  refine if_neg fun heq => hend ?_
  rwa [← beq_iff_eq.mp heq]

/-- A text in brackets and quotes is found whole, whatever it holds. -/
theorem bracketed?_append (text : List Char) :
    bracketed? ("[\"".toList ++ (text ++ "\"]".toList)) = some text := by
  rw [bracketed?, after?_append]
  exact before?_append text _

/-- Behind a name with a blank behind it no label of a node can stand. -/
theorem readNode?_blank {id : String} (h : IsName id) (rest : List Char) :
    readNode? (id.toList ++ ' ' :: rest) = none := by
  rw [readNode?, h.nameFirst?_append rest (by decide : isWord ' ' = false)]
  rfl

/-! ### The characters of a line -/

/-- The characters of the line that starts a cluster. -/
theorem toList_print_openCluster (id title : String) :
    (openCluster id title).print.toList =
      "  subgraph ".toList ++ id.toList ++ "[\"".toList ++ title.toList ++ "\"]".toList := by
  have hline : (openCluster id title).print = "  subgraph " ++ id ++ "[\"" ++ title ++ "\"]" := rfl
  simp only [hline, String.toList_append]

/-- The characters of the line of a node. -/
theorem toList_print_node (id label : String) :
    (node id label).print.toList =
      "    ".toList ++ id.toList ++ "[\"".toList ++ label.toList ++ "\"]".toList := by
  have hline : (node id label).print = "    " ++ id ++ "[\"" ++ label ++ "\"]" := rfl
  simp only [hline, String.toList_append]

/-- The characters of the line of an edge. -/
theorem toList_print_edge (source : String) (isAsync : Bool) (label target : String) :
    (edge source isAsync label target).print.toList =
      "  ".toList ++ source.toList ++ " ".toList ++ (arrow isAsync).toList ++ "|".toList ++
        label.toList ++ "| ".toList ++ target.toList := by
  have hline : (edge source isAsync label target).print =
    "  " ++ source ++ " " ++ arrow isAsync ++ "|" ++ label ++ "| " ++ target := rfl
  simp only [hline, String.toList_append]

/-- The characters of the line of a style class. -/
theorem toList_print_assign (ids : List String) (className : String) :
    (assign ids className).print.toList =
      "  class ".toList ++ (String.intercalate "," ids).toList ++ " ".toList ++
        className.toList := by
  have hline : (assign ids className).print =
    "  class " ++ String.intercalate "," ids ++ " " ++ className := rfl
  simp only [hline, String.toList_append]

/-- The characters of the line of a remark. -/
theorem toList_print_comment (text : String) :
    (comment text).print.toList = "  %% ".toList ++ text.toList := by
  have hline : (comment text).print = "  %% " ++ text := rfl
  simp only [hline, String.toList_append]

/-! ### Lines without their indentation -/

/-- The line of a node. -/
theorem trim_print_node {id : String} (h : IsName id) (label : String) :
    trim (node id label).print.toList =
      id.toList ++ '[' :: '\x22' :: (label.toList ++ "\"]".toList) := by
  have hprint : (node id label).print.toList =
      "    ".toList ++ (id.toList ++ (("[\"".toList ++ label.toList) ++ "\"]".toList)) := by
    simp only [toList_print_node, List.append_assoc]
  rw [hprint, trim_append _ (by decide),
    trim_between _ h.ne_nil (by decide) h.any_isBlank (by decide)]
  rfl

/-- The line that starts a cluster. -/
theorem trim_print_openCluster (id title : String) :
    trim (openCluster id title).print.toList =
      "subgraph".toList ++ ' ' ::
        (id.toList ++ '[' :: '\x22' :: (title.toList ++ "\"]".toList)) := by
  have hprint : (openCluster id title).print.toList = "  ".toList ++ ("subgraph".toList ++
      ((" ".toList ++ (id.toList ++ ("[\"".toList ++ title.toList))) ++ "\"]".toList)) := by
    simp only [toList_print_openCluster, List.append_assoc]
    rfl
  rw [hprint, trim_append _ (by decide),
    trim_between _ (by decide) (by decide) (by decide) (by decide)]
  simp only [List.append_assoc]
  rfl

/-- The line of an edge. -/
theorem trim_print_edge {source target : String} (hsource : IsName source)
    (htarget : IsName target) (isAsync : Bool) (label : String) :
    trim (edge source isAsync label target).print.toList =
      source.toList ++ ' ' ::
        ((arrow isAsync).toList ++ '|' :: (label.toList ++ '|' :: ' ' :: target.toList)) := by
  have hprint : (edge source isAsync label target).print.toList = "  ".toList ++
      (source.toList ++ ((" ".toList ++ ((arrow isAsync).toList ++ ("|".toList ++
        (label.toList ++ "| ".toList)))) ++ target.toList)) := by
    simp only [toList_print_edge, List.append_assoc]
  rw [hprint, trim_append _ (by decide),
    trim_between _ hsource.ne_nil htarget.ne_nil hsource.any_isBlank htarget.any_isBlank]
  simp only [List.append_assoc]
  rfl

/-- The line of a style class. -/
theorem trim_print_assign {className : String} (h : IsName className) (ids : List String) :
    trim (assign ids className).print.toList =
      "class".toList ++ ' ' ::
        (List.intercalate [','] (ids.map String.toList) ++ ' ' :: className.toList) := by
  have hprint : (assign ids className).print.toList = "  ".toList ++ ("class".toList ++
      ((" ".toList ++ (List.intercalate [','] (ids.map String.toList) ++ " ".toList)) ++
        className.toList)) := by
    simp only [toList_print_assign, String.toList_intercalate, List.append_assoc]
    rfl
  rw [hprint, trim_append _ (by decide),
    trim_between _ (by decide) h.ne_nil (by decide) h.any_isBlank]
  simp only [List.append_assoc]
  rfl

/-! ### Reading what is printed -/

/-- The statements that are **read back**: their ids are names, whatever their labels hold. -/
def Legible : Statement → Prop
  | openCluster id _ => IsName id
  | closeCluster => True
  | node id _ => IsName id
  | edge source _ _ target => IsName source ∧ IsName target
  | assign ids className => ids ≠ [] ∧ (∀ id ∈ ids, IsName id) ∧ IsName className
  | directive _ | style _ | comment _ | space => False

/-- A node is read back. -/
theorem ofLine?_node {id : String} (h : IsName id) (label : String) :
    ofLine? (trim (node id label).print.toList) = some (node id label) := by
  have hopen := readOpenCluster?_bracket h ('\x22' :: (label.toList ++ "\"]".toList))
  have hclose : readCloseCluster? (id.toList ++ '[' :: '\x22' :: (label.toList ++ "\"]".toList)) =
      none := readCloseCluster?_eq_none (c := '[') (by simp) (by decide)
  have hname := h.nameFirst?_append ('\x22' :: (label.toList ++ "\"]".toList))
    (by decide : isWord '[' = false)
  have hlabel : bracketed? ('[' :: '\x22' :: (label.toList ++ "\"]".toList)) = some label.toList :=
    bracketed?_append label.toList
  have hnode : readNode? (id.toList ++ '[' :: '\x22' :: (label.toList ++ "\"]".toList)) =
      some (node id label) := by
    simp only [readNode?, Option.bind_eq_bind, hname, Option.bind_some, hlabel,
      String.ofList_toList, Option.pure_def]
  rw [trim_print_node h, ofLine?, hopen, hclose, hnode]
  rfl

/-- The start of a cluster is read back. -/
theorem ofLine?_openCluster {id : String} (h : IsName id) (title : String) :
    ofLine? (trim (openCluster id title).print.toList) = some (openCluster id title) := by
  have hblank := h.afterBlanks?_space ('[' :: '\x22' :: (title.toList ++ "\"]".toList))
  have hname := h.nameFirst?_append ('\x22' :: (title.toList ++ "\"]".toList))
    (by decide : isWord '[' = false)
  have htitle : bracketed? ('[' :: '\x22' :: (title.toList ++ "\"]".toList)) = some title.toList :=
    bracketed?_append title.toList
  have hopen : readOpenCluster? ("subgraph".toList ++ ' ' ::
      (id.toList ++ '[' :: '\x22' :: (title.toList ++ "\"]".toList))) =
        some (openCluster id title) := by
    simp only [readOpenCluster?, Option.bind_eq_bind, after?_append, Option.bind_some, hblank,
      hname, List.isEmpty_cons, htitle, String.ofList_toList, Option.pure_def]
    rfl
  rw [trim_print_openCluster, ofLine?, hopen]
  rfl

/-- The end of a cluster is read back. -/
theorem ofLine?_closeCluster : ofLine? (trim closeCluster.print.toList) = some closeCluster := by
  decide

/-- The arrow of an edge is read back. -/
theorem readArrow?_append (isAsync : Bool) (rest : List Char) :
    readArrow? ((arrow isAsync).toList ++ '|' :: rest) = some (isAsync, rest) := by
  cases isAsync <;> rfl

/-- An arrow stands behind the blank that separates it. -/
theorem afterBlanks?_arrow (isAsync : Bool) (rest : List Char) :
    afterBlanks? (' ' :: ((arrow isAsync).toList ++ rest)) =
      some ((arrow isAsync).toList ++ rest) := by
  cases isAsync <;> rfl

/-- An edge is read back. -/
theorem ofLine?_edge {source target : String} (hsource : IsName source) (htarget : IsName target)
    (isAsync : Bool) (label : String) :
    ofLine? (trim (edge source isAsync label target).print.toList) =
      some (edge source isAsync label target) := by
  rw [trim_print_edge hsource htarget]
  generalize htail : label.toList ++ '|' :: ' ' :: target.toList = tail
  have hopen : readOpenCluster? (source.toList ++ ' ' :: ((arrow isAsync).toList ++ '|' :: tail)) =
      none := by
    cases isAsync
    · exact readOpenCluster?_arrow hsource _
    · exact readOpenCluster?_arrow hsource _
  have hclose :
      readCloseCluster? (source.toList ++ ' ' :: ((arrow isAsync).toList ++ '|' :: tail)) = none :=
    readCloseCluster?_eq_none (c := ' ') (by simp) (by decide)
  have hnode := readNode?_blank hsource ((arrow isAsync).toList ++ '|' :: tail)
  have hname := hsource.nameFirst?_append ((arrow isAsync).toList ++ '|' :: tail)
    (by decide : isWord ' ' = false)
  -- The last bar of the line stands before the target, whatever the label holds.
  have hlast : splitLast? '|' tail = some (label.toList, ' ' :: target.toList) := by
    rw [← htail]
    refine splitLast?_append fun hmem => ?_
    rcases List.mem_cons.mp hmem with hblank | hbar
    · exact absurd hblank (by decide)
    · exact htarget.notMem (by decide) hbar
  have htarget' : afterBlanks? (' ' :: target.toList) = some target.toList := by
    simpa using htarget.afterBlanks?_space []
  have hword : (target.toList.isEmpty || !target.toList.all isWord) = false := by
    rw [htarget.all_isWord, List.isEmpty_eq_false_iff.mpr htarget.ne_nil]
    rfl
  have hedge : readEdge? (source.toList ++ ' ' :: ((arrow isAsync).toList ++ '|' :: tail)) =
      some (edge source isAsync label target) := by
    simp only [readEdge?, Option.bind_eq_bind, hname, Option.bind_some, afterBlanks?_arrow,
      readArrow?_append, hlast, htarget', hword, String.ofList_toList]
    rfl
  rw [ofLine?, hopen, hclose, hnode, hedge]
  rfl

/-- No arrow stands where a name begins. -/
theorem readArrow?_name {id : String} (h : IsName id) (rest : List Char) :
    readArrow? (id.toList ++ rest) = none := by
  obtain ⟨c, text, hid, hc⟩ := h.exists_cons
  have hdash : ¬('-' == c) = true := by
    rw [beq_iff_eq]
    rintro rfl
    exact absurd hc (by decide)
  have hsolid : after? "-->|".toList (id.toList ++ rest) = none := by
    rw [hid, List.cons_append]
    exact if_neg hdash
  have hdotted : after? "-.->|".toList (id.toList ++ rest) = none := by
    rw [hid, List.cons_append]
    exact if_neg hdash
  rw [readArrow?, hsolid, hdotted]
  rfl

/-- Names with commas between them hold no blank. -/
theorem isBlank_of_mem_intercalate {ids : List String} (hids : ∀ id ∈ ids, IsName id) :
    ∀ c ∈ List.intercalate [','] (ids.map String.toList), isBlank c = false := by
  intro c hc
  rcases mem_intercalate hc with rfl | ⟨piece, hpiece, hc⟩
  · decide
  · obtain ⟨id, hid, rfl⟩ := List.mem_map.mp hpiece
    exact (hids id hid).isBlank_of_mem c hc

/-- Names with commas between them are found again, and none of them is empty. -/
theorem splitOn_names {ids : List String} (hne : ids ≠ []) (hids : ∀ id ∈ ids, IsName id) :
    ((splitOn ',' (List.intercalate [','] (ids.map String.toList))).filter
      fun id => !id.isEmpty).map String.ofList = ids := by
  have hsplit : splitOn ',' (List.intercalate [','] (ids.map String.toList)) =
      ids.map String.toList := by
    have hpieces : ids.map String.toList ≠ [] := fun hnil => hne (List.map_eq_nil_iff.mp hnil)
    refine splitOn_intercalate hpieces fun piece hpiece => ?_
    obtain ⟨id, hid, rfl⟩ := List.mem_map.mp hpiece
    exact (hids id hid).notMem (by decide)
  have hkeep : (ids.map String.toList).filter (fun id => !id.isEmpty) = ids.map String.toList := by
    rw [List.filter_eq_self]
    intro piece hpiece
    obtain ⟨id, hid, rfl⟩ := List.mem_map.mp hpiece
    rw [List.isEmpty_eq_false_iff.mpr (hids id hid).ne_nil]
    rfl
  rw [hsplit, hkeep, List.map_map]
  exact List.map_id'' (fun id => String.ofList_toList) ids

/-- The ids of a style class reach to the first blank behind them. -/
theorem readAssign?_append {ids : List String} {className : String} (hne : ids ≠ [])
    (hids : ∀ id ∈ ids, IsName id) (hclass : IsName className) :
    readAssign? ("class".toList ++ ' ' ::
      (List.intercalate [','] (ids.map String.toList) ++ ' ' :: className.toList)) =
        some (assign ids className) := by
  have hback := splitOn_names hne hids
  have hpos : ∀ c ∈ List.intercalate [','] (ids.map String.toList), (!isBlank c) = true := by
    intro c hc
    rw [isBlank_of_mem_intercalate hids c hc]
    rfl
  obtain ⟨first, others, rfl⟩ := List.exists_cons_of_ne_nil hne
  have hfirst : IsName first := hids first List.mem_cons_self
  obtain ⟨rest, hrest⟩ := prefix_intercalate ',' first.toList (others.map String.toList)
  rw [List.map_cons, ← hrest] at hback hpos ⊢
  generalize hlist : first.toList ++ rest = list at hback hpos ⊢
  have hstart : afterBlanks? (' ' :: (list ++ ' ' :: className.toList)) =
      some (list ++ ' ' :: className.toList) := by
    rw [← hlist, List.append_assoc]
    exact hfirst.afterBlanks?_space _
  have hblank : (!isBlank ' ') = false := by decide
  have htake := takeWhile_append_cons hpos hblank className.toList
  have hdrop := dropWhile_append_cons hpos hblank className.toList
  have hname : afterBlanks? (' ' :: className.toList) = some className.toList := by
    simpa using hclass.afterBlanks?_space []
  have hfull : (list.isEmpty || className.toList.isEmpty || !className.toList.all isWord) =
      false := by
    have hlistne : list ≠ [] := by
      rw [← hlist]
      exact List.append_ne_nil_of_left_ne_nil hfirst.ne_nil rest
    rw [hclass.all_isWord, List.isEmpty_eq_false_iff.mpr hlistne,
      List.isEmpty_eq_false_iff.mpr hclass.ne_nil]
    rfl
  simp only [readAssign?, Option.bind_eq_bind, after?_append, Option.bind_some, hstart, htake,
    hdrop, hname, hfull, hback, String.ofList_toList]
  rfl

/-- The nodes of a style class are read back. -/
theorem ofLine?_assign {ids : List String} {className : String} (hne : ids ≠ [])
    (hids : ∀ id ∈ ids, IsName id) (hclass : IsName className) :
    ofLine? (trim (assign ids className).print.toList) = some (assign ids className) := by
  have hassign := readAssign?_append hne hids hclass
  rw [trim_print_assign hclass]
  obtain ⟨first, others, rfl⟩ := List.exists_cons_of_ne_nil hne
  have hfirst : IsName first := hids first List.mem_cons_self
  obtain ⟨rest, hrest⟩ := prefix_intercalate ',' first.toList (others.map String.toList)
  generalize htail : List.intercalate [','] ((first :: others).map String.toList) ++
    ' ' :: className.toList = tail at hassign ⊢
  have hkeyword : IsName "class" := by decide
  have hopen : readOpenCluster? ("class".toList ++ ' ' :: tail) = none := rfl
  have hclose : readCloseCluster? ("class".toList ++ ' ' :: tail) = none :=
    readCloseCluster?_eq_none (c := ' ') (by simp) (by decide)
  have hnode := readNode?_blank hkeyword tail
  have hedge : readEdge? ("class".toList ++ ' ' :: tail) = none := by
    have hname := hkeyword.nameFirst?_append tail (by decide : isWord ' ' = false)
    have harrow : afterBlanks? (' ' :: tail) = some tail ∧ readArrow? tail = none := by
      rw [← htail, List.map_cons, ← hrest, List.append_assoc]
      exact ⟨hfirst.afterBlanks?_space _, readArrow?_name hfirst _⟩
    simp only [readEdge?, Option.bind_eq_bind, hname, Option.bind_some, harrow.1, harrow.2,
      Option.bind_none]
  rw [ofLine?, hopen, hclose, hnode, hedge, hassign]
  rfl

/-- **What is printed is read back**, if the ids are names. -/
theorem ofLine?_print {s : Statement} (h : s.Legible) :
    ofLine? (trim s.print.toList) = some s := by
  cases s with
  | openCluster id title => exact ofLine?_openCluster h title
  | closeCluster => exact ofLine?_closeCluster
  | node id label => exact ofLine?_node h label
  | edge source isAsync label target => exact ofLine?_edge h.1 h.2 isAsync label
  | assign ids className => exact ofLine?_assign h.1 h.2.1 h.2.2
  | directive _ | style _ | comment _ | space => exact h.elim

/-! ### Lines without breaks -/

/-- A node is printed on one line if its label stands on one. -/
theorem singleLine_print_node {id label : String} (hid : IsName id)
    (hlabel : SingleLine label.toList) : SingleLine (node id label).print.toList := by
  have hindent : SingleLine "    ".toList := by decide
  have hopen : SingleLine "[\"".toList := by decide
  have hclose : SingleLine "\"]".toList := by decide
  rw [toList_print_node]
  exact (((hindent.append hid.singleLine).append hopen).append hlabel).append hclose

/-- An edge is printed on one line if its label stands on one. -/
theorem singleLine_print_edge {source label target : String} {isAsync : Bool}
    (hsource : IsName source) (htarget : IsName target) (hlabel : SingleLine label.toList) :
    SingleLine (edge source isAsync label target).print.toList := by
  have hindent : SingleLine "  ".toList := by decide
  have harrow : SingleLine (" ".toList ++ (arrow isAsync).toList ++ "|".toList) := by
    cases isAsync <;> decide
  have hbar : SingleLine "| ".toList := by decide
  have hends := ((((hindent.append hsource.singleLine).append harrow).append hlabel).append
    hbar).append htarget.singleLine
  simpa only [toList_print_edge, List.append_assoc] using hends

/-- The nodes of a style class are printed on one line. -/
theorem singleLine_print_assign {ids : List String} {className : String}
    (hids : ∀ id ∈ ids, IsName id) (hclass : IsName className) :
    SingleLine (assign ids className).print.toList := by
  have hkeyword : SingleLine "  class ".toList := by decide
  have hlist : SingleLine (String.intercalate "," ids).toList := by
    rw [String.toList_intercalate]
    exact singleLine_of_isBlank (isBlank_of_mem_intercalate hids)
  have hblank : SingleLine " ".toList := by decide
  rw [toList_print_assign]
  exact ((hkeyword.append hlist).append hblank).append hclass.singleLine

end Statement

end SystemSketch.Diagram
