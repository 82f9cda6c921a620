import SystemSketch.Diagram.Validity
import SystemSketch.Proofs.Diagram.Render

/-!
# When a drawing is valid

A text is checked as a whole: its first line, the words that stand anywhere in it, and how many of
its lines begin and end a cluster. None of this depends on the ids of a drawing. An id holds no
character that a forbidden word begins with, and no line of a node, an edge or a style class looks
like the start or the end of a cluster, since no id is the keyword `subgraph`. So a drawing is valid
exactly if no label that it shows is harmful, and the interactions that it does not show have no
part in it.

## Main definitions

* `fence`, `script` — the words that no drawing may hold.
* `IsHarmful` — the labels that hold such a word.
* `Inert` — text in which no forbidden word begins.
* `Balanced` — statements that end as many clusters as they start.

## Main results

* `isUnsafe_iff` — the words that are searched for.
* `occursIn_render_iff` — a forbidden word stands in a drawing exactly if it stands in a label.
* `Drawn.cluster_print`, `balanced_body` — the lines that begin and end a cluster, and that they are
  equally many.
* `isValid_render_iff` — the drawings that are valid.
-/

namespace SystemSketch

open Text

namespace Diagram

/-! ### Forbidden words -/

/-- Only the angle bracket counts as the angle bracket when case is ignored. -/
theorem eq_of_foldCase_eq {c : Char} (h : foldCase c = '<') : c = '<' := by
  rcases foldCase_cases c with hsame | ⟨hletter, -⟩
  · rw [← hsame, h]
  · rw [h] at hletter
    exact absurd hletter (by decide)

/-- The fence of a document. -/
def fence : Needle where
  fold := id
  first := '\x60'
  rest := "\x60\x60".toList
  eq_first := id

/-- The start of a script, in any case. -/
def script : Needle where
  fold := foldCase
  first := '<'
  rest := "script".toList
  eq_first := eq_of_foldCase_eq

/-- The words that no drawing may hold. -/
def forbidden : List Needle :=
  [fence, script]

/-- **The words that are searched for** are the forbidden ones. -/
theorem isUnsafe_iff {text : List Char} :
    isUnsafe text = true ↔ ∃ w ∈ forbidden, w.OccursIn text := by
  have hfence : "```".toList <:+: text ↔ fence.OccursIn text := by
    rw [Needle.OccursIn, fence, List.map_id]
    rfl
  rw [isUnsafe, Bool.or_eq_true, occursIn_iff, occursIn_iff, hfence, forbidden,
    List.exists_mem_cons_iff, List.exists_mem_cons_iff]
  simp [Needle.OccursIn, Needle.letters, script]

/-- A label is **harmful** if it holds the fence of a document, or the start of a script in any
case. -/
def IsHarmful (label : String) : Prop :=
  "```".toList <:+: label.toList ∨ "<script".toList <:+: label.toList.map foldCase

instance (label : String) : Decidable (IsHarmful label) :=
  inferInstanceAs (Decidable (_ ∨ _))

/-- A harmful label holds a forbidden word. -/
theorem isHarmful_iff {label : String} :
    IsHarmful label ↔ ∃ w ∈ forbidden, w.OccursIn label.toList := by
  rw [← isUnsafe_iff, isUnsafe, Bool.or_eq_true, occursIn_iff, occursIn_iff, IsHarmful]

section

variable {w : Needle}

/-- A blank counts as no letter of a forbidden word. -/
theorem foreign_of_isBlank (hw : w ∈ forbidden) {c : Char} (hc : isBlank c = true) :
    w.Foreign c := by
  have hsame : w.fold c = c := by
    rcases List.mem_pair.mp hw with rfl | rfl
    · rfl
    · refine (foldCase_cases c).resolve_right fun ⟨_, hblank⟩ => ?_
      rw [hc] at hblank
      exact Bool.noConfusion hblank
  have hletters : ∀ w ∈ forbidden, w.letters.any isBlank = false := by decide
  rw [Needle.Foreign, hsame]
  intro hletter
  exact List.any_eq_false.mp (hletters w hw) c hletter hc

/-- The mark around the label of a node is foreign to the forbidden words. -/
theorem foreign_quote : ∀ w ∈ forbidden, w.Foreign '\x22' := by
  decide

/-- The mark around the label of an edge is foreign to the forbidden words. -/
theorem foreign_bar : ∀ w ∈ forbidden, w.Foreign '|' := by
  decide

/-- The beginning of an entity code is foreign to the forbidden words. -/
theorem foreign_hash : ∀ w ∈ forbidden, w.Foreign '#' := by
  decide

/-- A forbidden word stands in the label of a node exactly if it stands in its text. -/
theorem occursIn_escapeLabel (hw : w ∈ forbidden) (text : String) :
    w.OccursIn (escapeLabel text).toList ↔ w.OccursIn text.toList := by
  have hcode : ∀ w ∈ forbidden, w.first ∉ "quot;".toList := by decide
  rw [escapeLabel, String.toList_ofList]
  exact occursIn_encodeChar (foreign_quote w hw) (foreign_hash w hw) (hcode w hw) text.toList

/-- A forbidden word stands in the label of an edge exactly if it stands in its text. -/
theorem occursIn_escapeEdgeLabel (hw : w ∈ forbidden) (text : String) :
    w.OccursIn (escapeEdgeLabel text).toList ↔ w.OccursIn text.toList := by
  have hquote : ∀ w ∈ forbidden, w.first ∉ "quot;".toList := by decide
  have hbar : ∀ w ∈ forbidden, w.first ∉ "124;".toList := by decide
  have hblank : ∀ c, isBlank c = true → w.Foreign c := fun c hc => foreign_of_isBlank hw hc
  calc w.OccursIn (escapeEdgeLabel text).toList
      ↔ w.OccursIn (encodeChar '\x22' quoteCode (singleSpaced text.toList)) := by
        rw [escapeEdgeLabel, String.toList_ofList]
        exact occursIn_encodeChar (foreign_bar w hw) (foreign_hash w hw) (hbar w hw) _
    _ ↔ w.OccursIn (singleSpaced text.toList) :=
        occursIn_encodeChar (foreign_quote w hw) (foreign_hash w hw) (hquote w hw) _
    _ ↔ w.OccursIn (collapse isBlank ' ' text.toList) := Needle.occursIn_trim hblank _
    _ ↔ w.OccursIn text.toList :=
        Needle.occursIn_collapse hblank (hblank ' ' (by decide)) _

end

/-! ### Text in which no forbidden word begins -/

/-- A text is **inert** if no forbidden word begins in it. -/
def Inert (text : List Char) : Prop :=
  ∀ w ∈ forbidden, w.first ∉ text

instance (text : List Char) : Decidable (Inert text) :=
  inferInstanceAs (Decidable (∀ w ∈ forbidden, w.first ∉ text))

namespace Inert

variable {text rest : List Char}

/-- Inert texts are inert when they are put together. -/
theorem append (h : Inert text) (hrest : Inert rest) : Inert (text ++ rest) :=
  fun w hw hmem => (List.mem_append.mp hmem).elim (h w hw) (hrest w hw)

/-- No forbidden word stands in an inert text. -/
theorem not_occursIn (h : Inert text) {w : Needle} (hw : w ∈ forbidden) : ¬w.OccursIn text :=
  Needle.not_occursIn_of_notMem (h w hw)

end Inert

/-- Names are inert. -/
theorem IsName.inert {id : String} (h : IsName id) : Inert id.toList := by
  have hfirst : ∀ w ∈ forbidden, isPlainWord w.first = false := by decide
  exact fun w hw => h.notMem (hfirst w hw)

namespace Statement

variable {w : Needle}

/-- A forbidden word stands in the line of a node exactly if it stands in the label. -/
theorem occursIn_print_node (hw : w ∈ forbidden) {id : String} (hid : IsName id)
    (label : String) : w.OccursIn (node id label).print.toList ↔ w.OccursIn label.toList := by
  have hprint : (node id label).print.toList =
      ("    ".toList ++ (id.toList ++ ['['])) ++ '\x22' :: (label.toList ++ '\x22' :: [']']) := by
    simp only [toList_print_node, List.append_assoc]
    rfl
  have hfront : Inert ("    ".toList ++ (id.toList ++ ['['])) :=
    Inert.append (by decide) (hid.inert.append (by decide))
  have hback : Inert [']'] := by decide
  have hquote := foreign_quote w hw
  rw [hprint, Needle.occursIn_append_cons_iff hquote, Needle.occursIn_append_cons_iff hquote,
    or_iff_right (hfront.not_occursIn hw), or_iff_left (hback.not_occursIn hw)]

/-- A forbidden word stands in the line of an edge exactly if it stands in the label. -/
theorem occursIn_print_edge (hw : w ∈ forbidden) {source target : String}
    (hsource : IsName source) (htarget : IsName target) (isAsync : Bool) (label : String) :
    w.OccursIn (edge source isAsync label target).print.toList ↔ w.OccursIn label.toList := by
  have hprint : (edge source isAsync label target).print.toList =
      ("  ".toList ++ (source.toList ++ (" ".toList ++ (arrow isAsync).toList))) ++
        '|' :: (label.toList ++ '|' :: (" ".toList ++ target.toList)) := by
    simp only [toList_print_edge, List.append_assoc]
    rfl
  have harrow : Inert (" ".toList ++ (arrow isAsync).toList) := by
    cases isAsync <;> decide
  have hfront : Inert ("  ".toList ++ (source.toList ++ (" ".toList ++ (arrow isAsync).toList))) :=
    Inert.append (by decide) (hsource.inert.append harrow)
  have hback : Inert (" ".toList ++ target.toList) := Inert.append (by decide) htarget.inert
  have hbar := foreign_bar w hw
  rw [hprint, Needle.occursIn_append_cons_iff hbar, Needle.occursIn_append_cons_iff hbar,
    or_iff_right (hfront.not_occursIn hw), or_iff_left (hback.not_occursIn hw)]

/-- The line of a style class is inert. -/
theorem inert_print_assign {ids : List String} {className : String} (hids : ∀ id ∈ ids, IsName id)
    (hclass : IsName className) : Inert (assign ids className).print.toList := by
  have hcomma : Inert [','] := by decide
  have hlist : Inert (String.intercalate "," ids).toList := by
    intro w hw hmem
    rw [String.toList_intercalate] at hmem
    rcases mem_intercalate hmem with hmark | ⟨piece, hpiece, hfirst⟩
    · exact hcomma w hw (List.mem_singleton.mpr hmark)
    · obtain ⟨id, hid, rfl⟩ := List.mem_map.mp hpiece
      exact (hids id hid).inert w hw hfirst
  have hkeyword : Inert "  class ".toList := by decide
  have hblank : Inert " ".toList := by decide
  rw [toList_print_assign]
  exact ((hkeyword.append hlist).append hblank).append hclass.inert

/-- The look of a style class is inert. -/
theorem inert_style : ∀ d ∈ styleDefinitions, Inert (style d).print.toList := by
  decide +kernel

end Statement

/-! ### Forbidden words in a drawing -/

section

variable {m : Model} {w : Needle}

/-- The line of a statement without a label is inert. -/
theorem Drawn.inert {s : Statement} (h : Drawn m s) (hnode : s.nodeEntry? = none)
    (hedge : s.edgeEntry? = none) : Inert s.print.toList := by
  cases h with
  | openCluster cluster => cases cluster <;> decide
  | closeCluster => decide
  | node c hc => exact absurd hnode (Option.some_ne_none _)
  | edge source isAsync label target hlabel => exact absurd hedge (Option.some_ne_none _)
  | assign cluster hne =>
    refine Statement.inert_print_assign (fun id hid => ?_) (isName_styleClass cluster)
    obtain ⟨c, -, rfl⟩ := List.mem_map.mp hid
    exact isName_idOf m c.id
  | style definition hd => exact Statement.inert_style definition hd
  | remark text h =>
    exact (by decide : ∀ t ∈ ["Interactions", "Styles"],
      Inert (Statement.comment t).print.toList) text h
  | space => decide

/-- **A forbidden word stands in a line** exactly if it stands in the label of the statement. -/
theorem Drawn.occursIn_print_iff {s : Statement} (h : Drawn m s) (hw : w ∈ forbidden) :
    w.OccursIn s.print.toList ↔
      (∃ entry ∈ s.nodeEntry?, w.OccursIn entry.2.toList) ∨
        ∃ entry ∈ s.edgeEntry?, w.OccursIn entry.2.2.1.toList := by
  have hsilent : s.nodeEntry? = none → s.edgeEntry? = none → ¬w.OccursIn s.print.toList :=
    fun hnode hedge => (h.inert hnode hedge).not_occursIn hw
  cases h with
  | node c hc =>
    simpa [Statement.nodeEntry?, Statement.edgeEntry?, nodeOf] using
      Statement.occursIn_print_node hw (isName_idOf m c.id) (escapeLabel c.label)
  | edge source isAsync label target hlabel =>
    simpa [Statement.nodeEntry?, Statement.edgeEntry?] using
      Statement.occursIn_print_edge hw (isName_idOf m source) (isName_idOf m target) isAsync label
  | openCluster _ | closeCluster | assign _ _ | style _ _ | remark _ _ | space =>
    refine iff_of_false (hsilent rfl rfl) ?_
    rintro (⟨entry, hentry, -⟩ | ⟨entry, hentry, -⟩) <;> cases hentry

/-- Something is read of one of several statements exactly if it is among what is read of all. -/
theorem exists_mem_filterMap_iff {β : Type} {f : Statement → Option β} {ss : List Statement}
    {p : β → Prop} : (∃ entry ∈ ss.filterMap f, p entry) ↔ ∃ s ∈ ss, ∃ entry ∈ f s, p entry := by
  constructor
  · rintro ⟨entry, hentry, hp⟩
    obtain ⟨s, hs, hentry⟩ := List.mem_filterMap.mp hentry
    exact ⟨s, hs, entry, hentry, hp⟩
  · rintro ⟨s, hs, entry, hentry, hp⟩
    exact ⟨entry, List.mem_filterMap.mpr ⟨s, hs, hentry⟩, hp⟩

/-- The nodes of a drawing show the labels of the components. -/
theorem exists_nodeEntry_iff (hw : w ∈ forbidden) :
    (∃ entry ∈ (body m).filterMap Statement.nodeEntry?, w.OccursIn entry.2.toList) ↔
      ∃ c ∈ m.components.toList, w.OccursIn c.label.toList := by
  simp only [List.mem_map, filterMap_nodeEntry?, exists_exists_and_eq_and,
    (clustered_perm m).mem_iff, occursIn_escapeLabel hw]

/-- The edges of a drawing show the labels of the interactions between components, and the harmless
label of the arrows from the user. -/
theorem exists_edgeEntry_iff (hw : w ∈ forbidden) :
    (∃ entry ∈ (body m).filterMap Statement.edgeEntry?, w.OccursIn entry.2.2.1.toList) ↔
      ∃ i ∈ m.renderable, w.OccursIn i.label.toList := by
  have hnavigation : Inert navigationLabel.toList := by decide
  have hentries := filterMap_edgeEntry? (m := m)
  rw [hentries]
  constructor
  · rintro ⟨entry, hentry, hword⟩
    rcases List.mem_append.mp hentry with hlog | huser
    · obtain ⟨i, hi, rfl⟩ := List.mem_map.mp hlog
      exact ⟨i, hi, (occursIn_escapeEdgeLabel hw i.label).mp hword⟩
    · split at huser
      · obtain ⟨page, -, rfl⟩ := List.mem_map.mp huser
        exact absurd hword (hnavigation.not_occursIn hw)
      · exact absurd huser List.not_mem_nil
  · rintro ⟨i, hi, hword⟩
    exact ⟨_, List.mem_append_left _ (List.mem_map_of_mem hi),
      (occursIn_escapeEdgeLabel hw i.label).mpr hword⟩

/-- **A forbidden word stands in a drawing** exactly if it stands in the label of a component, or in
that of an interaction between components. -/
theorem occursIn_render_iff (hw : w ∈ forbidden) :
    w.OccursIn (render m).toList ↔
      (∃ c ∈ m.components.toList, w.OccursIn c.label.toList) ∨
        ∃ i ∈ m.renderable, w.OccursIn i.label.toList := by
  have hfeed : w.Foreign '\n' := foreign_of_isBlank hw (by decide)
  have hdirective : Inert directive.toList := by decide
  calc w.OccursIn (render m).toList
      ↔ ∃ s ∈ body m, w.OccursIn s.print.toList := by
        rw [render, String.toList_ofList, Needle.occursIn_unlines hfeed, statements_eq,
          List.map_cons, List.exists_mem_cons_iff, Statement.print,
          or_iff_right (hdirective.not_occursIn hw)]
        simp only [List.mem_map, exists_exists_and_eq_and]
    _ ↔ ∃ s ∈ body m, (∃ entry ∈ s.nodeEntry?, w.OccursIn entry.2.toList) ∨
          ∃ entry ∈ s.edgeEntry?, w.OccursIn entry.2.2.1.toList :=
        exists_congr fun s => and_congr_right fun hs =>
          (drawn_of_mem_body hs).occursIn_print_iff hw
    _ ↔ (∃ entry ∈ (body m).filterMap Statement.nodeEntry?, w.OccursIn entry.2.toList) ∨
          ∃ entry ∈ (body m).filterMap Statement.edgeEntry?, w.OccursIn entry.2.2.1.toList := by
        simp only [exists_mem_filterMap_iff, and_or_left, exists_or]
    _ ↔ _ := or_congr (exists_nodeEntry_iff hw) (exists_edgeEntry_iff hw)

/-- **A drawing is unsafe** exactly if a label that it shows is harmful. -/
theorem isUnsafe_render_iff :
    isUnsafe (render m).toList = true ↔
      (∃ c ∈ m.components.toList, IsHarmful c.label) ∨ ∃ i ∈ m.renderable, IsHarmful i.label := by
  rw [isUnsafe_iff]
  constructor
  · rintro ⟨w, hw, hword⟩
    rcases (occursIn_render_iff hw).mp hword with ⟨c, hc, hlabel⟩ | ⟨i, hi, hlabel⟩
    · exact Or.inl ⟨c, hc, isHarmful_iff.mpr ⟨w, hw, hlabel⟩⟩
    · exact Or.inr ⟨i, hi, isHarmful_iff.mpr ⟨w, hw, hlabel⟩⟩
  · rintro (⟨c, hc, hharm⟩ | ⟨i, hi, hharm⟩)
    · obtain ⟨w, hw, hlabel⟩ := isHarmful_iff.mp hharm
      exact ⟨w, hw, (occursIn_render_iff hw).mpr (Or.inl ⟨c, hc, hlabel⟩)⟩
    · obtain ⟨w, hw, hlabel⟩ := isHarmful_iff.mp hharm
      exact ⟨w, hw, (occursIn_render_iff hw).mpr (Or.inr ⟨i, hi, hlabel⟩)⟩

end

/-! ### Clusters that are begun and ended -/

namespace Statement

/-- Whether a statement starts a cluster. -/
def isOpening : Statement → Bool
  | openCluster _ _ => true
  | _ => false

/-- Whether a statement ends a cluster. -/
def isClosing : Statement → Bool
  | closeCluster => true
  | _ => false

/-- The look of a style class neither begins nor ends a cluster. -/
theorem cluster_style : ∀ d ∈ styleDefinitions,
    opensCluster (trim (style d).print.toList) = false ∧
      closesCluster (trim (style d).print.toList) = false := by
  decide +kernel

end Statement

/-- A line that begins with a name begins a cluster only if the name is `subgraph` with a space
behind it. -/
theorem opensCluster_eq_false {id : String} (h : IsName id) {c : Char} (rest : List Char)
    (hc : isWord c = false) (hkeyword : id = "subgraph" → c ≠ ' ') :
    opensCluster (id.toList ++ c :: rest) = false := by
  rw [opensCluster, Bool.eq_false_iff, Ne, isSome_after?_iff]
  rintro ⟨tail, htail⟩
  have hsubgraph : IsName "subgraph" := by decide
  have hword : Statement.nameFirst? (id.toList ++ c :: rest) =
      some ("subgraph".toList, ' ' :: tail) := by
    rw [← htail]
    exact hsubgraph.nameFirst?_append tail (by decide)
  rw [h.nameFirst?_append rest hc, Option.some.injEq, Prod.mk.injEq, List.cons.injEq,
    String.toList_inj] at hword
  exact hkeyword hword.1 hword.2.1

/-- A line that holds a character of no keyword does not end a cluster. -/
theorem closesCluster_eq_false {line : List Char} {c : Char} (hc : c ∈ line)
    (hend : c ∉ "end".toList) : closesCluster line = false := by
  rw [closesCluster, beq_eq_false_iff_ne]
  rintro rfl
  exact hend hc

section

variable {m : Model}

/-- **The lines that begin and end a cluster** are those of the statements that do. -/
theorem Drawn.cluster_print {s : Statement} (h : Drawn m s) :
    opensCluster (trim s.print.toList) = s.isOpening ∧
      closesCluster (trim s.print.toList) = s.isClosing := by
  cases h with
  | openCluster cluster => cases cluster <;> decide
  | closeCluster => decide
  | node c hc =>
    rw [nodeOf, Statement.trim_print_node (isName_idOf m c.id)]
    constructor
    · exact opensCluster_eq_false (isName_idOf m c.id) _ (by decide) fun _ => by decide
    · exact closesCluster_eq_false (c := '[') (by simp) (by decide)
  | edge source isAsync label target hlabel =>
    rw [Statement.trim_print_edge (isName_idOf m source) (isName_idOf m target)]
    constructor
    · refine opensCluster_eq_false (isName_idOf m source) _ (by decide) fun hid => ?_
      have hkeyword := isKeyword_idOf m source
      rw [hid] at hkeyword
      exact absurd hkeyword (by decide)
    · exact closesCluster_eq_false (c := ' ') (by simp) (by decide)
  | assign cluster hne =>
    have hclass : IsName "class" := by decide
    rw [Statement.trim_print_assign (isName_styleClass cluster)]
    constructor
    · exact opensCluster_eq_false hclass _ (by decide) (by decide)
    · exact closesCluster_eq_false (c := ' ') (by simp) (by decide)
  | style definition hd => exact Statement.cluster_style definition hd
  | remark text h =>
    exact (by decide : ∀ t ∈ ["Interactions", "Styles"],
      opensCluster (trim (Statement.comment t).print.toList) = false ∧
        closesCluster (trim (Statement.comment t).print.toList) = false) text h
  | space => decide

/-! ### Balanced drawings -/

/-- Statements are **balanced** if they end as many clusters as they start. -/
def Balanced (ss : List Statement) : Prop :=
  ss.countP Statement.isOpening = ss.countP Statement.isClosing

/-- Balanced statements are balanced when they follow each other. -/
theorem Balanced.append {ss ts : List Statement} (hs : Balanced ss) (ht : Balanced ts) :
    Balanced (ss ++ ts) := by
  rw [Balanced, List.countP_append, List.countP_append, hs, ht]

/-- Statements that start and end nothing are balanced. -/
theorem balanced_of_forall {ss : List Statement}
    (h : ∀ s ∈ ss, s.isOpening = false ∧ s.isClosing = false) : Balanced ss := by
  have hopening : ss.countP Statement.isOpening = 0 :=
    List.countP_eq_zero.mpr fun s hs => Bool.eq_false_iff.mp (h s hs).1
  have hclosing : ss.countP Statement.isClosing = 0 :=
    List.countP_eq_zero.mpr fun s hs => Bool.eq_false_iff.mp (h s hs).2
  rw [Balanced, hopening, hclosing]

/-- A block ends the cluster that it starts. -/
theorem balanced_block (cluster : Cluster) : Balanced (block (nodeIds m) m cluster) := by
  have hmembers : ∀ members : List Component, Balanced (members.map (nodeOf (nodeIds m))) := by
    refine fun members => balanced_of_forall fun s hs => ?_
    obtain ⟨c, -, rfl⟩ := List.mem_map.mp hs
    exact ⟨rfl, rfl⟩
  rw [block]
  split
  · rfl
  · rw [Balanced, List.countP_cons, List.countP_cons, List.countP_append, List.countP_append,
      hmembers]
    rfl

/-- **A drawing ends as many clusters as it starts.** -/
theorem balanced_body : Balanced (body m) := by
  have hblocks : ∀ clusters : List Cluster,
      Balanced (clusters.flatMap (block (nodeIds m) m)) := by
    intro clusters
    induction clusters with
    | nil => rfl
    | cons cluster rest ih =>
      rw [List.flatMap_cons]
      exact (balanced_block cluster).append ih
  refine (hblocks Cluster.all).append (balanced_of_forall fun s hs => ?_)
  simp only [List.mem_append, List.mem_cons, List.not_mem_nil, or_false] at hs
  rcases hs with (rfl | rfl) | harrow | (rfl | rfl) | hstyle | rfl | hstyling
  · exact ⟨rfl, rfl⟩
  · exact ⟨rfl, rfl⟩
  · obtain ⟨source, isAsync, label, target, -, rfl⟩ := mem_arrows harrow
    exact ⟨rfl, rfl⟩
  · exact ⟨rfl, rfl⟩
  · exact ⟨rfl, rfl⟩
  · obtain ⟨definition, -, rfl⟩ := List.mem_map.mp hstyle
    exact ⟨rfl, rfl⟩
  · exact ⟨rfl, rfl⟩
  · obtain ⟨cluster, -, rfl⟩ := mem_stylings hstyling
    exact ⟨rfl, rfl⟩

/-! ### Valid drawings -/

/-- What holds of no empty line holds of as many printed lines, empty ones left out, as there are
statements that make it hold. -/
theorem countP_printed {ss : List Statement} {p : List Char → Bool} {q : Statement → Bool}
    (hnil : p [] = false) (hp : ∀ s ∈ ss, p (trim s.print.toList) = q s) :
    ((ss.map fun s => trim s.print.toList).filter fun line => !line.isEmpty).countP p =
      ss.countP q := by
  rw [List.countP_filter, List.countP_map]
  refine List.countP_congr fun s hs => ?_
  rw [Function.comp_apply, ← hp s hs, Bool.and_eq_true, Bool.not_eq_true', and_iff_left_iff_imp,
    List.isEmpty_eq_false_iff]
  intro hline hempty
  rw [hempty, hnil] at hline
  exact Bool.noConfusion hline

/-- The lines of a drawing that are not empty: the directive and what the statements print. -/
theorem filter_lines_render (h : m.SingleLine) :
    ((lines (render m).toList).map trim).filter (fun line => !line.isEmpty) =
      directive.toList ::
        ((body m).map fun s => trim s.print.toList).filter fun line => !line.isEmpty := by
  rw [lines_render_of_singleLine h, statements_eq, List.map_map, List.map_cons,
    List.filter_cons_of_pos (by decide)]
  rfl

/-- **A drawing is valid** exactly if no forbidden word stands in it, if the label of every
component stands on one line. -/
theorem isValid_render (h : m.SingleLine) : isValid (render m) = !isUnsafe (render m).toList := by
  have hopen := countP_printed (p := opensCluster) (by decide) fun s hs =>
    (drawn_of_mem_body (m := m) hs).cluster_print.1
  have hclose := countP_printed (p := closesCluster) (by decide) fun s hs =>
    (drawn_of_mem_body (m := m) hs).cluster_print.2
  have hdirective : isDirective directive.toList = true := by decide
  have hbalanced := balanced_body (m := m)
  rw [isValid, filter_lines_render h]
  dsimp only
  rw [List.countP_cons_of_neg (by decide), List.countP_cons_of_neg (by decide), hopen, hclose,
    hdirective, hbalanced, Bool.true_and, beq_self_eq_true, Bool.and_true]

/-- **A drawing is valid** exactly if none of the labels that it shows is harmful, if the label of
every component stands on one line. -/
theorem isValid_render_iff_labels (h : m.SingleLine) :
    isValid (render m) = true ↔
      (∀ label ∈ m.components.toList.map Component.label, ¬IsHarmful label) ∧
        ∀ label ∈ m.renderable.map Interaction.label, ¬IsHarmful label := by
  rw [isValid_render h, Bool.not_eq_true', Bool.eq_false_iff, Ne, isUnsafe_render_iff, not_or]
  simp only [List.forall_mem_map, not_exists, not_and]

end

/-- An interaction that is appended is drawn if both its ends are components. -/
theorem renderable_append (m : Model) (i : Interaction) :
    (m.append i).renderable = m.renderable ++ if m.draws i then [i] else [] := by
  change (m.interactions ++ [i]).filter m.draws = _
  rw [List.filter_append, List.filter_singleton, Bool.cond_eq_ite, Model.renderable]

/-- **Only labels decide.** The drawing of a model whose components have labels on one line is valid
exactly if no label of a component and no label of an interaction between components is harmful.
Two models that show the same labels are valid or not together, whatever their ids and their other
interactions are, and an interaction that is not drawn changes nothing. -/
theorem isValid_render_iff (m : Model) (h : m.SingleLine) :
    (isValid (render m) = true ↔
      (∀ c ∈ m.components.toList, ¬IsHarmful c.label) ∧
        ∀ i ∈ m.renderable, ¬IsHarmful i.label) ∧
    (∀ m' : Model, m'.SingleLine →
      (∀ label, label ∈ m'.components.toList.map Component.label ↔
        label ∈ m.components.toList.map Component.label) →
      (∀ label, label ∈ m'.renderable.map Interaction.label ↔
        label ∈ m.renderable.map Interaction.label) →
      isValid (render m') = isValid (render m)) ∧
    ∀ i : Interaction, m.draws i = false →
      isValid (render (m.append i)) = isValid (render m) := by
  have hcongr : ∀ m' : Model, m'.SingleLine →
      (∀ label, label ∈ m'.components.toList.map Component.label ↔
        label ∈ m.components.toList.map Component.label) →
      (∀ label, label ∈ m'.renderable.map Interaction.label ↔
        label ∈ m.renderable.map Interaction.label) →
      isValid (render m') = isValid (render m) := by
    intro m' hm' hcomponents hinteractions
    rw [Bool.eq_iff_iff, isValid_render_iff_labels hm', isValid_render_iff_labels h]
    simp only [hcomponents, hinteractions]
  refine ⟨?_, hcongr, fun i hi => ?_⟩
  · rw [isValid_render_iff_labels h, List.forall_mem_map, List.forall_mem_map]
  · refine hcongr (m.append i) h (fun label => Iff.rfl) fun label => ?_
    rw [renderable_append, hi, if_neg Bool.false_ne_true, List.append_nil]

/-- A model with identifiers that are keywords, the id of a block, empty or not ASCII, whose only
harmful label stands on an arrow to nowhere. -/
def awkward : Model :=
  (((((Model.empty.upsert { id := "subgraph", kind := .service, label := "subgraph x" }).upsert
    { id := "End", kind := .controller, label := "end" }).upsert
    { id := "", kind := .clientPage, label := "< script" }).upsert
    { id := "cluster_user", kind := .gateway, label := "``\"`" }).append
    { source := "subgraph", target := "", label := "<scr|ipt" }).append
    { source := "End", target := "été", label := "```<script>" }

/-- The drawing of `awkward` is valid, and not valid any more when a harmful arrow is drawn. -/
theorem isValid_render_iff_awkward :
    awkward.SingleLine ∧ isValid (render awkward) = true ∧
    isValid (render (awkward.append { source := "", target := "End", label := "<ſCRıPT>" })) =
      false := by
  have hline : awkward.SingleLine := by decide
  refine ⟨hline, (isValid_render_iff awkward hline).1.mpr (by decide), ?_⟩
  rw [Bool.eq_false_iff]
  intro hvalid
  have hharmless := ((isValid_render_iff (awkward.append _) hline).1.mp hvalid).2
  exact hharmless { source := "", target := "End", label := "<ſCRıPT>" } (by decide) (by decide)

end Diagram

end SystemSketch
