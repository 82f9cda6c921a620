import SystemSketch.Diagram.Markdown
import SystemSketch.Proofs.Diagram.Validity

/-!
# Diagrams in a document

A document loses nothing of its diagram but the blanks at the end of it. These bring in blank lines
and nothing else, and blank lines are passed over: what is in the fence is as valid as the diagram,
and it declares the same on the same lines. A valid diagram does not hold the word that fences
are made of, so the fence is closed where it should be.

## Main results

* `read_trimEnd`, `isValid_trimEnd` — blanks at the end of a diagram do not matter.
* `occurrences_fenced` — the fence of a diagram is the only one.
* `markdown_faithful` — what can be had back from the document of a valid diagram.
-/

namespace SystemSketch.Diagram

open Text

/-! ### Lines that are passed over -/

namespace Reader

/-- A reader reads lines without the blanks at their ends. -/
theorem readLines_congr {ls ls' : List (List Char)} (h : ls.map trim = ls'.map trim) (r : Reader)
    (number : Nat) : r.readLines number ls = r.readLines number ls' := by
  induction ls generalizing ls' r number with
  | nil => rw [List.map_eq_nil_iff.mp h.symm]
  | cons line ls ih =>
    cases ls' with
    | nil => simp at h
    | cons line' ls' =>
      rw [List.map_cons, List.map_cons, List.cons.injEq] at h
      rw [readLines, readLines, read, read, h.1, ih h.2]

/-- Lines in two parts. -/
theorem readLines_append (r : Reader) (number : Nat) (ls more : List (List Char)) :
    r.readLines number (ls ++ more) =
      (r.readLines number ls).readLines (number + ls.length) more := by
  induction ls generalizing r number with
  | nil => rfl
  | cons line ls ih =>
    rw [List.cons_append, readLines, readLines, ih, List.length_cons, Nat.add_right_comm,
      Nat.add_assoc]

/-- **Lines that are passed over** declare nothing. -/
theorem readLines_of_isPassedOver (r : Reader) (number : Nat) {ls : List (List Char)}
    (h : ∀ line ∈ ls, isPassedOver (trim line) = true) : r.readLines number ls = r := by
  induction ls generalizing number with
  | nil => rfl
  | cons line ls ih =>
    obtain ⟨hline, hls⟩ := List.forall_mem_cons.mp h
    rw [readLines, read, readTrimmed, if_pos hline, ih _ hls]

end Reader

/-! ### Blanks at the end of a diagram -/

/-- **Blanks at the end** of a diagram declare nothing. -/
theorem read_trimEnd (diagram : String) :
    read (String.ofList (trimEnd diagram.toList)) = read diagram := by
  obtain ⟨k, hlines⟩ := exists_map_trim_lines diagram.toList
  have hsame : (lines diagram.toList).map trim =
      (lines (trimEnd diagram.toList) ++ List.replicate k []).map trim := by
    rw [hlines, List.map_append, List.map_replicate]
    rfl
  have hpassed : ∀ line ∈ List.replicate k ([] : List Char), isPassedOver (trim line) = true := by
    intro line hline
    rw [List.eq_of_mem_replicate hline]
    rfl
  rw [read, read, String.toList_ofList, Reader.readLines_congr hsame, Reader.readLines_append,
    Reader.readLines_of_isPassedOver _ _ hpassed]

/-- **Blanks at the end** of a diagram do not matter to whether it is valid. -/
theorem isValid_trimEnd (diagram : String) :
    isValid (String.ofList (trimEnd diagram.toList)) = isValid diagram := by
  obtain ⟨k, hlines⟩ := exists_map_trim_lines diagram.toList
  have hsame : ((lines diagram.toList).map trim).filter (fun line => !line.isEmpty) =
      ((lines (trimEnd diagram.toList)).map trim).filter fun line => !line.isEmpty := by
    have hnone : (List.replicate k ([] : List Char)).filter (fun line => !line.isEmpty) = [] := by
      rw [List.filter_replicate]
      rfl
    rw [hlines, List.filter_append, hnone, List.append_nil]
  have hunsafe : isUnsafe (trimEnd diagram.toList) = isUnsafe diagram.toList := by
    rw [Bool.eq_iff_iff, isUnsafe_iff, isUnsafe_iff]
    refine exists_congr fun w => and_congr_right fun hw => ?_
    exact Needle.occursIn_dropEndWhile (fun c hc => foreign_of_isBlank hw hc) _
  rw [isValid, isValid, String.toList_ofList, hsame, hunsafe]

/-- A valid diagram holds no forbidden word. -/
theorem not_isUnsafe_of_isValid {diagram : String} (h : isValid diagram = true) :
    isUnsafe diagram.toList = false := by
  rw [isValid] at h
  split at h
  · cases h
  · simp only [Bool.and_eq_true, Bool.not_eq_true'] at h
    exact h.1.2

/-! ### The fence -/

/-- The characters of a fenced diagram, line by line. -/
theorem toList_fenced (diagram : String) :
    (fenced diagram).toList =
      "```mermaid".toList ++
        '\n' :: (trimEnd diagram.toList ++ '\n' :: ("```".toList ++ ['\n'])) := by
  have hbody : (String.ofList (trimEnd diagram.toList)).toList = trimEnd diagram.toList :=
    String.toList_ofList
  rw [fenced, String.toList_append, String.toList_append, hbody, List.append_assoc]
  rfl

/-- **The fence of a diagram** is the only one in it: the word that fences are made of begins the
first line and the last one. -/
theorem occurrences_fenced {diagram : String} (h : isUnsafe diagram.toList = false) :
    occurrences "```".toList (fenced diagram).toList = 2 := by
  have hinside : occurrences "```".toList (trimEnd diagram.toList) = 0 := by
    rw [occurrences_eq_zero_iff, ← occursIn_iff]
    intro hfence
    have hword : "```".toList <:+: diagram.toList :=
      (occursIn_iff.mp hfence).trans (prefix_dropEndWhile isBlank _).isInfix
    rw [isUnsafe, occursIn_iff.mpr hword] at h
    cases h
  have hopening : occurrences "```".toList "```mermaid".toList = 1 := by decide
  have hclosing : occurrences "```".toList ("```".toList ++ ['\n']) = 1 := by decide
  rw [toList_fenced, occurrences_append_cons (by decide) (by decide),
    occurrences_append_cons (by decide) (by decide), hinside, hopening, hclosing]

/-- **The document of a valid diagram** ends with the document that has no title, and there the word
that fences are made of occurs exactly twice. What stands between the opening line and the closing
one is valid, and it declares what the diagram does, on the same lines. -/
theorem markdown_faithful {diagram : String} (h : isValid diagram = true) (title? : Option String) :
    (∃ heading, markdown diagram title? = heading ++ markdown diagram none) ∧
    occurrences "```".toList (markdown diagram none).toList = 2 ∧
    ∃ content, markdown diagram none = "```mermaid\n" ++ content ++ "\n```\n" ∧
      isValid content = true ∧ read content = read diagram := by
  refine ⟨?_, occurrences_fenced (not_isUnsafe_of_isValid h), ?_⟩
  · cases title? with
    | none => exact ⟨"", by rw [String.empty_append]⟩
    | some title => exact ⟨"# " ++ title ++ "\n\n", rfl⟩
  · exact ⟨String.ofList (trimEnd diagram.toList), rfl, (isValid_trimEnd diagram).trans h,
      read_trimEnd diagram⟩

/-- A diagram with backticks, line breaks and other blanks at its end. -/
def ragged : String :=
  "flowchart LR\r\n\n  A[\"a\"]\u2028A -->|to| A\x0b\n``\x1f\u0085\r"

/-- The document of the ragged diagram has two fences, and the edge between them is on the same line
as before. -/
theorem markdown_faithful_ragged :
    isValid ragged = true ∧ occurrences "```".toList (markdown ragged none).toList = 2 ∧
      ∃ content, markdown ragged none = "```mermaid\n" ++ content ++ "\n```\n" ∧
        isValid content = true ∧ (read content).edges = [⟨"A", "A", "to", false, 3⟩] := by
  have hvalid : isValid ragged = true := by decide +kernel
  have hedges : (read ragged).edges = [⟨"A", "A", "to", false, 3⟩] := by decide +kernel
  obtain ⟨-, hcount, content, hdocument, hcontent, hread⟩ := markdown_faithful hvalid none
  exact ⟨hvalid, hcount, content, hdocument, hcontent, by rw [hread, hedges]⟩

end SystemSketch.Diagram
