import SystemSketch.Diagram.Label
import SystemSketch.Proofs.Text.Occurrence

/-!
# Laws of labels

Writing a text as a label brings in no line break: entity codes hold none, and the label of an
edge has lost the breaks of its text with all other blanks. The label of a node keeps them. A word
that has nothing to do with the codes stands in a label exactly if it stands in its text.

## Main results

* `mem_encodeChar`, `mem_singleSpaced` — the characters of what is written.
* `quote_notMem_escapeLabel` — the label of a node cannot end early.
* `singleLine_escapeLabel_iff`, `singleLine_escapeEdgeLabel` — when a label stands on one line.
* `occursIn_encodeChar` — an entity code neither brings a word in nor takes one out.
-/

namespace SystemSketch.Diagram

open Text

/-- What is written with entity codes is part of a code or of the text. -/
theorem mem_encodeChar {c d : Char} {code text : List Char} (h : c ∈ encodeChar d code text) :
    c ∈ code ∨ c ∈ text := by
  obtain ⟨e, he, hc⟩ := List.mem_flatMap.mp h
  split at hc
  · exact Or.inl hc
  · rw [List.mem_singleton] at hc
    exact Or.inr (hc ▸ he)

/-- An entity code takes the place of its character, unless it holds it. -/
theorem notMem_encodeChar {d : Char} {code text : List Char} (h : d ∉ code) :
    d ∉ encodeChar d code text := by
  intro hmem
  obtain ⟨e, -, hd⟩ := List.mem_flatMap.mp hmem
  split at hd
  · exact h hd
  · next hne => exact hne (beq_iff_eq.mpr (List.mem_singleton.mp hd).symm)

/-- What needs no entity code is still there. -/
theorem mem_encodeChar_of_ne {c d : Char} {code text : List Char} (h : c ∈ text) (hne : c ≠ d) :
    c ∈ encodeChar d code text := by
  refine List.mem_flatMap.mpr ⟨c, h, ?_⟩
  rw [if_neg (mt beq_iff_eq.mp hne)]
  exact List.mem_singleton_self c

/-- What is left of the blanks of a text is single spaces. -/
theorem mem_singleSpaced {c : Char} {text : List Char} (h : c ∈ singleSpaced text) :
    c = ' ' ∨ (c ∈ text ∧ isBlank c = false) :=
  mem_collapse ((trimBoth_sublist _ _).subset h)

/-- **The label of a node** stands on one line if its text does. -/
theorem singleLine_escapeLabel {text : String} (h : SingleLine text.toList) :
    SingleLine (escapeLabel text).toList := by
  intro c hc
  rw [escapeLabel, String.toList_ofList] at hc
  rcases mem_encodeChar hc with hcode | htext
  · exact (by decide : SingleLine quoteCode) c hcode
  · exact h c htext

/-- The label of a node holds no double quote. -/
theorem quote_notMem_escapeLabel (text : String) : '\x22' ∉ (escapeLabel text).toList := by
  rw [escapeLabel, String.toList_ofList]
  exact notMem_encodeChar (by decide)

/-- A label of a node loses no line break of its text. -/
theorem singleLine_escapeLabel_iff {text : String} :
    SingleLine (escapeLabel text).toList ↔ SingleLine text.toList := by
  refine ⟨fun h c hc => ?_, singleLine_escapeLabel⟩
  rw [Bool.eq_false_iff]
  intro hbreak
  have hne : c ≠ '\x22' := by
    rintro rfl
    exact absurd hbreak (by decide)
  rw [escapeLabel, String.toList_ofList] at h
  exact Bool.eq_false_iff.mp (h c (mem_encodeChar_of_ne hc hne)) hbreak

/-- **The label of an edge** stands on one line, whatever its text is. -/
theorem singleLine_escapeEdgeLabel (text : String) : SingleLine (escapeEdgeLabel text).toList := by
  intro c hc
  rw [escapeEdgeLabel, String.toList_ofList] at hc
  rcases mem_encodeChar hc with hbar | hc
  · exact (by decide : SingleLine barCode) c hbar
  · rcases mem_encodeChar hc with hquote | hspaced
    · exact (by decide : SingleLine quoteCode) c hquote
    · rcases mem_singleSpaced hspaced with rfl | ⟨-, hblank⟩
      · decide
      · exact isLineBreak_eq_false hblank

/-! ### Words in a label -/

/-- **Writing a character by its code** neither brings a word in nor takes one out, if the character
and the beginning of its code are foreign and no word begins in the rest of the code. -/
theorem occursIn_encodeChar {w : Needle} {c d : Char} {code : List Char} (hd : w.Foreign d)
    (hc : w.Foreign c) (hcode : w.first ∉ code) (text : List Char) :
    w.OccursIn (encodeChar d (c :: code) text) ↔ w.OccursIn text := by
  -- The text before the place that is reached can hold the beginning of a word.
  have hfront : ∀ front, w.OccursIn (front ++ encodeChar d (c :: code) text) ↔
      w.OccursIn (front ++ text) := by
    induction text with
    | nil => exact fun front => Iff.rfl
    | cons e text ih =>
      intro front
      rw [encodeChar, List.flatMap_cons, ← encodeChar]
      by_cases he : e = d
      · subst he
        have hrest := ih []
        rw [List.nil_append, List.nil_append] at hrest
        rw [if_pos (beq_self_eq_true e), List.cons_append, Needle.occursIn_append_cons_iff hc,
          Needle.occursIn_append_of_notMem hcode, hrest, Needle.occursIn_append_cons_iff hd]
      · have hnext := ih (front ++ [e])
        rw [List.append_assoc, List.append_assoc] at hnext
        rw [if_neg (mt beq_iff_eq.mp he)]
        exact hnext
  exact hfront []

end SystemSketch.Diagram
