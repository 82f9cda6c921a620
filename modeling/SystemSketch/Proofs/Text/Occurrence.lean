import Mathlib.Data.List.Infix
import Mathlib.Data.List.TakeWhile
import SystemSketch.Proofs.Text.Line

/-!
# Words in a text that is put together

A word that must not stand in a document is searched for in the whole text, while the document is
put together from parts: labels with marks around them, lines with a feed behind each. The word
stands in the document exactly if it stands in one of the parts, because it cannot lie across a
mark that none of its letters counts as. For the same reason a word stands in a text exactly if it
stands in what is left when blanks are collapsed or cut off.

## Main definitions

* `occurrences` — how often a word occurs.
* `Needle` — a word that is searched for, and what the characters of a text count as.
* `Needle.OccursIn` — the word stands somewhere in a text.
* `Needle.Foreign` — a character counts as no letter of the word.

## Main results

* `infix_append_cons_iff` — a part of a list without a separator lies on one side of it.
* `occurrences_append_cons` — a separator parts the occurrences of a word.
* `Needle.occursIn_append_cons_iff` — a word stands before a foreign character or behind it.
* `Needle.occursIn_collapse`, `Needle.occursIn_trim` — writing a text anew neither brings a word in
  nor takes one out.
* `Needle.occursIn_unlines` — a word stands in a text exactly if it stands in one of its lines.
-/

namespace SystemSketch.Text

/-! ### Parts on one side of a separator -/

section Separator

variable {α : Type} {word front rest : List α} {c : α}

/-- A beginning that does not hold the separator ends before it. -/
theorem prefix_append_cons_iff (hc : c ∉ word) : word <+: front ++ c :: rest ↔ word <+: front := by
  refine ⟨fun h => ?_, fun h => h.trans (List.prefix_append front (c :: rest))⟩
  have hfront : front ++ [c] <+: front ++ c :: rest := ⟨rest, by simp⟩
  rcases List.prefix_or_prefix_of_prefix h hfront with hword | hword
  · rcases List.prefix_concat_iff.mp hword with rfl | hword
    · exact absurd (List.mem_append_right front List.mem_cons_self) hc
    · exact hword
  · exact absurd (hword.subset (List.mem_append_right front List.mem_cons_self)) hc

/-- **A part that does not hold the separator** lies before it or behind it. -/
theorem infix_append_cons_iff (hc : c ∉ word) :
    word <:+: front ++ c :: rest ↔ word <:+: front ∨ word <:+: rest := by
  induction front with
  | nil =>
    have hnil : word <+: c :: rest ↔ word <+: [] := @prefix_append_cons_iff α word [] rest c hc
    rw [List.nil_append, List.infix_cons_iff, hnil, List.prefix_nil, List.infix_nil]
  | cons d front ih =>
    rw [List.cons_append, List.infix_cons_iff, List.infix_cons_iff, ih, or_assoc,
      ← List.cons_append, prefix_append_cons_iff hc]

/-- **A part does not begin** in front of a list without its first element. -/
theorem infix_append_of_notMem (hc : c ∉ front) :
    c :: word <:+: front ++ rest ↔ c :: word <:+: rest := by
  induction front with
  | nil => rfl
  | cons d front ih =>
    rw [List.mem_cons, not_or] at hc
    rw [List.cons_append, List.infix_cons_iff, ih hc.2, List.cons_prefix_cons]
    exact or_iff_right fun hword => hc.1 hword.1

end Separator

/-! ### How often a word occurs -/

/-- How many places of a text a word begins at. -/
def occurrences (word text : List Char) : Nat :=
  text.tails.countP word.isPrefixOf

/-- A word begins at no place exactly if it is no part of the text. -/
theorem occurrences_eq_zero_iff {word text : List Char} :
    occurrences word text = 0 ↔ ¬word <:+: text := by
  simp only [occurrences, List.countP_eq_zero, List.mem_tails, List.isPrefixOf_iff_prefix,
    List.infix_iff_prefix_suffix, not_exists, not_and]
  exact forall_congr' fun tail => imp_not_comm

/-- **A separator** parts the occurrences before it from those behind it. -/
theorem occurrences_append_cons {word : List Char} {c : Char} (hne : word ≠ []) (hc : c ∉ word)
    (front rest : List Char) :
    occurrences word (front ++ c :: rest) = occurrences word front + occurrences word rest := by
  have hnil : word.isPrefixOf [] = false := by
    rw [Bool.eq_false_iff, Ne, List.isPrefixOf_iff_prefix, List.prefix_nil]
    exact hne
  have hprefix (front : List Char) :
      word.isPrefixOf (front ++ c :: rest) = word.isPrefixOf front := by
    rw [Bool.eq_iff_iff, List.isPrefixOf_iff_prefix, List.isPrefixOf_iff_prefix]
    exact prefix_append_cons_iff hc
  induction front with
  | nil =>
    have hhead := hprefix []
    rw [List.nil_append, hnil] at hhead
    simp [occurrences, hhead, hnil]
  | cons d front ih =>
    rw [occurrences, occurrences] at ih ⊢
    rw [List.cons_append, List.tails_cons, List.tails_cons, List.countP_cons, List.countP_cons, ih,
      ← List.cons_append, hprefix (d :: front), Nat.add_right_comm]

/-! ### Needles -/

/-- A **needle**: a word that is searched for in a text whose characters count as what `fold` says.
Nothing but the first letter itself counts as the first letter. -/
structure Needle where
  /-- What a character of the text counts as. -/
  fold : Char → Char
  /-- The first letter. -/
  first : Char
  /-- The letters behind the first one. -/
  rest : List Char
  eq_first : ∀ {c : Char}, fold c = first → c = first

namespace Needle

variable {w : Needle} {text front : List Char} {c d : Char}

/-- The letters of a needle. -/
def letters (w : Needle) : List Char :=
  w.first :: w.rest

/-- The word **stands in** a text. -/
def OccursIn (w : Needle) (text : List Char) : Prop :=
  w.letters <:+: text.map w.fold

/-- A character is **foreign** to a word if it counts as no letter of it. -/
def Foreign (w : Needle) (c : Char) : Prop :=
  w.fold c ∉ w.letters

instance (w : Needle) (text : List Char) : Decidable (w.OccursIn text) :=
  inferInstanceAs (Decidable (w.letters <:+: text.map w.fold))

instance (w : Needle) (c : Char) : Decidable (w.Foreign c) :=
  inferInstanceAs (Decidable (w.fold c ∉ w.letters))

/-- A text without the first letter does not hold the word. -/
theorem not_occursIn_of_notMem (h : w.first ∉ text) : ¬w.OccursIn text := by
  intro hword
  obtain ⟨c, hc, hfold⟩ := List.mem_map.mp (hword.subset (List.mem_cons_self : w.first ∈ w.letters))
  rw [w.eq_first hfold] at hc
  exact h hc

/-- **A foreign character separates**: the word stands before it or behind it. -/
theorem occursIn_append_cons_iff (hc : w.Foreign c) (front rest : List Char) :
    w.OccursIn (front ++ c :: rest) ↔ w.OccursIn front ∨ w.OccursIn rest := by
  rw [OccursIn, List.map_append, List.map_cons]
  exact infix_append_cons_iff hc

/-- A foreign character in front changes nothing. -/
theorem occursIn_cons_iff (hc : w.Foreign c) : w.OccursIn (c :: text) ↔ w.OccursIn text := by
  have hnil : ¬w.OccursIn [] := not_occursIn_of_notMem List.not_mem_nil
  rw [← List.nil_append (c :: text), occursIn_append_cons_iff hc, or_iff_right hnil]

/-- Without the first letter nothing can begin in front of a text. -/
theorem occursIn_append_of_notMem (h : w.first ∉ front) :
    w.OccursIn (front ++ text) ↔ w.OccursIn text := by
  have hfold : w.first ∉ front.map w.fold := by
    intro hmem
    obtain ⟨c, hc, hfold⟩ := List.mem_map.mp hmem
    exact h (w.eq_first hfold ▸ hc)
  rw [OccursIn, List.map_append]
  exact infix_append_of_notMem hfold

/-- Foreign characters in front change nothing. -/
theorem occursIn_append_of_foreign (h : ∀ d ∈ front, w.Foreign d) :
    w.OccursIn (front ++ text) ↔ w.OccursIn text := by
  induction front with
  | nil => rw [List.nil_append]
  | cons d front ih =>
    obtain ⟨hd, hfront⟩ := List.forall_mem_cons.mp h
    rw [List.cons_append, occursIn_cons_iff hd, ih hfront]

/-- Foreign characters at the end change nothing. -/
theorem occursIn_append_right_of_foreign {tail : List Char} (h : ∀ d ∈ tail, w.Foreign d) :
    w.OccursIn (text ++ tail) ↔ w.OccursIn text := by
  cases tail with
  | nil => rw [List.append_nil]
  | cons d tail =>
    obtain ⟨hd, htail⟩ := List.forall_mem_cons.mp h
    have hnone : ¬w.OccursIn tail := by
      rw [← List.append_nil tail, occursIn_append_of_foreign htail]
      exact not_occursIn_of_notMem List.not_mem_nil
    rw [occursIn_append_cons_iff hd, or_iff_left hnone]

/-! ### Texts that are written anew -/

/-- What is left after collapsing foreign characters holds the word exactly if the text does. Inside
a run no word is begun. -/
theorem occursIn_collapseFrom {p : Char → Bool} {mark : Char} (hp : ∀ c, p c = true → w.Foreign c)
    (hmark : w.Foreign mark) (inRun : Bool) (front : List Char) (hfront : inRun = true → front = [])
    (text : List Char) :
    w.OccursIn (front ++ collapseFrom p mark inRun text) ↔ w.OccursIn (front ++ text) := by
  induction text generalizing inRun front with
  | nil => exact Iff.rfl
  | cons c text ih =>
    rw [collapseFrom]
    split
    · next hc =>
      have hrest := ih true [] fun _ => rfl
      rw [List.nil_append, List.nil_append] at hrest
      rw [occursIn_append_cons_iff (hp c hc), ← hrest]
      split
      · next hrun =>
        rw [hfront hrun, List.nil_append]
        exact (or_iff_right (not_occursIn_of_notMem List.not_mem_nil)).symm
      · exact occursIn_append_cons_iff hmark _ _
    · have hnext := ih false (front ++ [c]) fun h => Bool.noConfusion h
      rwa [List.append_assoc, List.append_assoc] at hnext

/-- **Collapsing foreign characters** neither brings a word in nor takes one out. -/
theorem occursIn_collapse {p : Char → Bool} {mark : Char} (hp : ∀ c, p c = true → w.Foreign c)
    (hmark : w.Foreign mark) (text : List Char) :
    w.OccursIn (collapse p mark text) ↔ w.OccursIn text :=
  occursIn_collapseFrom hp hmark false [] (fun _ => rfl) text

/-- Foreign characters can be cut off at the end. -/
theorem occursIn_dropEndWhile {p : Char → Bool} (hp : ∀ c, p c = true → w.Foreign c)
    (text : List Char) : w.OccursIn (dropEndWhile p text) ↔ w.OccursIn text := by
  obtain ⟨tail, hcut, htail⟩ := exists_dropEndWhile_append p text
  conv_rhs => rw [← hcut]
  exact (occursIn_append_right_of_foreign fun d hd => hp d (htail d hd)).symm

/-- **Cutting off blanks** at the ends neither brings a word in nor takes one out. -/
theorem occursIn_trim (hblank : ∀ c, isBlank c = true → w.Foreign c) (text : List Char) :
    w.OccursIn (trim text) ↔ w.OccursIn text := by
  have hcut : text.takeWhile isBlank ++ text.dropWhile isBlank = text :=
    List.takeWhile_append_dropWhile
  rw [trim, trimBoth, occursIn_dropEndWhile hblank]
  conv_rhs => rw [← hcut]
  exact (occursIn_append_of_foreign fun d hd => hblank d (List.mem_takeWhile_imp hd)).symm

/-- **A word stands in a text** exactly if it stands in one of its lines. -/
theorem occursIn_unlines (hfeed : w.Foreign '\n') (ls : List (List Char)) :
    w.OccursIn (unlines ls) ↔ ∃ line ∈ ls, w.OccursIn line := by
  induction ls with
  | nil =>
    have hnil : ¬w.OccursIn [] := not_occursIn_of_notMem List.not_mem_nil
    exact iff_of_false hnil fun ⟨line, hline, _⟩ => List.not_mem_nil hline
  | cons line rest ih =>
    rw [unlines, List.flatMap_cons, List.append_assoc, List.singleton_append, ← unlines,
      occursIn_append_cons_iff hfeed, ih, List.exists_mem_cons_iff]

end Needle

end SystemSketch.Text
