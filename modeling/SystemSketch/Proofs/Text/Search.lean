import Mathlib.Data.List.Infix
import Mathlib.Data.List.TakeWhile
import SystemSketch.Text.Search

/-!
# Laws of searching and cutting

Each function of `SystemSketch.Text.Search` says how a text is put together. The laws of this
module give the equation in both directions, so that no later proof follows a recursion over
characters.

## Main definitions

* `FirstBehind` — what stands in front of the first occurrence of a word.

## Main results

* `after?_eq_some_iff`, `before?_eq_some_iff` — a word is cut off exactly where it stands.
* `occursIn_iff` — a word occurs exactly if it is a part of the text.
* `exists_firstBehind`, `FirstBehind.suffix` — a text is cut at the first occurrence of a word, and
  all other occurrences stand behind it.
* `splitLast?_append` — the last mark is found behind everything else.
* `splitOn_intercalate` — pieces without the mark are found again between marks.
-/

namespace SystemSketch.Text

/-! ### A word at an end of a text -/

/-- A word stands at the front exactly if the text is the word and what follows it. -/
theorem after?_eq_some_iff {word text rest : List Char} :
    after? word text = some rest ↔ text = word ++ rest := by
  induction word generalizing text with
  | nil => simp [after?, eq_comm]
  | cons w word ih =>
    cases text with
    | nil => simp [after?]
    | cons c text =>
      rw [after?, List.cons_append, List.cons.injEq]
      by_cases h : w = c
      · simp [h, ih]
      · simp [h, eq_comm (a := c)]

/-- A word with a text behind it stands at the front. -/
@[simp] theorem after?_append (word rest : List Char) : after? word (word ++ rest) = some rest :=
  after?_eq_some_iff.mpr rfl

/-- A word stands at the front exactly if it is a beginning of the text. -/
theorem isSome_after?_iff {word text : List Char} :
    (after? word text).isSome = true ↔ word <+: text := by
  rw [Option.isSome_iff_exists]
  exact ⟨fun ⟨rest, h⟩ => ⟨rest, (after?_eq_some_iff.mp h).symm⟩,
    fun ⟨rest, h⟩ => ⟨rest, after?_eq_some_iff.mpr h.symm⟩⟩

/-- A word stands at the end exactly if the text is something with the word behind it. -/
theorem before?_eq_some_iff {word text front : List Char} :
    before? word text = some front ↔ text = front ++ word := by
  rw [before?, Option.map_eq_some_iff]
  constructor
  · rintro ⟨rest, h, rfl⟩
    have htext := congrArg List.reverse (after?_eq_some_iff.mp h)
    rwa [List.reverse_reverse, List.reverse_append, List.reverse_reverse] at htext
  · rintro rfl
    exact ⟨front.reverse, by rw [List.reverse_append, after?_append], List.reverse_reverse front⟩

/-- A text with a word behind it has the word at its end. -/
@[simp] theorem before?_append (front word : List Char) :
    before? word (front ++ word) = some front :=
  before?_eq_some_iff.mpr rfl

/-! ### A word anywhere -/

/-- **A word occurs** exactly if it is a part of the text. -/
theorem occursIn_iff {word text : List Char} : occursIn word text = true ↔ word <:+: text := by
  induction text with
  | nil => cases word <;> simp [occursIn, indexOf?]
  | cons c text ih =>
    rw [List.infix_cons_iff, ← ih, ← isSome_after?_iff, occursIn, indexOf?]
    split
    · next h => simp [h]
    · next h => simp [h, occursIn]

/-! ### The first occurrence of a word -/

/-- A word stands behind `front` **for the first time**: no shorter beginning of the text has the
word behind it. -/
def FirstBehind (word front : List Char) : Prop :=
  ∀ before, before ++ word <+: front ++ word → before = front

/-- A word stands behind `front` for the first time exactly if it begins nowhere in `front`. -/
theorem firstBehind_iff {word front : List Char} :
    FirstBehind word front ↔ ∀ tail, tail <:+ front → tail ≠ [] → ¬word <+: tail ++ word := by
  constructor
  · rintro h tail ⟨before, rfl⟩ hne hword
    have hbefore : before ++ word <+: before ++ tail ++ word := by
      rw [List.append_assoc, List.prefix_append_right_inj]
      exact hword
    exact hne (List.append_right_eq_self.mp (h before hbefore).symm)
  · intro h before hbefore
    have hlength := hbefore.length_le
    rw [List.length_append, List.length_append] at hlength
    obtain ⟨tail, rfl⟩ : before <+: front :=
      List.prefix_of_prefix_length_le ((List.prefix_append before word).trans hbefore)
        (List.prefix_append front word) (by omega)
    rw [List.append_assoc, List.prefix_append_right_inj] at hbefore
    by_contra hne
    exact h tail (List.suffix_append before tail) (by simpa using Ne.symm hne) hbefore

instance (word front : List Char) : Decidable (FirstBehind word front) :=
  decidable_of_iff (∀ tail ∈ front.tails, tail ≠ [] → ¬word <+: tail ++ word)
    (by simp only [List.mem_tails, firstBehind_iff])

/-- A text that holds a word is cut at its first occurrence. -/
theorem exists_firstBehind {word text : List Char} (h : word <:+: text) :
    ∃ front rest, text = front ++ word ++ rest ∧ FirstBehind word front := by
  have hnil : FirstBehind word [] :=
    firstBehind_iff.mpr fun tail htail hne => absurd (List.suffix_nil.mp htail) hne
  induction text with
  | nil =>
    obtain rfl := List.infix_nil.mp h
    exact ⟨[], [], rfl, hnil⟩
  | cons c text ih =>
    by_cases hfront : word <+: c :: text
    · obtain ⟨rest, hrest⟩ := hfront
      exact ⟨[], rest, hrest.symm, hnil⟩
    · obtain ⟨front, rest, rfl, hfirst⟩ := ih ((List.infix_cons_iff.mp h).resolve_left hfront)
      refine ⟨c :: front, rest, rfl, fun before hbefore => ?_⟩
      cases before with
      | nil =>
        have hword : word <+: (c :: front) ++ word ++ rest :=
          hbefore.trans (List.prefix_append _ rest)
        exact absurd hword hfront
      | cons d before =>
        obtain ⟨rfl, hrest⟩ := List.cons_prefix_cons.mp hbefore
        rw [hfirst before hrest]

/-- **Behind its first occurrence** stands whatever stands behind any other one. -/
theorem FirstBehind.suffix {word front rest before after : List Char} (h : FirstBehind word front)
    (htext : front ++ word ++ rest = before ++ word ++ after) : after <:+ rest := by
  have hrest : rest <:+ before ++ word ++ after := htext ▸ List.suffix_append (front ++ word) rest
  refine List.suffix_of_suffix_length_le (List.suffix_append (before ++ word) after) hrest ?_
  have hlength := congrArg List.length htext
  simp only [List.length_append] at hlength
  by_contra hshorter
  have hbefore : before ++ word <+: front ++ word ++ rest := htext ▸ List.prefix_append _ after
  have hprefix : before ++ word <+: front ++ word :=
    List.prefix_of_prefix_length_le hbefore (List.prefix_append _ rest)
      (by simp only [List.length_append]; omega)
  rw [h before hprefix] at hlength
  omega

/-! ### Runs at the front -/

section Runs

variable {α : Type} {p : α → Bool} {front : List α} {c : α}

/-- A run ends at the first element of another class. -/
theorem takeWhile_append_cons (hfront : ∀ d ∈ front, p d = true) (hc : p c = false)
    (rest : List α) : (front ++ c :: rest).takeWhile p = front := by
  rw [List.takeWhile_append_of_pos hfront,
    List.takeWhile_cons_of_neg (by rw [hc]; exact Bool.false_ne_true), List.append_nil]

/-- Behind a run stands the first element of another class. -/
theorem dropWhile_append_cons (hfront : ∀ d ∈ front, p d = true) (hc : p c = false)
    (rest : List α) : (front ++ c :: rest).dropWhile p = c :: rest := by
  rw [List.dropWhile_append_of_pos hfront,
    List.dropWhile_cons_of_neg (by rw [hc]; exact Bool.false_ne_true)]

/-- **A run is the longest beginning** of its class. -/
theorem prefix_takeWhile {text : List α} (h : front <+: text) (hfront : ∀ d ∈ front, p d = true) :
    front <+: text.takeWhile p := by
  obtain ⟨rest, rfl⟩ := h
  rw [List.takeWhile_append_of_pos hfront]
  exact List.prefix_append front _

end Runs

/-! ### The last mark -/

/-- A text without the mark is not split. -/
theorem splitLast?_eq_none {mark : Char} {text : List Char} (h : mark ∉ text) :
    splitLast? mark text = none := by
  induction text with
  | nil => rfl
  | cons c text ih =>
    rw [List.mem_cons, not_or] at h
    have hc : ¬c = mark := fun e => h.1 e.symm
    simp [splitLast?, ih h.2, hc]

/-- Whatever stands before a mark that is the last one is what the text is split into. -/
theorem splitLast?_append {mark : Char} {front rest : List Char} (h : mark ∉ rest) :
    splitLast? mark (front ++ mark :: rest) = some (front, rest) := by
  induction front with
  | nil => simp [splitLast?, splitLast?_eq_none h]
  | cons c front ih => rw [List.cons_append, splitLast?, ih]

/-! ### Pieces between marks -/

/-- A text without the mark is one piece. -/
theorem splitOn_eq_singleton {mark : Char} {text : List Char} (h : mark ∉ text) :
    splitOn mark text = [text] := by
  induction text with
  | nil => rfl
  | cons c text ih =>
    rw [List.mem_cons, not_or] at h
    have hc : ¬c = mark := fun e => h.1 e.symm
    simp [splitOn, hc, ih h.2]

/-- There is always a piece. -/
theorem splitOn_ne_nil (mark : Char) (text : List Char) : splitOn mark text ≠ [] := by
  cases text with
  | nil => simp [splitOn]
  | cons c text =>
    rw [splitOn]
    split
    · exact List.cons_ne_nil _ _
    · split <;> exact List.cons_ne_nil _ _

/-- **A mark parts the pieces** of what stands before it and behind it. -/
theorem splitOn_append_cons (mark : Char) (front rest : List Char) :
    splitOn mark (front ++ mark :: rest) = splitOn mark front ++ splitOn mark rest := by
  induction front with
  | nil => simp [splitOn]
  | cons c front ih =>
    rw [List.cons_append, splitOn, splitOn, ih]
    split
    · rfl
    · cases hfront : splitOn mark front with
      | nil => exact absurd hfront (splitOn_ne_nil mark front)
      | cons piece pieces => rfl

/-- A piece without the mark ends at the mark. -/
theorem splitOn_append {mark : Char} {piece rest : List Char} (h : mark ∉ piece) :
    splitOn mark (piece ++ mark :: rest) = piece :: splitOn mark rest := by
  rw [splitOn_append_cons, splitOn_eq_singleton h, List.singleton_append]

/-- Pieces without the mark are found again when they are written with the mark between them. -/
theorem splitOn_intercalate {mark : Char} {pieces : List (List Char)} (hne : pieces ≠ [])
    (h : ∀ piece ∈ pieces, mark ∉ piece) :
    splitOn mark (List.intercalate [mark] pieces) = pieces := by
  induction pieces with
  | nil => exact absurd rfl hne
  | cons piece rest ih =>
    have hpiece := h piece List.mem_cons_self
    cases rest with
    | nil => simpa using splitOn_eq_singleton hpiece
    | cons next rest =>
      rw [List.intercalate_cons_cons, List.append_assoc, List.singleton_append,
        splitOn_append hpiece, ih (List.cons_ne_nil next rest)
          fun p hp => h p (List.mem_cons_of_mem piece hp)]

/-- What is written with marks between the pieces is a mark or part of a piece. -/
theorem mem_intercalate {mark c : Char} {pieces : List (List Char)}
    (h : c ∈ List.intercalate [mark] pieces) : c = mark ∨ ∃ piece ∈ pieces, c ∈ piece := by
  induction pieces with
  | nil => exact absurd h List.not_mem_nil
  | cons piece rest ih =>
    cases rest with
    | nil =>
      rw [List.intercalate_singleton] at h
      exact Or.inr ⟨piece, List.mem_cons_self, h⟩
    | cons next rest =>
      rw [List.intercalate_cons_cons, List.append_assoc, List.mem_append, List.mem_append,
        List.mem_singleton] at h
      rcases h with hpiece | hmark | hrest
      · exact Or.inr ⟨piece, List.mem_cons_self, hpiece⟩
      · exact Or.inl hmark
      · refine (ih hrest).imp_right fun ⟨p, hp, hc⟩ => ?_
        exact ⟨p, List.mem_cons_of_mem piece hp, hc⟩

/-- What is written with marks between the pieces begins with the first piece. -/
theorem prefix_intercalate (mark : Char) (piece : List Char) (rest : List (List Char)) :
    piece <+: List.intercalate [mark] (piece :: rest) := by
  cases rest with
  | nil =>
    rw [List.intercalate_singleton]
  | cons next rest =>
    rw [List.intercalate_cons_cons, List.append_assoc]
    exact List.prefix_append piece _

end SystemSketch.Text
