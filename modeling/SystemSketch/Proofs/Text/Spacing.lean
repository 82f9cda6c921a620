import Mathlib.Data.List.Chain
import SystemSketch.Proofs.Text.Line

/-!
# The words of a text

Writing every run of blanks as one space, with none at the ends, keeps the words of a text and
forgets what stands between them. So what is written anew is nothing but the words with a space
between any two of them, and the words are found again in it.

## Main definitions

* `Solid` — one or more characters, none of which is a blank.
* `words` — the words of a text.
* `spaced` — words with a space between any two of them.
* `IsSpaced` — a text whose only blanks are single spaces within it.

## Main results

* `solid_of_mem_words`, `infix_of_mem_words` — what a word is.
* `words_spaced` — the words are found again.
* `isSpaced_spaced` — what words with spaces between them look like.
* `trim_collapse` — a text with its runs of blanks written as one space.
-/

namespace SystemSketch.Text

/-! ### Words -/

/-- A **solid** text: one or more characters, none of which is a blank. -/
structure Solid (text : List Char) : Prop where
  ne_nil : text ≠ []
  not_blank : ∀ c ∈ text, isBlank c = false

/-- The **words** of a text: the pieces between its blanks that are not empty. -/
def words (text : List Char) : List (List Char) :=
  (text.splitOnP isBlank).filter fun piece => !piece.isEmpty

variable {b c : Char} {text word : List Char} {ws : List (List Char)}

theorem solid_iff : Solid text ↔ text ≠ [] ∧ text.any isBlank = false := by
  rw [List.any_eq_false]
  exact ⟨fun h => ⟨h.ne_nil, fun c hc => by simp [h.not_blank c hc]⟩,
    fun h => ⟨h.1, fun c hc => Bool.not_eq_true _ ▸ h.2 c hc⟩⟩

@[simp] theorem words_nil : words [] = [] := by
  simp [words, List.splitOnP_nil]

/-- **A blank parts the words** before it from those behind it. -/
theorem words_append_cons (hb : isBlank b = true) (front rest : List Char) :
    words (front ++ b :: rest) = words front ++ words rest := by
  rw [words, List.splitOnP_append_cons front rest hb, List.filter_append]
  rfl

/-- A blank in front belongs to no word. -/
theorem words_cons (hb : isBlank b = true) (text : List Char) : words (b :: text) = words text := by
  have hparts := words_append_cons hb [] text
  rwa [words_nil, List.nil_append, List.nil_append] at hparts

/-- A solid text is one word. -/
theorem Solid.words_eq (h : Solid word) : words word = [word] := by
  rw [words, List.splitOnP_eq_singleton h.not_blank]
  simp [h.ne_nil]

/-- A solid text with one more character that is no blank. -/
theorem solid_append_singleton {front : List Char} (hfront : ∀ d ∈ front, isBlank d = false)
    (hc : isBlank c = false) : Solid (front ++ [c]) :=
  ⟨List.append_ne_nil_of_right_ne_nil front (List.cons_ne_nil c []),
    List.forall_mem_append.mpr ⟨hfront, by simpa using hc⟩⟩

/-- A text without blanks has no other word than itself. -/
theorem mem_words_of_not_blank (hnone : ∀ d ∈ text, isBlank d = false) (h : word ∈ words text) :
    Solid word ∧ word = text := by
  cases text with
  | nil => simp at h
  | cons d text =>
    have hsolid : Solid (d :: text) := ⟨List.cons_ne_nil d text, hnone⟩
    rw [hsolid.words_eq, List.mem_singleton] at h
    exact ⟨h ▸ hsolid, h⟩

/-- A word is solid, and it is a part of the text. Here `front` is what has been read of a word. -/
theorem solid_and_infix_of_mem_words {front : List Char} (hnone : ∀ d ∈ front, isBlank d = false)
    (h : word ∈ words (front ++ text)) : Solid word ∧ word <:+: front ++ text := by
  induction text generalizing front with
  | nil =>
    rw [List.append_nil] at h ⊢
    obtain ⟨hsolid, rfl⟩ := mem_words_of_not_blank hnone h
    exact ⟨hsolid, List.infix_rfl⟩
  | cons c text ih =>
    by_cases hc : isBlank c = true
    · rw [words_append_cons hc, List.mem_append] at h
      rcases h with h | h
      · obtain ⟨hsolid, rfl⟩ := mem_words_of_not_blank hnone h
        exact ⟨hsolid, List.infix_append' [] word (c :: text)⟩
      · obtain ⟨hsolid, hinfix⟩ := @ih [] (fun _ hd => absurd hd List.not_mem_nil) h
        exact ⟨hsolid, hinfix.trans ⟨front ++ [c], [], by simp⟩⟩
    · rw [Bool.not_eq_true] at hc
      rw [List.append_cons] at h ⊢
      exact ih (solid_append_singleton hnone hc).not_blank h

/-- Words are solid. -/
theorem solid_of_mem_words (h : word ∈ words text) : Solid word :=
  (@solid_and_infix_of_mem_words text word [] (fun _ hd => absurd hd List.not_mem_nil) h).1

/-- Words are parts of the text. -/
theorem infix_of_mem_words (h : word ∈ words text) : word <:+: text :=
  (@solid_and_infix_of_mem_words text word [] (fun _ hd => absurd hd List.not_mem_nil) h).2

/-! ### Words with spaces between them -/

/-- Words with a space between any two of them. -/
def spaced (ws : List (List Char)) : List Char :=
  List.intercalate [' '] ws

@[simp] theorem spaced_nil : spaced [] = [] := rfl

@[simp] theorem spaced_singleton (word : List Char) : spaced [word] = word :=
  List.intercalate_singleton

theorem spaced_cons_cons (word next : List Char) (ws : List (List Char)) :
    spaced (word :: next :: ws) = word ++ ' ' :: spaced (next :: ws) := by
  simp [spaced, List.intercalate_cons_cons]

theorem spaced_ne_nil (hws : ws ≠ []) (h : ∀ w ∈ ws, Solid w) : spaced ws ≠ [] := by
  cases ws with
  | nil => exact absurd rfl hws
  | cons word ws =>
    cases ws with
    | nil =>
      rw [spaced_singleton]
      exact (h word List.mem_cons_self).ne_nil
    | cons next ws =>
      rw [spaced_cons_cons]
      exact List.append_ne_nil_of_right_ne_nil word (List.cons_ne_nil _ _)

/-- **The words are found again.** -/
theorem words_spaced (h : ∀ w ∈ ws, Solid w) : words (spaced ws) = ws := by
  induction ws with
  | nil => exact words_nil
  | cons word ws ih =>
    obtain ⟨hword, hws⟩ := List.forall_mem_cons.mp h
    cases ws with
    | nil => rw [spaced_singleton, hword.words_eq]
    | cons next ws =>
      rw [spaced_cons_cons, words_append_cons (by decide), ih hws, hword.words_eq,
        List.singleton_append]

/-- A text whose blanks are **single spaces** within it: each blank is a space, no two of them stand
side by side, and none stands at an end. -/
structure IsSpaced (text : List Char) : Prop where
  eq_space : ∀ c ∈ text, isBlank c = true → c = ' '
  single : text.IsChain fun c d => isBlank c = true → isBlank d = false
  head : ∀ c ∈ text.head?, isBlank c = false
  last : ∀ c ∈ text.getLast?, isBlank c = false

/-- A solid text has no blanks at all. -/
theorem Solid.isSpaced (h : Solid text) : IsSpaced text where
  eq_space c hc hblank := by simp [h.not_blank c hc] at hblank
  single := List.Pairwise.isChain <| List.pairwise_of_forall_mem_list fun c hc d hd _ =>
    h.not_blank d hd
  head c hc := h.not_blank c (List.mem_of_mem_head? hc)
  last c hc := h.not_blank c (List.mem_of_getLast? hc)

/-- **Words with spaces between them** have no other blanks. -/
theorem isSpaced_spaced (h : ∀ w ∈ ws, Solid w) : IsSpaced (spaced ws) := by
  induction ws with
  | nil =>
    exact ⟨fun _ hc => absurd hc List.not_mem_nil, .nil, fun _ hc => absurd hc (by simp),
      fun _ hc => absurd hc (by simp)⟩
  | cons word ws ih =>
    obtain ⟨hword, hws⟩ := List.forall_mem_cons.mp h
    cases ws with
    | nil =>
      rw [spaced_singleton]
      exact hword.isSpaced
    | cons next ws =>
      have hrest := ih hws
      have hne : spaced (next :: ws) ≠ [] := spaced_ne_nil (List.cons_ne_nil next ws) hws
      rw [spaced_cons_cons]
      refine ⟨fun c hc hblank => ?_, ?_, fun c hc => ?_, fun c hc => ?_⟩
      · rw [List.mem_append, List.mem_cons] at hc
        rcases hc with hc | rfl | hc
        · exact hword.isSpaced.eq_space c hc hblank
        · rfl
        · exact hrest.eq_space c hc hblank
      · refine List.isChain_append.mpr ⟨hword.isSpaced.single, ?_, fun c hc _ _ hblank => ?_⟩
        · exact List.isChain_cons.mpr ⟨fun d hd _ => hrest.head d hd, hrest.single⟩
        · simp [hword.isSpaced.last c hc] at hblank
      · rw [List.head?_append_of_ne_nil _ hword.ne_nil] at hc
        exact hword.isSpaced.head c hc
      · rw [List.append_cons, List.getLast?_append_of_ne_nil _ hne] at hc
        exact hrest.last c hc

/-! ### Blanks written as one space -/

/-- What is left behind a run of blanks begins with something else. -/
theorem head?_collapseFrom (text : List Char) :
    ∀ c ∈ (collapseFrom isBlank ' ' true text).head?, isBlank c = false := by
  induction text with
  | nil => simp [collapseFrom]
  | cons d text ih =>
    rw [collapseFrom, if_pos rfl]
    split
    · exact ih
    · next hd =>
      rw [Bool.not_eq_true] at hd
      simpa using hd

/-- Cutting off the mark at the front is beginning within a run. -/
theorem dropWhile_collapse (text : List Char) :
    (collapse isBlank ' ' text).dropWhile isBlank = collapseFrom isBlank ' ' true text := by
  have hstop : (collapseFrom isBlank ' ' true text).dropWhile isBlank =
      collapseFrom isBlank ' ' true text := by
    cases hcut : collapseFrom isBlank ' ' true text with
    | nil => rfl
    | cons c rest =>
      have hc : isBlank c = false := head?_collapseFrom text c (by simp [hcut])
      exact List.dropWhile_cons_of_neg (by simp [hc])
  cases text with
  | nil => rfl
  | cons c text =>
    by_cases hc : isBlank c = true
    · have hmark : isBlank ' ' = true := by decide
      simpa [collapse, collapseFrom, hc, hmark] using hstop
    · simp [collapse, collapseFrom, hc]

/-- What is cut off at the end lies in the second part, unless that is blank. -/
theorem trimEnd_append (front rest : List Char) :
    trimEnd (front ++ rest) = if trimEnd rest = [] then trimEnd front else front ++ trimEnd rest :=
  dropEndWhile_append isBlank front rest

/-- What collapsing leaves, without the blanks at its end: the words of the text, from within a run
of blanks on, or from behind the beginning of a word on. -/
theorem trimEnd_collapseFrom (text : List Char) :
    trimEnd (collapseFrom isBlank ' ' true text) = spaced (words text) ∧
      ∀ word, Solid word →
        trimEnd (word ++ collapseFrom isBlank ' ' false text) = spaced (words (word ++ text)) := by
  induction text with
  | nil =>
    refine ⟨by simp [collapseFrom, trimEnd, dropEndWhile], fun word hword => ?_⟩
    rw [collapseFrom, List.append_nil, hword.words_eq, spaced_singleton]
    exact dropEndWhile_eq_self hword.isSpaced.last
  | cons c text ih =>
    obtain ⟨hrun, hword⟩ := ih
    by_cases hc : isBlank c = true
    · refine ⟨?_, fun word hsolid => ?_⟩
      · rw [collapseFrom, if_pos hc, if_pos rfl, words_cons hc, hrun]
      · -- the blank is written if a word follows, and cut off with the end of the text otherwise
        have hkeep : trimEnd word = word := dropEndWhile_eq_self hsolid.isSpaced.last
        rw [collapseFrom, if_pos hc, if_neg Bool.false_ne_true, words_append_cons hc,
          hsolid.words_eq, List.singleton_append]
        cases hwords : words text with
        | nil =>
          rw [hwords, spaced_nil] at hrun
          have hblank : trimEnd (' ' :: collapseFrom isBlank ' ' true text) = [] := by
            rw [← List.singleton_append, trimEnd_append, if_pos hrun]
            rfl
          rw [trimEnd_append, if_pos hblank, spaced_singleton, hkeep]
        | cons next ws =>
          have hne : spaced (next :: ws) ≠ [] :=
            spaced_ne_nil (List.cons_ne_nil next ws) fun w hw => solid_of_mem_words (hwords ▸ hw)
          rw [hwords] at hrun
          rw [List.append_cons, trimEnd_append, hrun, if_neg hne, spaced_cons_cons,
            ← List.append_cons]
    · rw [Bool.not_eq_true] at hc
      have hsolid : ∀ word : List Char, (∀ d ∈ word, isBlank d = false) →
          trimEnd (word ++ c :: collapseFrom isBlank ' ' false text) =
            spaced (words (word ++ c :: text)) := by
        intro word hword'
        rw [List.append_cons, List.append_cons word c text]
        exact hword (word ++ [c]) (solid_append_singleton hword' hc)
      have hnext : ∀ inRun, collapseFrom isBlank ' ' inRun (c :: text) =
          c :: collapseFrom isBlank ' ' false text := fun inRun => if_neg (by simp [hc])
      rw [hnext, hnext]
      exact ⟨hsolid [] fun _ hd => absurd hd List.not_mem_nil,
        fun word hword' => hsolid word hword'.not_blank⟩

/-- **A text with its runs of blanks written as one space**, and none at its ends, is the words of
the text with a space between any two of them. -/
theorem trim_collapse (text : List Char) :
    trim (collapse isBlank ' ' text) = spaced (words text) := by
  rw [trim, trimBoth, dropWhile_collapse]
  exact (trimEnd_collapseFrom text).1

end SystemSketch.Text
