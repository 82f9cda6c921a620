import SystemSketch.Proofs.Diagram.Label
import SystemSketch.Proofs.Text.Spacing

/-!
# What labels keep

A label can be read back. An entity code begins with a character that does not come again in it, so
no code can lie partly in what is written for a character and partly in something else: two texts
without codes in them that are written alike are alike. The label of an edge keeps the words of its
text and nothing of the blanks between them.

## Main results

* `encodeChar_inj` — a text without the code is known by what is written for it.
* `infix_of_infix_encodeChar` — writing one code brings no other one in.
* `toList_escapeEdgeLabel` — the label of an edge, word by word.
* `labels_faithful` — what labels hold, and what is known of the texts of equal ones.
-/

namespace SystemSketch.Diagram

open Text

variable {c d : Char} {code word text : List Char}

/-! ### Codes in a text -/

/-- A text without the character is written as it is. -/
theorem encodeChar_eq_self (h : d ∉ text) : encodeChar d code text = text := by
  induction text with
  | nil => rfl
  | cons e text ih =>
    rw [List.mem_cons, not_or] at h
    rw [encodeChar, List.flatMap_cons, if_neg (mt beq_iff_eq.mp (Ne.symm h.1)), ← encodeChar,
      ih h.2, List.singleton_append]

theorem encodeChar_cons_self (d : Char) (code text : List Char) :
    encodeChar d code (d :: text) = code ++ encodeChar d code text := by
  rw [encodeChar, List.flatMap_cons, if_pos (beq_self_eq_true d), ← encodeChar]

theorem encodeChar_cons_of_ne {e : Char} (he : e ≠ d) (code text : List Char) :
    encodeChar d code (e :: text) = e :: encodeChar d code text := by
  rw [encodeChar, List.flatMap_cons, if_neg (mt beq_iff_eq.mp he), ← encodeChar,
    List.singleton_append]

/-- What stands at the front of a written text stood there before, if no code begins in it. -/
theorem prefix_of_prefix_encodeChar (hc : c ∉ word)
    (h : word <+: encodeChar d (c :: code) text) : word <+: text := by
  induction word generalizing text with
  | nil => exact List.nil_prefix
  | cons e word ih =>
    rw [List.mem_cons, not_or] at hc
    cases text with
    | nil => exact h
    | cons f text =>
      by_cases hf : f = d
      · rw [hf, encodeChar_cons_self, List.cons_append, List.cons_prefix_cons] at h
        exact absurd h.1.symm hc.1
      · rw [encodeChar_cons_of_ne hf, List.cons_prefix_cons] at h
        rw [List.cons_prefix_cons]
        exact ⟨h.1, ih hc.2 h.2⟩

/-- A text that is written like one that begins with the character, and begins with another one
itself, begins with the code. -/
theorem prefix_of_encodeChar_eq {s t : List Char} {e : Char} (hc : c ∉ code) (he : e ≠ d)
    (h : encodeChar d (c :: code) (d :: s) = encodeChar d (c :: code) (e :: t)) :
    c :: code <+: e :: t := by
  rw [encodeChar_cons_self, encodeChar_cons_of_ne he, List.cons_append, List.cons.injEq] at h
  rw [List.cons_prefix_cons]
  exact ⟨h.1, prefix_of_prefix_encodeChar hc (h.2 ▸ List.prefix_append code _)⟩

/-- **A text without the code** is known by what is written for it. -/
theorem encodeChar_inj {s t : List Char} (hc : c ∉ code) (hs : ¬c :: code <:+: s)
    (ht : ¬c :: code <:+: t)
    (h : encodeChar d (c :: code) s = encodeChar d (c :: code) t) : s = t := by
  have hne : ∀ (e : Char) (rest : List Char), encodeChar d (c :: code) (e :: rest) ≠ [] := by
    intro e rest
    by_cases he : e = d
    · rw [he, encodeChar_cons_self]
      exact List.cons_ne_nil c _
    · rw [encodeChar_cons_of_ne he]
      exact List.cons_ne_nil e _
  induction s generalizing t with
  | nil =>
    cases t with
    | nil => rfl
    | cons b t => exact absurd h.symm (hne b t)
  | cons a s ih =>
    cases t with
    | nil => exact absurd h (hne a s)
    | cons b t =>
      have hrest : encodeChar d (c :: code) s = encodeChar d (c :: code) t → s = t :=
        ih (mt List.infix_cons hs) (mt List.infix_cons ht)
      by_cases ha : a = d
      · by_cases hb : b = d
        · rw [ha, hb, encodeChar_cons_self, encodeChar_cons_self, List.append_cancel_left_eq] at h
          rw [ha, hb, hrest h]
        · exact absurd (prefix_of_encodeChar_eq hc hb (ha ▸ h)).isInfix ht
      · by_cases hb : b = d
        · exact absurd (prefix_of_encodeChar_eq hc ha (hb ▸ h.symm)).isInfix hs
        · rw [encodeChar_cons_of_ne ha, encodeChar_cons_of_ne hb, List.cons.injEq] at h
          rw [h.1, hrest h.2]

/-- **Writing a code brings no other one in**, if neither of the two begins with the other. -/
theorem infix_of_infix_encodeChar (hword : c ∉ word) (hcode : c ∉ code) (hother : ¬word <+: code)
    (hother' : ¬code <+: word) (h : c :: word <:+: encodeChar d (c :: code) text) :
    c :: word <:+: text := by
  induction text with
  | nil => exact h
  | cons e text ih =>
    by_cases he : e = d
    · rw [he, encodeChar_cons_self, List.cons_append, List.infix_cons_iff, List.cons_prefix_cons,
        infix_append_of_notMem hcode] at h
      rcases h with ⟨-, hfront⟩ | hrest
      · exact ((List.prefix_or_prefix_of_prefix hfront (List.prefix_append code _)).elim hother
          hother').elim
      · exact List.infix_cons (ih hrest)
    · rw [encodeChar_cons_of_ne he, List.infix_cons_iff, List.cons_prefix_cons] at h
      rcases h with ⟨rfl, hfront⟩ | hrest
      · exact (List.cons_prefix_cons.mpr
          ⟨rfl, prefix_of_prefix_encodeChar hword hfront⟩).isInfix
      · exact List.infix_cons (ih hrest)

/-! ### Words of a label -/

/-- What is written for a word of an edge's label. -/
def escapeWord (word : List Char) : List Char :=
  encodeChar '|' barCode (encodeChar '\x22' quoteCode word)

theorem encodeChar_spaced (hd : d ≠ ' ') (code : List Char) (ws : List (List Char)) :
    encodeChar d code (spaced ws) = spaced (ws.map (encodeChar d code)) := by
  have happend : ∀ front rest : List Char, encodeChar d code (front ++ rest) =
      encodeChar d code front ++ encodeChar d code rest := fun _ _ => List.flatMap_append
  induction ws with
  | nil => rfl
  | cons word ws ih =>
    cases ws with
    | nil => rw [List.map_singleton, spaced_singleton, spaced_singleton]
    | cons next ws =>
      rw [spaced_cons_cons, happend, encodeChar_cons_of_ne (Ne.symm hd), ih, List.map_cons,
        List.map_cons, List.map_cons, spaced_cons_cons]

/-- Blanks do not come in with a code. -/
theorem solid_encodeChar (hcode : Solid code) (h : Solid text) :
    Solid (encodeChar d code text) where
  ne_nil := by
    obtain ⟨e, rest, rfl⟩ := List.exists_cons_of_ne_nil h.ne_nil
    by_cases he : e = d
    · rw [he, encodeChar_cons_self]
      exact List.append_ne_nil_of_left_ne_nil hcode.ne_nil _
    · rw [encodeChar_cons_of_ne he]
      exact List.cons_ne_nil e _
  not_blank := fun c hc => (mem_encodeChar hc).elim (hcode.not_blank c) (h.not_blank c)

theorem solid_escapeWord (h : Solid word) : Solid (escapeWord word) := by
  have hquote : Solid quoteCode := solid_iff.mpr (by decide)
  have hbar : Solid barCode := solid_iff.mpr (by decide)
  exact solid_encodeChar hbar (solid_encodeChar hquote h)

theorem quote_notMem_escapeWord (word : List Char) : '\x22' ∉ escapeWord word := fun h =>
  (mem_encodeChar h).elim (by decide) (notMem_encodeChar (by decide))

theorem bar_notMem_escapeWord (word : List Char) : '|' ∉ escapeWord word :=
  notMem_encodeChar (by decide)

/-- What is written already is written as it is. -/
theorem escapeWord_escapeWord (word : List Char) :
    escapeWord (escapeWord word) = escapeWord word := by
  rw [escapeWord, encodeChar_eq_self (quote_notMem_escapeWord word),
    encodeChar_eq_self (bar_notMem_escapeWord word)]

/-- A text with single spaces is its words. -/
theorem singleSpaced_eq (text : List Char) : singleSpaced text = spaced (words text) :=
  trim_collapse text

/-- **The label of an edge**, word by word. -/
theorem toList_escapeEdgeLabel (text : String) :
    (escapeEdgeLabel text).toList = spaced ((words text.toList).map escapeWord) := by
  rw [escapeEdgeLabel, String.toList_ofList, singleSpaced_eq, encodeChar_spaced (by decide),
    encodeChar_spaced (by decide), List.map_map]
  rfl

/-- The words of a label are those of its text, as they are written. -/
theorem solid_of_mem_map_escapeWord (text : List Char) :
    ∀ w ∈ (words text).map escapeWord, Solid w := by
  intro w hw
  obtain ⟨word, hword, rfl⟩ := List.mem_map.mp hw
  exact solid_escapeWord (solid_of_mem_words hword)

/-- What stands in words with spaces between them stands in one of the words. -/
theorem infix_spaced_iff {ws : List (List Char)} (hne : word ≠ []) (hspace : ' ' ∉ word) :
    word <:+: spaced ws ↔ ∃ w ∈ ws, word <:+: w := by
  induction ws with
  | nil => simpa using hne
  | cons first ws ih =>
    cases ws with
    | nil => simp
    | cons next ws =>
      rw [spaced_cons_cons, infix_append_cons_iff hspace, ih]
      simp only [List.exists_mem_cons_iff]

/-- Writing blanks as single spaces brings no word in. -/
theorem infix_of_infix_singleSpaced (hne : word ≠ []) (hspace : ' ' ∉ word)
    (h : word <:+: singleSpaced text) : word <:+: text := by
  rw [singleSpaced_eq, infix_spaced_iff hne hspace] at h
  obtain ⟨w, hw, hword⟩ := h
  exact hword.trans (infix_of_mem_words hw)

/-- A label of an edge holds neither of the characters that have codes. -/
theorem mark_notMem_escapeEdgeLabel (text : String) :
    '\x22' ∉ (escapeEdgeLabel text).toList ∧ '|' ∉ (escapeEdgeLabel text).toList := by
  have hlabel : (escapeEdgeLabel text).toList = escapeWord (singleSpaced text.toList) :=
    String.toList_ofList
  rw [hlabel]
  exact ⟨quote_notMem_escapeWord _, bar_notMem_escapeWord _⟩

/-- The label of an edge is its own label. -/
theorem escapeEdgeLabel_escapeEdgeLabel (text : String) :
    escapeEdgeLabel (escapeEdgeLabel text) = escapeEdgeLabel text := by
  have hagain : escapeWord ∘ escapeWord = escapeWord := funext escapeWord_escapeWord
  rw [← String.toList_inj, toList_escapeEdgeLabel, toList_escapeEdgeLabel,
    words_spaced (solid_of_mem_map_escapeWord _), List.map_map, hagain]

/-- **Texts without codes** that have the same label on an edge are the same but for their blanks.
-/
theorem singleSpaced_eq_of_escapeEdgeLabel_eq {s t : String}
    (hs : ¬quoteCode <:+: s.toList ∧ ¬barCode <:+: s.toList)
    (ht : ¬quoteCode <:+: t.toList ∧ ¬barCode <:+: t.toList)
    (h : escapeEdgeLabel s = escapeEdgeLabel t) :
    singleSpaced s.toList = singleSpaced t.toList := by
  have hquote : ∀ text : List Char, ¬quoteCode <:+: text → ¬quoteCode <:+: singleSpaced text :=
    fun text => mt (infix_of_infix_singleSpaced (by decide) (by decide))
  have hbar : ∀ text : List Char, ¬barCode <:+: text →
      ¬barCode <:+: encodeChar '\x22' quoteCode (singleSpaced text) := by
    intro text htext hcode
    exact htext (infix_of_infix_singleSpaced (by decide) (by decide)
      (infix_of_infix_encodeChar (by decide) (by decide) (by decide) (by decide) hcode))
  have hwritten := String.ofList_injective h
  exact encodeChar_inj (by decide) (hquote _ hs.1) (hquote _ ht.1)
    (encodeChar_inj (by decide) (hbar _ hs.2) (hbar _ ht.2) hwritten)

/-! ### What is known of a label -/

/-- **Labels are safe and stable, and they keep their text.** The label of an edge holds neither a
double quote nor a bar, it stands on one line, and its only blanks are single spaces between other
characters; it is its own label. Two texts without entity codes that have the same label on an edge
are the same once every run of blanks is one space and none is at the ends: they have the same
words. The label of a node holds no double quote, it is its own label, and two texts without the
code of the quote that have the same label on a node are the same. -/
theorem labels_faithful (s t : String) :
    ('\x22' ∉ (escapeEdgeLabel s).toList ∧ '|' ∉ (escapeEdgeLabel s).toList ∧
      SingleLine (escapeEdgeLabel s).toList ∧ IsSpaced (escapeEdgeLabel s).toList ∧
      escapeEdgeLabel (escapeEdgeLabel s) = escapeEdgeLabel s) ∧
    ((∀ text ∈ [s, t], ¬"#quot;".toList <:+: text.toList ∧ ¬"#124;".toList <:+: text.toList) →
      escapeEdgeLabel s = escapeEdgeLabel t →
      singleSpaced s.toList = singleSpaced t.toList ∧ words s.toList = words t.toList) ∧
    ('\x22' ∉ (escapeLabel s).toList ∧ escapeLabel (escapeLabel s) = escapeLabel s) ∧
    ((∀ text ∈ [s, t], ¬"#quot;".toList <:+: text.toList) →
      escapeLabel s = escapeLabel t → s = t) := by
  obtain ⟨hquote, hbar⟩ := mark_notMem_escapeEdgeLabel s
  refine ⟨⟨hquote, hbar, singleLine_escapeEdgeLabel s, ?_, escapeEdgeLabel_escapeEdgeLabel s⟩,
    fun hcodes h => ?_, ⟨quote_notMem_escapeLabel s, ?_⟩, fun hcodes h => ?_⟩
  · rw [toList_escapeEdgeLabel]
    exact isSpaced_spaced (solid_of_mem_map_escapeWord s.toList)
  · have hsame := singleSpaced_eq_of_escapeEdgeLabel_eq (hcodes s (by simp)) (hcodes t (by simp)) h
    refine ⟨hsame, ?_⟩
    rw [singleSpaced_eq, singleSpaced_eq] at hsame
    rw [← words_spaced fun _ => solid_of_mem_words, hsame, words_spaced fun _ => solid_of_mem_words]
  · rw [escapeLabel, encodeChar_eq_self (quote_notMem_escapeLabel s), String.ofList_toList]
  · have hwritten := String.ofList_injective h
    exact String.toList_inj.mp
      (encodeChar_inj (by decide) (hcodes s (by simp)) (hcodes t (by simp)) hwritten)

/-- Two texts that differ in their blanks alone, with half a code before a quote and a bar. -/
theorem labels_faithful_halfway :
    let s := " #quot\"\u2003|#124 "
    let t := "#quot\" |#124"
    words s.toList = words t.toList ∧ escapeLabel s ≠ escapeLabel t ∧
      (escapeEdgeLabel s).toList.IsChain fun c d => isBlank c = true → isBlank d = false := by
  intro s t
  have hcodes : ∀ text ∈ [s, t],
      ¬"#quot;".toList <:+: text.toList ∧ ¬"#124;".toList <:+: text.toList := by
    decide
  obtain ⟨⟨-, -, -, hspaced, -⟩, hedge, -, hnode⟩ := labels_faithful s t
  obtain ⟨-, hwords⟩ := hedge hcodes (by decide)
  have hdiffer : s ≠ t := by decide
  exact ⟨hwords, fun h => hdiffer (hnode (fun text htext => (hcodes text htext).1) h),
    hspaced.single⟩

end SystemSketch.Diagram
