import SystemSketch.Proofs.Text.Search
import SystemSketch.Recognition.Pattern

/-!
# Laws of searching with patterns

A search tries a pattern at every place of a text, from left to right. It passes over what the
pattern misses, stops at the first place where the pattern hits, and the search for all matches
goes on where the match ends. Two of the patterns of recognition read what stands between an
opening and the next closing mark; for these a search cuts the text at the first occurrence of the
opening, because a closing mark behind any other occurrence stands behind the first one too.

## Main definitions

* `Pattern.Misses` — no match begins in a text.
* `Pattern.enclosed` — the pattern of a text between an opening and a closing mark.
* `Pattern.Unclosed` — no occurrence of the opening is followed by a closing mark.
* `Pattern.Cut` — how a text is cut at everything that is enclosed in it.

## Main results

* `Pattern.findFrom?_eq_none_iff`, `Pattern.findFrom?_eq_some_iff`, `Pattern.occursIn_iff` — what a
  search finds.
* `Pattern.findAllFrom_append`, `Pattern.findAllFrom_of_hit`, `Pattern.findAllFrom_eq_nil` — the
  search for all matches, one match after the other.
* `Pattern.misses_iff` — what a search has passed over stands in front of the first match.
* `Pattern.occursIn_literal_iff`, `Pattern.occursIn_mark_iff` — a word is found exactly if the text
  holds it.
* `Pattern.exists_cut` — every text can be cut at what is enclosed in it.
* `Pattern.Cut.findAllFrom` — the search for all matches finds exactly what is cut out.
-/

namespace SystemSketch.Pattern

open Text

section Search

variable {p : Pattern} {position : Nat} {front text rest : List Char} {hit : Hit}

/-- A pattern **misses** a text in front of `rest` if no match begins in it. -/
def Misses (p : Pattern) (front rest : List Char) : Prop :=
  ∀ tail, tail <:+ front → tail ≠ [] → p.hit? (tail ++ rest) = none

/-- A hit as a capture. -/
def captured (p : Pattern) (position : Nat) (hit : Hit) : Capture :=
  ⟨p.name, hit.groups.map String.ofList, position, hit.length⟩

theorem captureAt?_of_hit (h : p.hit? text = some hit) :
    p.captureAt? position text = some (p.captured position hit) := by
  rw [captureAt?, h]
  rfl

theorem captureAt?_of_miss (h : p.hit? text = none) : p.captureAt? position text = none := by
  rw [captureAt?, h]
  rfl

theorem misses_nil : p.Misses [] rest :=
  fun _ htail hne => absurd (List.suffix_nil.mp htail) hne

/-- A text is missed exactly if its first character begins no match and the others are missed. -/
theorem misses_cons_iff {c : Char} :
    p.Misses (c :: front) rest ↔ p.hit? (c :: (front ++ rest)) = none ∧ p.Misses front rest := by
  constructor
  · exact fun h => ⟨h _ List.suffix_rfl (List.cons_ne_nil c front),
      fun tail htail => h tail (htail.trans (List.suffix_cons c front))⟩
  · rintro ⟨hfirst, hrest⟩ tail htail hne
    rcases List.suffix_cons_iff.mp htail with rfl | htail
    · exact hfirst
    · exact hrest tail htail hne

/-- What is missed stands in front of the **first match**: no match begins in the text before it. -/
theorem misses_iff :
    p.Misses front rest ↔ ∀ before after, front ++ rest = before ++ after →
      (p.hit? after).isSome = true → front.length ≤ before.length := by
  constructor
  · intro h before after htext hhit
    rcases List.append_eq_append_iff.mp htext with ⟨between, rfl, -⟩ | ⟨tail, rfl, rfl⟩
    · rw [List.length_append]
      exact Nat.le_add_right _ _
    · by_cases hne : tail = []
      · rw [hne, List.append_nil]
      · rw [h tail (List.suffix_append before tail) hne] at hhit
        cases hhit
  · rintro h tail ⟨before, rfl⟩ hne
    refine Option.eq_none_iff_forall_ne_some.mpr fun hit hhit => ?_
    have hlength := h before (tail ++ rest) (List.append_assoc _ _ _) (by rw [hhit]; rfl)
    rw [List.length_append] at hlength
    exact hne (List.length_eq_zero_iff.mp (by omega))

/-! ### The first match -/

/-- A search finds the match at the front. -/
theorem findFrom?_of_hit (h : p.hit? text = some hit) :
    p.findFrom? position text = some (p.captured position hit) := by
  cases text with
  | nil => exact captureAt?_of_hit h
  | cons c text => rw [findFrom?, captureAt?_of_hit h]

/-- A search goes on behind what is missed. -/
theorem findFrom?_append (h : p.Misses front rest) :
    p.findFrom? position (front ++ rest) = p.findFrom? (position + front.length) rest := by
  induction front generalizing position with
  | nil => rfl
  | cons c front ih =>
    obtain ⟨hfirst, hrest⟩ := misses_cons_iff.mp h
    rw [List.cons_append, findFrom?, captureAt?_of_miss hfirst]
    dsimp only
    rw [ih hrest, List.length_cons, Nat.add_right_comm, Nat.add_assoc position]

/-- **Nothing is found** exactly if no end of the text begins with a match. -/
theorem findFrom?_eq_none_iff :
    p.findFrom? position text = none ↔ ∀ tail, tail <:+ text → p.hit? tail = none := by
  induction text generalizing position with
  | nil => simp [findFrom?, captureAt?]
  | cons c text ih =>
    rw [findFrom?]
    cases hfirst : p.hit? (c :: text) with
    | some hit =>
      rw [captureAt?_of_hit hfirst]
      refine iff_of_false (fun h => by cases h) fun h => ?_
      rw [h _ List.suffix_rfl] at hfirst
      cases hfirst
    | none =>
      rw [captureAt?_of_miss hfirst]
      refine ih.trans ⟨fun h tail htail => ?_, fun h tail htail =>
        h tail (htail.trans (List.suffix_cons c text))⟩
      rcases List.suffix_cons_iff.mp htail with rfl | htail
      · exact hfirst
      · exact h tail htail

/-- **What is found** is the match that begins first. -/
theorem findFrom?_eq_some_iff {capture : Capture} :
    p.findFrom? position text = some capture ↔
      ∃ front rest hit, text = front ++ rest ∧ p.Misses front rest ∧ p.hit? rest = some hit ∧
        capture = p.captured (position + front.length) hit := by
  constructor
  · intro h
    induction text generalizing position with
    | nil =>
      obtain ⟨hit, hhit, rfl⟩ := Option.map_eq_some_iff.mp h
      exact ⟨[], [], hit, rfl, misses_nil, hhit, rfl⟩
    | cons c text ih =>
      rw [findFrom?] at h
      cases hfirst : p.hit? (c :: text) with
      | some hit =>
        rw [captureAt?_of_hit hfirst] at h
        exact ⟨[], c :: text, hit, rfl, misses_nil, hfirst, (Option.some.inj h).symm⟩
      | none =>
        rw [captureAt?_of_miss hfirst] at h
        obtain ⟨front, rest, hit, rfl, hmisses, hhit, rfl⟩ := ih h
        refine ⟨c :: front, rest, hit, rfl, misses_cons_iff.mpr ⟨hfirst, hmisses⟩, hhit, ?_⟩
        rw [List.length_cons, Nat.add_right_comm, Nat.add_assoc position]
  · rintro ⟨front, rest, hit, rfl, hmisses, hhit, rfl⟩
    rw [findFrom?_append hmisses, findFrom?_of_hit hhit]

/-- **A pattern occurs** in a text exactly if some end of the text begins with a match. -/
theorem occursIn_iff {text : String} :
    p.occursIn text = true ↔
      ∃ front tail, text.toList = front ++ tail ∧ (p.hit? tail).isSome = true := by
  rw [occursIn, find?]
  constructor
  · intro h
    obtain ⟨capture, hfound⟩ := Option.isSome_iff_exists.mp h
    obtain ⟨front, tail, hit, htext, -, hhit, -⟩ := findFrom?_eq_some_iff.mp hfound
    exact ⟨front, tail, htext, by rw [hhit]; rfl⟩
  · rintro ⟨front, tail, htext, hhit⟩
    by_contra hnone
    rw [Bool.not_eq_true, Option.isSome_eq_false_iff, Option.isNone_iff_eq_none] at hnone
    rw [findFrom?_eq_none_iff.mp hnone tail ⟨front, htext.symm⟩] at hhit
    cases hhit

/-! ### All matches -/

/-- A search for all matches goes on behind what is missed. -/
theorem findAllFrom_append (h : p.Misses front rest) :
    p.findAllFrom position 0 (front ++ rest) = p.findAllFrom (position + front.length) 0 rest := by
  induction front generalizing position with
  | nil => rfl
  | cons c front ih =>
    obtain ⟨hfirst, hrest⟩ := misses_cons_iff.mp h
    rw [List.cons_append, findAllFrom, captureAt?_of_miss hfirst]
    dsimp only
    rw [ih hrest, List.length_cons, Nat.add_right_comm, Nat.add_assoc position]

/-- What belongs to a match is passed over. -/
theorem findAllFrom_length (matched rest : List Char) :
    p.findAllFrom position matched.length (matched ++ rest) =
      p.findAllFrom (position + matched.length) 0 rest := by
  induction matched generalizing position with
  | nil => rfl
  | cons c matched ih =>
    rw [List.length_cons, List.cons_append, findAllFrom, ih, Nat.add_right_comm,
      Nat.add_assoc position]

/-- **After a match** the search goes on behind it. -/
theorem findAllFrom_of_hit {matched : List Char} (h : p.hit? (matched ++ rest) = some hit)
    (hlength : hit.length = matched.length) (hne : matched ≠ []) :
    p.findAllFrom position 0 (matched ++ rest) =
      p.captured position hit :: p.findAllFrom (position + matched.length) 0 rest := by
  obtain ⟨c, tail, rfl⟩ := List.exists_cons_of_ne_nil hne
  rw [List.cons_append] at h ⊢
  have hskip : (p.captured position hit).length - 1 = tail.length := by
    rw [captured, hlength, List.length_cons, Nat.add_sub_cancel]
  rw [findAllFrom, captureAt?_of_hit h]
  dsimp only
  rw [hskip, findAllFrom_length, List.length_cons, Nat.add_right_comm, Nat.add_assoc position]

/-- **There is no match** if no end of the text begins with one. -/
theorem findAllFrom_eq_nil (h : ∀ tail, tail <:+ text → p.hit? tail = none) :
    p.findAllFrom position 0 text = [] := by
  have hmisses : p.Misses text [] := fun tail htail _ => by
    rw [List.append_nil]
    exact h tail htail
  have hend := h [] List.nil_suffix
  rw [← List.append_nil text, findAllFrom_append hmisses, findAllFrom, captureAt?_of_miss hend]
  rfl

end Search

/-! ### Words -/

/-- A word is hit exactly where it stands. -/
theorem isSome_hit?_literal {name word : String} {text : List Char} :
    ((literal name word).hit? text).isSome = true ↔ word.toList <+: text := by
  rw [literal, reading, Option.isSome_map, Option.isSome_map, isSome_after?_iff]

/-- A mark is hit exactly where its word stands. -/
theorem isSome_hit?_mark {name word : String} {text : List Char} :
    ((mark name word).hit? text).isSome = true ↔ word.toList <+: text := by
  rw [mark, reading, Option.isSome_map, Option.isSome_map, isSome_after?_iff]

/-- A pattern that is hit exactly where a word stands is found exactly if the text holds it. -/
theorem occursIn_iff_infix {p : Pattern} {word : List Char} {text : String}
    (hword : ∀ tail, (p.hit? tail).isSome = true ↔ word <+: tail) :
    p.occursIn text = true ↔ word <:+: text.toList := by
  rw [occursIn_iff]
  constructor
  · rintro ⟨front, tail, htext, hhit⟩
    rw [htext]
    exact ((hword tail).mp hhit).isInfix.trans (List.suffix_append front tail).isInfix
  · rintro ⟨front, rest, htext⟩
    exact ⟨front, word ++ rest, htext ▸ List.append_assoc _ _ _,
      (hword _).mpr (List.prefix_append word rest)⟩

/-- **A word is found** exactly if the text holds it. -/
theorem occursIn_literal_iff {name word text : String} :
    (literal name word).occursIn text = true ↔ word.toList <:+: text.toList :=
  occursIn_iff_infix fun _ => isSome_hit?_literal

/-- **A mark is found** exactly if the text holds its word. -/
theorem occursIn_mark_iff {name word text : String} :
    (mark name word).occursIn text = true ↔ word.toList <:+: text.toList :=
  occursIn_iff_infix fun _ => isSome_hit?_mark

/-! ### What is enclosed between two marks -/

/-- The pattern of a text that stands between `opening` and the next `closing` mark. -/
def enclosed (name : String) (opening : List Char) (closing : Char) : Pattern :=
  .reading name fun text => do
    let rest ← after? opening text
    match rest.dropWhile (· != closing) with
    | [] => none
    | _ :: after => some ([rest.takeWhile (· != closing)], after)

/-- An opening is **unclosed** in a text if no closing mark stands behind any of its occurrences. -/
def Unclosed (opening : List Char) (closing : Char) (text : List Char) : Prop :=
  ∀ before after, text = before ++ opening ++ after → closing ∉ after

instance (opening : List Char) (closing : Char) (text : List Char) :
    Decidable (Unclosed opening closing text) :=
  decidable_of_iff (∀ tail ∈ text.tails, ∀ after ∈ after? opening tail, closing ∉ after) <| by
    constructor
    · rintro h before after rfl
      refine h (opening ++ after) ?_ after (after?_append opening after)
      rw [List.append_assoc, List.mem_tails]
      exact List.suffix_append before _
    · intro h tail htail after hafter
      obtain ⟨before, rfl⟩ := List.mem_tails tail text |>.mp htail
      refine h before after ?_
      rw [after?_eq_some_iff.mp hafter, List.append_assoc]

/-- **How a text is cut** at what is enclosed in it: the opening stands behind a gap for the first
time, what is enclosed holds no closing mark, and what follows the closing mark is cut in the same
way. The rest of the text behind the last cut has no closing mark behind an opening. -/
inductive Cut (opening : List Char) (closing : Char) : List Char → List (List Char) → Prop
  | rest {text : List Char} : Unclosed opening closing text → Cut opening closing text []
  | inner {gap mid text : List Char} {inners : List (List Char)} :
      FirstBehind opening gap → closing ∉ mid → Cut opening closing text inners →
        Cut opening closing (gap ++ opening ++ mid ++ closing :: text) (mid :: inners)

section Enclosed

variable {name : String} {opening : List Char} {closing : Char} {position : Nat}
  {front mid rest text : List Char}

/-- A character in front of the closing mark is another one. -/
theorem ne_closing (h : closing ∉ mid) : ∀ c ∈ mid, (c != closing) = true := by
  intro c hc
  rw [bne_iff_ne]
  rintro rfl
  exact h hc

/-- **A hit** is the opening, a text without the closing mark, and the closing mark. -/
theorem hit?_enclosed (name : String) (opening : List Char) (hmid : closing ∉ mid)
    (after : List Char) :
    (enclosed name opening closing).hit? (opening ++ mid ++ closing :: after) =
      some ⟨[mid], opening.length + mid.length + 1⟩ := by
  have hclosing : (closing != closing) = false := bne_self_eq_false closing
  have hlength : (opening ++ (mid ++ closing :: after)).length - after.length =
      opening.length + mid.length + 1 := by
    simp only [List.length_append, List.length_cons]
    omega
  simp only [enclosed, reading, List.append_assoc, after?_append, Option.bind_eq_bind,
    Option.bind_some, dropWhile_append_cons (ne_closing hmid) hclosing,
    takeWhile_append_cons (ne_closing hmid) hclosing, Option.map_some, hlength]

/-- There is no hit where the opening does not stand, or no closing mark behind it. -/
theorem hit?_enclosed_eq_none (name : String)
    (h : ∀ after, text = opening ++ after → closing ∉ after) :
    (enclosed name opening closing).hit? text = none := by
  simp only [enclosed, reading, Option.map_eq_none_iff, Option.bind_eq_bind,
    Option.bind_eq_none_iff]
  intro after hafter
  have hclosing := h after (after?_eq_some_iff.mp hafter)
  rw [List.dropWhile_eq_nil_iff.mpr (ne_closing hclosing)]

/-- The opening begins nowhere in front of its first occurrence. -/
theorem misses_enclosed (name : String) (closing : Char) (h : FirstBehind opening front)
    (rest : List Char) : (enclosed name opening closing).Misses front (opening ++ rest) := by
  intro tail htail hne
  refine hit?_enclosed_eq_none name fun after hafter => ?_
  have hopening : opening <+: tail ++ (opening ++ rest) := hafter ▸ List.prefix_append _ after
  rw [← List.append_assoc] at hopening
  have hshort : opening <+: tail ++ opening :=
    List.prefix_of_prefix_length_le hopening (List.prefix_append _ rest)
      (by rw [List.length_append]; omega)
  exact absurd hshort (firstBehind_iff.mp h tail htail hne)

/-- Where an enclosed text is found **first**. -/
theorem findFrom?_enclosed (hfront : FirstBehind opening front) (hmid : closing ∉ mid)
    (after : List Char) :
    (enclosed name opening closing).findFrom? position
        (front ++ opening ++ mid ++ closing :: after) =
      some ⟨name, [String.ofList mid], position + front.length,
        opening.length + mid.length + 1⟩ := by
  have hhit := hit?_enclosed name opening hmid after
  rw [List.append_assoc] at hhit
  rw [List.append_assoc, List.append_assoc,
    findFrom?_append (misses_enclosed name closing hfront _), findFrom?_of_hit hhit]
  rfl

/-- The search for all enclosed texts goes on **behind the closing mark**. -/
theorem findAllFrom_enclosed (hfront : FirstBehind opening front) (hmid : closing ∉ mid)
    (after : List Char) :
    (enclosed name opening closing).findAllFrom position 0
        (front ++ opening ++ mid ++ closing :: after) =
      ⟨name, [String.ofList mid], position + front.length, opening.length + mid.length + 1⟩ ::
        (enclosed name opening closing).findAllFrom
          (position + front.length + (opening.length + mid.length + 1)) 0 after := by
  have hhit := hit?_enclosed name opening hmid after
  have hlength : (opening ++ mid ++ [closing]).length = opening.length + mid.length + 1 := by
    simp only [List.length_append, List.length_singleton]
  rw [List.append_cons (opening ++ mid)] at hhit
  rw [List.append_assoc, List.append_assoc,
    findAllFrom_append (misses_enclosed name closing hfront _), ← List.append_assoc,
    List.append_cons (opening ++ mid),
    findAllFrom_of_hit hhit hlength.symm (List.append_ne_nil_of_right_ne_nil _ (by simp)), hlength]
  rfl

/-- An opening is unclosed if no closing mark stands behind its first occurrence. -/
theorem unclosed_of_firstBehind (h : FirstBehind opening front) (hrest : closing ∉ rest) :
    Unclosed opening closing (front ++ opening ++ rest) := by
  intro before after htext hafter
  exact hrest ((h.suffix htext).subset hafter)

/-- An unclosed opening begins no match. -/
theorem Unclosed.hit?_eq_none (h : Unclosed opening closing text) (name : String)
    {tail : List Char} (htail : tail <:+ text) :
    (enclosed name opening closing).hit? tail = none := by
  obtain ⟨before, rfl⟩ := htail
  refine hit?_enclosed_eq_none name fun after hafter => h before after ?_
  rw [hafter, List.append_assoc]

/-! ### Cutting a text -/

/-- **Every text is cut** in some way. -/
theorem exists_cut (opening : List Char) (closing : Char) (text : List Char) :
    ∃ inners, Cut opening closing text inners := by
  -- The text behind a closing mark is shorter.
  induction hn : text.length using Nat.strong_induction_on generalizing text with
  | _ n ih =>
    by_cases h : Unclosed opening closing text
    · exact ⟨[], .rest h⟩
    · simp only [Unclosed, not_forall, not_not] at h
      obtain ⟨before, after, htext, hafter⟩ := h
      have hinfix : opening <:+: text := ⟨before, after, htext.symm⟩
      obtain ⟨gap, rest, rfl, hgap⟩ := exists_firstBehind hinfix
      obtain ⟨mid, later, rfl, hmid⟩ :=
        List.eq_append_cons_of_mem ((hgap.suffix htext).subset hafter)
      obtain ⟨inners, hinners⟩ := ih later.length
        (by rw [← hn]; simp only [List.length_append, List.length_cons]; omega) later rfl
      refine ⟨mid :: inners, ?_⟩
      rw [← List.append_assoc]
      exact .inner hgap hmid hinners

/-- **All matches** of a text are what is cut out of it, in order. -/
theorem Cut.findAllFrom {inners : List (List Char)} (h : Cut opening closing text inners)
    (name : String) (position : Nat) :
    ((enclosed name opening closing).findAllFrom position 0 text).map Capture.value =
      inners.map String.ofList := by
  induction h generalizing position with
  | rest hunclosed =>
    rw [findAllFrom_eq_nil fun _ htail => hunclosed.hit?_eq_none name htail]
    rfl
  | inner hgap hmid _ ih =>
    rw [findAllFrom_enclosed hgap hmid, List.map_cons, List.map_cons, ih]
    rfl

end Enclosed

end SystemSketch.Pattern
