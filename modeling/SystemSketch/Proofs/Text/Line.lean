import Mathlib.Data.List.Basic
import Mathlib.Data.List.TakeWhile
import SystemSketch.Text.Blank
import SystemSketch.Text.Case
import SystemSketch.Text.Line
import SystemSketch.Text.Word

/-!
# Laws of lines and blanks

A text is read line by line, and each line without the blanks at its ends. Both steps undo what
writing does: lines that hold no break are the lines of what they are written as, and blanks in
front of a line that begins and ends with something else are cut off again.

## Main definitions

* `SingleLine` — text without line breaks.
* `IsTrimmed` — what is left of a text that is cut at both ends.

## Main results

* `isPlainWord_iff`, `isWord_of_isPlainWord`, `isBlank_of_isWord` — how the classes of characters
  lie to each other; `foldCase_cases` — what ignoring case can do.
* `trim_append`, `trim_eq_self` — blanks in front of a text are cut off, and nothing else is.
* `trimBoth_ends`, `isTrimmed_iff` — what cutting at both ends leaves.
* `mem_collapse`, `collapse_eq_self` — what is left of the runs of a class.
* `lines_unlines` — lines without breaks are read as they were written.
* `lines_unlines_of_getLast?`, `lines_append_break`, `flatten_lines_sublist` — how lines with
  breaks are read.
* `exists_map_trim_lines` — what blanks at the end of a text bring in.
-/

namespace SystemSketch.Text

/-! ### Classes of characters -/

/-- A line break is a blank. -/
theorem isBlank_of_isLineBreak {c : Char} (h : isLineBreak c = true) : isBlank c = true := by
  simp only [isLineBreak, isBlank, Bool.or_eq_true, Bool.and_eq_true, decide_eq_true_eq,
    beq_iff_eq] at h ⊢
  omega

/-- What is no blank is no line break. -/
theorem isLineBreak_eq_false {c : Char} (h : isBlank c = false) : isLineBreak c = false := by
  rw [Bool.eq_false_iff] at h ⊢
  exact fun hbreak => h (isBlank_of_isLineBreak hbreak)

/-- The code points of plain word characters. -/
theorem isPlainWord_iff {c : Char} :
    isPlainWord c = true ↔ (48 ≤ c.toNat ∧ c.toNat ≤ 57) ∨ (65 ≤ c.toNat ∧ c.toNat ≤ 90) ∨
      c.toNat = 95 ∨ (97 ≤ c.toNat ∧ c.toNat ≤ 122) := by
  change ((decide (c.val ≥ 'A'.val ∧ c.val ≤ 'Z'.val) || (c.val ≥ 'a'.val && c.val ≤ 'z'.val)) ||
    (c.val ≥ '0'.val && c.val ≤ '9'.val) || c == '_') = true ↔ _
  simp only [Bool.or_eq_true, Bool.and_eq_true, decide_eq_true_eq, beq_iff_eq, ge_iff_le,
    UInt32.le_iff_toNat_le, ← Char.toNat_inj]
  change (((65 ≤ c.toNat ∧ c.toNat ≤ 90) ∨ (97 ≤ c.toNat ∧ c.toNat ≤ 122)) ∨
    (48 ≤ c.toNat ∧ c.toNat ≤ 57)) ∨ c.toNat = 95 ↔ _
  omega

/-- A plain word character is a word character. -/
theorem isWord_of_isPlainWord {c : Char} (h : isPlainWord c = true) : isWord c = true := by
  have hc := isPlainWord_iff.mp h
  rw [isPlainWord_isWord (by omega), h]

/-- A blank is no word character. -/
theorem isWord_eq_false_of_isBlank {c : Char} (h : isBlank c = true) : isWord c = false := by
  have hhigh : ∀ n ∈ [0x85, 0xA0, 0x1680, 0x2000, 0x2001, 0x2002, 0x2003, 0x2004, 0x2005, 0x2006,
      0x2007, 0x2008, 0x2009, 0x200A, 0x2028, 0x2029, 0x202F, 0x205F, 0x3000],
      inRanges wordRanges n = false := by decide +kernel
  simp only [isBlank, Bool.or_eq_true, Bool.and_eq_true, decide_eq_true_eq, beq_iff_eq] at h
  by_cases hascii : c.toNat < 0x80
  · rw [isPlainWord_isWord hascii, Bool.eq_false_iff]
    intro hplain
    have hcode := isPlainWord_iff.mp hplain
    omega
  · rw [isWord, if_neg hascii]
    refine hhigh c.toNat ?_
    simp only [List.mem_cons, List.not_mem_nil, or_false]
    omega

/-- A word character is no blank. -/
theorem isBlank_of_isWord {c : Char} (h : isWord c = true) : isBlank c = false := by
  rw [Bool.eq_false_iff]
  intro hblank
  rw [isWord_eq_false_of_isBlank hblank] at h
  exact Bool.noConfusion h

/-- A plain word character is no blank. -/
theorem isBlank_of_isPlainWord {c : Char} (h : isPlainWord c = true) : isBlank c = false :=
  isBlank_of_isWord (isWord_of_isPlainWord h)

/-- A line break is no word character. -/
theorem isWord_eq_false_of_isLineBreak {c : Char} (h : isLineBreak c = true) :
    isWord c = false :=
  isWord_eq_false_of_isBlank (isBlank_of_isLineBreak h)

/-- A capital letter becomes a small one, and every other character stays as it is. -/
theorem toLower_cases (c : Char) :
    c.toLower = c ∨ (isPlainWord c.toLower = true ∧ isPlainWord c = true) := by
  unfold Char.toLower
  split
  · next h =>
    have hlow : 65 ≤ c.toNat := h.1
    have hhigh : c.toNat ≤ 90 := h.2
    have hcode : (c.val + 32).toNat = c.toNat + 32 := by
      rw [UInt32.toNat_add]
      exact Nat.mod_eq_of_lt (by omega : c.toNat + 32 < 2 ^ 32)
    refine Or.inr ⟨isPlainWord_iff.mpr ?_, isPlainWord_iff.mpr (by omega)⟩
    have hsmall : 97 ≤ (c.val + 32).toNat ∧ (c.val + 32).toNat ≤ 122 := by omega
    exact Or.inr (Or.inr (Or.inr hsmall))
  · exact Or.inl rfl

/-- **Ignoring case** makes a letter of some characters that are no blanks, and leaves all others as
they are. -/
theorem foldCase_cases (c : Char) :
    foldCase c = c ∨ (isPlainWord (foldCase c) = true ∧ isBlank c = false) := by
  rw [foldCase]
  split
  · next h =>
    obtain rfl := beq_iff_eq.mp h
    exact Or.inr (by decide)
  · split
    · next h =>
      rw [Bool.or_eq_true, beq_iff_eq, beq_iff_eq] at h
      rcases h with rfl | rfl <;> exact Or.inr (by decide)
    · split
      · next h =>
        obtain rfl := beq_iff_eq.mp h
        exact Or.inr (by decide)
      · exact (toLower_cases c).imp_right fun ⟨hsmall, hc⟩ => ⟨hsmall, isBlank_of_isPlainWord hc⟩

/-! ### Text without the characters at its ends -/

/-- **What is cut off at the end** lies in the second part, unless nothing is left of that. -/
theorem dropEndWhile_append (p : Char → Bool) (front rest : List Char) :
    dropEndWhile p (front ++ rest) =
      if dropEndWhile p rest = [] then dropEndWhile p front else front ++ dropEndWhile p rest := by
  simp only [dropEndWhile, List.reverse_append, List.dropWhile_append, List.reverse_eq_nil_iff,
    List.isEmpty_iff]
  split
  · rfl
  · rw [List.reverse_append, List.reverse_reverse]

/-- What is cut off at the end stops at the last character of another class. -/
theorem dropEndWhile_append_cons {p : Char → Bool} {c : Char} (front rest : List Char)
    (hc : p c = false) :
    dropEndWhile p (front ++ c :: rest) = front ++ c :: dropEndWhile p rest := by
  have hend : dropEndWhile p (front ++ [c]) = front ++ [c] := by simp [dropEndWhile, hc]
  rw [List.append_cons, dropEndWhile_append, hend]
  split
  · next hnil => rw [hnil]
  · rw [← List.append_cons]

/-- A text that ends in another character keeps its end. -/
theorem dropEndWhile_eq_self {p : Char → Bool} {text : List Char}
    (h : ∀ c ∈ text.getLast?, p c = false) : dropEndWhile p text = text := by
  rcases List.eq_nil_or_concat text with rfl | ⟨front, c, rfl⟩
  · rfl
  · rw [List.concat_eq_append] at h ⊢
    exact dropEndWhile_append_cons front [] (h c (by simp))

/-- Cutting at the end takes off characters of the class, and nothing else. -/
theorem exists_dropEndWhile_append (p : Char → Bool) (text : List Char) :
    ∃ tail, dropEndWhile p text ++ tail = text ∧ ∀ c ∈ tail, p c = true := by
  refine ⟨(text.reverse.takeWhile p).reverse, ?_, fun c hc => ?_⟩
  · rw [dropEndWhile, ← List.reverse_append, List.takeWhile_append_dropWhile, List.reverse_reverse]
  · exact List.mem_takeWhile_imp (List.mem_reverse.mp hc)

/-- Cutting at the end leaves the front of the text. -/
theorem prefix_dropEndWhile (p : Char → Bool) (text : List Char) :
    dropEndWhile p text <+: text := by
  obtain ⟨tail, htail, -⟩ := exists_dropEndWhile_append p text
  exact ⟨tail, htail⟩

/-- Cutting at the end leaves a part of the text. -/
theorem dropEndWhile_sublist (p : Char → Bool) (text : List Char) :
    (dropEndWhile p text).Sublist text :=
  (prefix_dropEndWhile p text).sublist

/-- Cutting at both ends leaves a part of the text. -/
theorem trimBoth_sublist (p : Char → Bool) (text : List Char) :
    (trimBoth p text).Sublist text :=
  (dropEndWhile_sublist p _).trans (List.dropWhile_sublist p)

/-- What begins after cutting at the front is of another class. -/
theorem head?_dropWhile (p : Char → Bool) (text : List Char) :
    ∀ c ∈ (text.dropWhile p).head?, p c = false := by
  intro c hc
  have hnot := List.head?_dropWhile_not p text
  rw [Option.mem_def.mp hc] at hnot
  exact hnot

/-- What is left after cutting at the end ends with a character of another class. -/
theorem getLast?_dropEndWhile (p : Char → Bool) (text : List Char) :
    ∀ c ∈ (dropEndWhile p text).getLast?, p c = false := by
  intro c hc
  rw [dropEndWhile, List.getLast?_reverse] at hc
  exact head?_dropWhile p text.reverse c hc

/-- **What is left** after cutting at both ends begins and ends with characters of another class. -/
theorem trimBoth_ends (p : Char → Bool) (text : List Char) :
    (∀ c ∈ (trimBoth p text).head?, p c = false) ∧
      ∀ c ∈ (trimBoth p text).getLast?, p c = false := by
  refine ⟨fun c hc => ?_, getLast?_dropEndWhile p _⟩
  -- what is cut off at the end is not the first character
  obtain ⟨rest, hrest⟩ := prefix_dropEndWhile p (text.dropWhile p)
  refine head?_dropWhile p text c ?_
  rw [← hrest, List.head?_append]
  exact Option.or_eq_some_iff.mpr (Or.inl hc)

/-- Characters of the class in front of a text are cut off. -/
theorem trimBoth_append_left {p : Char → Bool} {front : List Char} (h : ∀ c ∈ front, p c = true)
    (text : List Char) : trimBoth p (front ++ text) = trimBoth p text := by
  rw [trimBoth, List.dropWhile_append_of_pos h, ← trimBoth]

/-- Characters of the class at the end of a text are cut off. -/
theorem dropEndWhile_append_right {p : Char → Bool} {back : List Char} (h : ∀ c ∈ back, p c = true)
    (text : List Char) : dropEndWhile p (text ++ back) = dropEndWhile p text := by
  rw [dropEndWhile, List.reverse_append,
    List.dropWhile_append_of_pos fun c hc => h c (List.mem_reverse.mp hc), ← dropEndWhile]

/-- **Characters of the class at either end** mean nothing when a text is cut at both ends. -/
theorem trimBoth_append {p : Char → Bool} {front back : List Char}
    (hfront : ∀ c ∈ front, p c = true)
    (hback : ∀ c ∈ back, p c = true) (text : List Char) :
    trimBoth p (front ++ text ++ back) = trimBoth p text := by
  rw [List.append_assoc, trimBoth_append_left hfront, trimBoth, List.dropWhile_append]
  split
  · next hempty =>
    rw [List.dropWhile_eq_nil_iff.mpr hback, trimBoth, List.isEmpty_iff.mp hempty]
  · rw [dropEndWhile_append_right hback, ← trimBoth]

/-- A text that begins and ends with characters of another class is left as it is. -/
theorem trimBoth_eq_self {p : Char → Bool} {text : List Char}
    (hhead : ∀ c ∈ text.head?, p c = false) (hlast : ∀ c ∈ text.getLast?, p c = false) :
    trimBoth p text = text := by
  cases text with
  | nil => rfl
  | cons c text =>
    have hc : p c = false := hhead c rfl
    have hstop : (c :: text).dropWhile p = c :: text :=
      List.dropWhile_cons_of_neg (by rw [hc]; exact Bool.false_ne_true)
    rw [trimBoth, hstop, dropEndWhile_eq_self hlast]

/-- **What is left** of a text that is cut at both ends: in front of it and behind it stand only
characters of the class, and it begins and ends with characters of another one. -/
def IsTrimmed (p : Char → Bool) (text inner : List Char) : Prop :=
  ∃ front back, text = front ++ inner ++ back ∧ (∀ c ∈ front, p c = true) ∧
    (∀ c ∈ back, p c = true) ∧ (∀ c ∈ inner.head?, p c = false) ∧
    ∀ c ∈ inner.getLast?, p c = false

/-- Cutting at both ends leaves just **what is left**. -/
theorem isTrimmed_iff {p : Char → Bool} {text inner : List Char} :
    IsTrimmed p text inner ↔ inner = trimBoth p text := by
  constructor
  · rintro ⟨front, back, rfl, hfront, hback, hhead, hlast⟩
    rw [trimBoth_append hfront hback, trimBoth_eq_self hhead hlast]
  · rintro rfl
    obtain ⟨back, hcut, hback⟩ := exists_dropEndWhile_append p (text.dropWhile p)
    refine ⟨text.takeWhile p, back, ?_, fun c hc => List.mem_takeWhile_imp hc, hback,
      trimBoth_ends p text⟩
    rw [List.append_assoc, trimBoth, hcut, List.takeWhile_append_dropWhile]

/-- **Blanks in front** of a text mean nothing when it is trimmed. -/
theorem trim_append {front : List Char} (text : List Char) (h : front.all isBlank = true) :
    trim (front ++ text) = trim text :=
  trimBoth_append_left (List.all_eq_true.mp h) text

/-- Trimming keeps a character at the front that is no blank. -/
theorem trim_cons {c : Char} (text : List Char) (hc : isBlank c = false) :
    trim (c :: text) = c :: trimEnd text := by
  rw [trim, trimBoth, List.dropWhile_cons_of_neg (by rw [hc]; exact Bool.false_ne_true)]
  exact dropEndWhile_append_cons [] text hc

/-- A text without blanks at its ends is left as it is. -/
theorem trim_eq_self {text : List Char} (hhead : ∀ c ∈ text.head?, isBlank c = false)
    (hlast : ∀ c ∈ text.getLast?, isBlank c = false) : trim text = text :=
  trimBoth_eq_self hhead hlast

/-- A text that begins and ends with characters other than blanks is left as it is. -/
theorem trim_between {front back : List Char} (mid : List Char) (hfront : front ≠ [])
    (hback : back ≠ []) (hfirst : front.any isBlank = false) (hlast : back.any isBlank = false) :
    trim (front ++ (mid ++ back)) = front ++ (mid ++ back) := by
  apply trim_eq_self
  · intro c hc
    rw [List.head?_append_of_ne_nil _ hfront] at hc
    exact Bool.eq_false_iff.mpr (List.any_eq_false.mp hfirst c (List.mem_of_mem_head? hc))
  · intro c hc
    rw [← List.append_assoc, List.getLast?_append_of_ne_nil _ hback] at hc
    exact Bool.eq_false_iff.mpr (List.any_eq_false.mp hlast c (List.mem_of_getLast? hc))

/-! ### Runs -/

/-- What is left after collapsing is the mark, or a character that belongs to no run. -/
theorem mem_collapseFrom {p : Char → Bool} {mark c : Char} {inRun : Bool} {text : List Char}
    (h : c ∈ collapseFrom p mark inRun text) : c = mark ∨ (c ∈ text ∧ p c = false) := by
  induction text generalizing inRun with
  | nil => exact absurd h List.not_mem_nil
  | cons d text ih =>
    have hrest : ∀ {b : Bool}, c ∈ collapseFrom p mark b text →
        c = mark ∨ (c ∈ d :: text ∧ p c = false) := fun hmem =>
      (ih hmem).imp_right fun ⟨hc, hp⟩ => ⟨List.mem_cons_of_mem d hc, hp⟩
    rw [collapseFrom] at h
    split at h
    · split at h
      · exact hrest h
      · exact (List.mem_cons.mp h).elim Or.inl hrest
    · next hd =>
      rcases List.mem_cons.mp h with rfl | hmem
      · exact Or.inr ⟨List.mem_cons_self, Bool.eq_false_iff.mpr hd⟩
      · exact hrest hmem

/-- What is left after collapsing is the mark, or a character that belongs to no run. -/
theorem mem_collapse {p : Char → Bool} {mark c : Char} {text : List Char}
    (h : c ∈ collapse p mark text) : c = mark ∨ (c ∈ text ∧ p c = false) :=
  mem_collapseFrom h

/-- A text without characters of the class is left as it is. -/
theorem collapse_eq_self {p : Char → Bool} (mark : Char) {text : List Char}
    (h : ∀ c ∈ text, p c = false) : collapse p mark text = text := by
  rw [collapse]
  induction text with
  | nil => rfl
  | cons c text ih =>
    obtain ⟨hc, htext⟩ := List.forall_mem_cons.mp h
    rw [collapseFrom, hc, if_neg Bool.false_ne_true, ih htext]

/-! ### Lines -/

/-- A text **on one line** holds no line break. -/
def SingleLine (text : List Char) : Prop :=
  ∀ c ∈ text, isLineBreak c = false

instance (text : List Char) : Decidable (SingleLine text) :=
  List.decidableBAll (fun c => isLineBreak c = false) text

/-- Texts on one line stay on one line when they are put together. -/
theorem SingleLine.append {text rest : List Char} (h : SingleLine text) (hrest : SingleLine rest) :
    SingleLine (text ++ rest) :=
  List.forall_mem_append.mpr ⟨h, hrest⟩

/-- A text without blanks stands on one line. -/
theorem singleLine_of_isBlank {text : List Char} (h : ∀ c ∈ text, isBlank c = false) :
    SingleLine text :=
  fun c hc => isLineBreak_eq_false (h c hc)

/-- A line without breaks ends at the line feed behind it. -/
theorem lines_append_lineFeed {line : List Char} (rest : List Char) (h : SingleLine line) :
    lines (line ++ '\n' :: rest) = line :: lines rest := by
  induction line with
  | nil =>
    have hfeed : isLineBreak '\n' = true := by decide
    rw [List.nil_append, lines, if_pos hfeed]
    exact fun _ hreturn => absurd hreturn (by decide)
  | cons c line ih =>
    have hc : isLineBreak c = false := h c List.mem_cons_self
    have hreturn : c ≠ '\r' := by
      rintro rfl
      exact absurd hc (by decide)
    rw [List.cons_append, lines, hc, if_neg Bool.false_ne_true,
      ih fun d hd => h d (List.mem_cons_of_mem c hd), extendFirst]
    exact fun _ hr => absurd hr hreturn

/-- **Lines without breaks** are read as they were written. -/
theorem lines_unlines {ls : List (List Char)} (h : ∀ line ∈ ls, SingleLine line) :
    lines (unlines ls) = ls := by
  induction ls with
  | nil => rfl
  | cons line rest ih =>
    have hline := h line List.mem_cons_self
    have hrest := ih fun l hl => h l (List.mem_cons_of_mem line hl)
    rw [unlines, List.flatMap_cons, List.append_assoc, List.singleton_append,
      lines_append_lineFeed _ hline, ← unlines, hrest]

/-! ### Lines of any text -/

/-- What a character does to the lines behind it, unless it is the first half of a break. -/
theorem lines_cons {c : Char} {text : List Char} (h : c = '\r' → text.head? ≠ some '\n') :
    lines (c :: text) =
      if isLineBreak c then [] :: lines text else extendFirst c (lines text) := by
  rw [lines]
  rintro rest rfl rfl
  exact h rfl rfl

/-- A text that is not empty has a line. -/
theorem lines_ne_nil {text : List Char} (h : text ≠ []) : lines text ≠ [] := by
  fun_cases lines text with
  | case1 => exact absurd rfl h
  | case2 rest => exact List.cons_ne_nil _ _
  | case3 c rest _ hbreak => exact List.cons_ne_nil _ _
  | case4 c rest _ hbreak => cases lines rest <;> exact List.cons_ne_nil _ _

/-- A character in front is part of the first line. -/
theorem extendFirst_append {c : Char} {ls : List (List Char)} (h : ls ≠ [])
    (more : List (List Char)) : extendFirst c (ls ++ more) = extendFirst c ls ++ more := by
  obtain ⟨line, rest, rfl⟩ := List.exists_cons_of_ne_nil h
  rfl

/-- What a character does to the lines behind it does not depend on what is appended, unless that
completes the break that the character begins. -/
theorem lines_cons_append {c : Char} {text : List Char} (more : List Char)
    (hlast : (c :: text).getLast? ≠ some '\r')
    (hpair : ∀ rest, c = '\r' → text = '\n' :: rest → False) :
    lines (c :: (text ++ more)) =
      if isLineBreak c then [] :: lines (text ++ more)
      else extendFirst c (lines (text ++ more)) := by
  refine lines_cons fun hc => ?_
  cases text with
  | nil => exact absurd (congrArg some hc) hlast
  | cons d text =>
    intro hd
    obtain rfl : d = '\n' := Option.some.inj hd
    exact hpair text hc rfl

/-- **A line feed ends a text**, whatever breaks the text holds, unless it completes one. -/
theorem lines_append_lineFeed_of_getLast? {text : List Char} (rest : List Char)
    (h : text.getLast? ≠ some '\r') :
    lines (text ++ '\n' :: rest) = lines (text ++ ['\n']) ++ lines rest := by
  have hlast : ∀ {c : Char} {text : List Char}, (c :: text).getLast? ≠ some '\r' →
      text.getLast? ≠ some '\r' := by
    intro c text hne heq
    rw [List.getLast?_cons, heq] at hne
    exact hne rfl
  fun_induction lines text with
  | case1 =>
    have hempty : SingleLine [] := fun _ hc => absurd hc List.not_mem_nil
    exact lines_append_lineFeed rest hempty
  | case2 text ih => simp only [List.cons_append, lines, ih (hlast (hlast h))]
  | case3 c text hpair hbreak ih =>
    rw [List.cons_append, List.cons_append, lines_cons_append _ h hpair,
      lines_cons_append _ h hpair, if_pos hbreak, if_pos hbreak, ih (hlast h), List.cons_append]
  | case4 c text hpair hbreak ih =>
    have hne : lines (text ++ ['\n']) ≠ [] :=
      lines_ne_nil (List.append_ne_nil_of_right_ne_nil _ (List.cons_ne_nil _ _))
    rw [List.cons_append, List.cons_append, lines_cons_append _ h hpair,
      lines_cons_append _ h hpair, if_neg hbreak, if_neg hbreak, ih (hlast h),
      extendFirst_append hne]

/-- The characters of the lines stand in the text, in their order. -/
theorem flatten_lines_sublist (text : List Char) : (lines text).flatten.Sublist text := by
  fun_induction lines text with
  | case1 => exact List.Sublist.refl _
  | case2 rest ih => exact (ih.cons _).cons _
  | case3 c rest _ hbreak ih => exact ih.cons c
  | case4 c rest _ hbreak ih =>
    have hfirst : ∀ ls : List (List Char), (extendFirst c ls).flatten = c :: ls.flatten := by
      intro ls
      cases ls <;> rfl
    rw [hfirst]
    exact ih.cons_cons c

/-- **A break ends a line** without breaks. What is read next is the rest of the text, or the rest
without the line feed that belongs to the break. -/
theorem lines_append_break {line : List Char} {b : Char} (rest : List Char) (h : SingleLine line)
    (hb : isLineBreak b = true) :
    ∃ rest', rest'.Sublist rest ∧ lines (line ++ b :: rest) = line :: lines rest' := by
  induction line with
  | nil =>
    by_cases hpair : b = '\r' ∧ rest.head? = some '\n'
    · obtain ⟨rfl, hfeed⟩ := hpair
      obtain ⟨rest', rfl⟩ : ∃ rest', rest = '\n' :: rest' := by
        rw [List.head?_eq_some_iff] at hfeed
        exact hfeed
      exact ⟨rest', List.sublist_cons_self _ _, rfl⟩
    · refine ⟨rest, List.Sublist.refl _, ?_⟩
      rw [List.nil_append, lines_cons fun hreturn hfeed => hpair ⟨hreturn, hfeed⟩, if_pos hb]
  | cons c line ih =>
    obtain ⟨hc, hline⟩ := List.forall_mem_cons.mp h
    obtain ⟨rest', hsub, hlines⟩ := ih hline
    have hreturn : c ≠ '\r' := by
      rintro rfl
      exact absurd hc (by decide)
    refine ⟨rest', hsub, ?_⟩
    rw [List.cons_append, lines_cons fun h => absurd h hreturn, hc, if_neg Bool.false_ne_true,
      hlines, extendFirst]

/-- A text that does not stand on one line has a first break. -/
theorem exists_break_of_not_singleLine {text : List Char} (h : ¬SingleLine text) :
    ∃ line b rest, text = line ++ b :: rest ∧ SingleLine line ∧ isLineBreak b = true := by
  induction text with
  | nil => exact absurd (fun _ hc => absurd hc List.not_mem_nil) h
  | cons c text ih =>
    by_cases hc : isLineBreak c = true
    · exact ⟨[], c, text, rfl, fun _ hd => absurd hd List.not_mem_nil, hc⟩
    · rw [Bool.not_eq_true] at hc
      have htext : ¬SingleLine text := fun hall => h (List.forall_mem_cons.mpr ⟨hc, hall⟩)
      obtain ⟨line, b, rest, rfl, hline, hb⟩ := ih htext
      exact ⟨c :: line, b, rest, rfl, List.forall_mem_cons.mpr ⟨hc, hline⟩, hb⟩

/-- **Lines that may hold breaks**, written one under the other, are read one after the other, each
as its own lines. -/
theorem lines_unlines_of_getLast? {ls : List (List Char)}
    (h : ∀ line ∈ ls, line.getLast? ≠ some '\r') :
    lines (unlines ls) = ls.flatMap fun line => lines (line ++ ['\n']) := by
  induction ls with
  | nil => rfl
  | cons line rest ih =>
    obtain ⟨hline, hrest⟩ := List.forall_mem_cons.mp h
    rw [unlines, List.flatMap_cons, List.flatMap_cons, List.append_assoc, List.singleton_append,
      lines_append_lineFeed_of_getLast? _ hline, ← unlines, ih hrest]

/-! ### Lines with blanks at the end of the text -/

/-- A text of blanks has nothing left when it is trimmed. -/
theorem trim_eq_nil {text : List Char} (h : ∀ c ∈ text, isBlank c = true) : trim text = [] := by
  have hfront := trim_append [] (List.all_eq_true.mpr h)
  rwa [List.append_nil] at hfront

/-- The lines of a text of blanks are blank. -/
theorem map_trim_lines_of_blank {text : List Char} (h : ∀ c ∈ text, isBlank c = true) :
    (lines text).map trim = List.replicate (lines text).length [] := by
  rw [List.eq_replicate_iff, List.length_map]
  refine ⟨rfl, fun line hline => ?_⟩
  obtain ⟨line, hmem, rfl⟩ := List.mem_map.mp hline
  refine trim_eq_nil fun c hc => h c ((flatten_lines_sublist text).subset ?_)
  exact List.mem_flatten.mpr ⟨line, hmem, hc⟩

/-- **Blanks behind a text** that ends in something else: the last line gets some of them, and what
comes behind it are lines of blanks. -/
theorem exists_lines_append_blanks {text tail : List Char} (hne : text ≠ [])
    (hlast : ∀ c ∈ text.getLast?, isBlank c = false) (htail : ∀ c ∈ tail, isBlank c = true) :
    ∃ front line pad rest, lines text = front ++ [line] ∧
      lines (text ++ tail) = front ++ (line ++ pad) :: rest ∧
      (∀ c ∈ pad, isBlank c = true) ∧ rest.map trim = List.replicate rest.length [] := by
  have hreturn : ∀ {text : List Char}, (∀ c ∈ text.getLast?, isBlank c = false) →
      text.getLast? ≠ some '\r' := fun hlast heq => absurd (hlast '\r' heq) (by decide)
  -- a break is not the last character
  have hbehind : ∀ {b : Char} {text : List Char}, isBlank b = true →
      (∀ c ∈ (b :: text).getLast?, isBlank c = false) → text ≠ [] := by
    rintro b text hb hlast rfl
    simp [hlast b rfl] at hb
  have hnext : ∀ {b : Char} {text : List Char}, text ≠ [] →
      (∀ c ∈ (b :: text).getLast?, isBlank c = false) →
      ∀ c ∈ text.getLast?, isBlank c = false := by
    intro b text hne hlast c hc
    refine hlast c ?_
    rwa [← List.singleton_append, List.getLast?_append_of_ne_nil _ hne]
  fun_induction lines text with
  | case1 => exact absurd rfl hne
  | case2 text ih =>
    have hfeed := hnext (List.cons_ne_nil '\n' text) hlast
    have hrest := hbehind (by decide) hfeed
    obtain ⟨front, line, pad, rest, htext, happend, hpad, hblank⟩ :=
      ih hrest (hnext hrest hfeed)
    exact ⟨[] :: front, line, pad, rest, by rw [htext]; rfl,
      by rw [List.cons_append, List.cons_append, lines, happend]; rfl, hpad, hblank⟩
  | case3 c text hpair hbreak ih =>
    have hrest := hbehind (isBlank_of_isLineBreak hbreak) hlast
    obtain ⟨front, line, pad, rest, htext, happend, hpad, hblank⟩ :=
      ih hrest (hnext hrest hlast)
    refine ⟨[] :: front, line, pad, rest, by rw [htext]; rfl, ?_, hpad, hblank⟩
    rw [List.cons_append, lines_cons_append tail (hreturn hlast) hpair, if_pos hbreak, happend]
    rfl
  | case4 c text hpair hbreak ih =>
    rw [List.cons_append, lines_cons_append tail (hreturn hlast) hpair, if_neg hbreak]
    by_cases hrest : text = []
    · subst hrest
      rw [List.nil_append]
      have hblank := map_trim_lines_of_blank htail
      have hsub := flatten_lines_sublist tail
      cases htext : lines tail with
      | nil => exact ⟨[], [c], [], [], rfl, rfl, fun _ hc => absurd hc List.not_mem_nil, rfl⟩
      | cons pad rest =>
        rw [htext] at hblank hsub
        refine ⟨[], [c], pad, rest, rfl, rfl, fun d hd => htail d (hsub.subset ?_), ?_⟩
        · exact List.mem_append_left _ hd
        · rw [List.map_cons, List.length_cons, List.replicate_succ, List.cons.injEq] at hblank
          exact hblank.2
    · obtain ⟨front, line, pad, rest, htext, happend, hpad, hblank⟩ :=
        ih hrest (hnext hrest hlast)
      rw [htext, happend]
      cases front with
      | nil => exact ⟨[], c :: line, pad, rest, rfl, rfl, hpad, hblank⟩
      | cons first front =>
        exact ⟨(c :: first) :: front, line, pad, rest, rfl, rfl, hpad, hblank⟩

/-- **Blanks at the end of a text** bring in nothing but blank lines. -/
theorem exists_map_trim_lines (text : List Char) :
    ∃ k, (lines text).map trim = (lines (trimEnd text)).map trim ++ List.replicate k [] := by
  obtain ⟨tail, hcut, htail⟩ := exists_dropEndWhile_append isBlank text
  rw [← trimEnd] at hcut
  by_cases hne : trimEnd text = []
  · rw [hne, List.nil_append] at hcut
    rw [hne, ← hcut, map_trim_lines_of_blank htail]
    exact ⟨_, rfl⟩
  · obtain ⟨front, line, pad, rest, htext, happend, hpad, hblank⟩ :=
      exists_lines_append_blanks hne (getLast?_dropEndWhile isBlank text) htail
    have hline : trim (line ++ pad) = trim line :=
      @trimBoth_append isBlank [] pad (fun _ hc => absurd hc List.not_mem_nil) hpad line
    refine ⟨rest.length, ?_⟩
    rw [hcut] at happend
    rw [happend, htext, List.map_append, List.map_append, List.map_cons, hline, hblank,
      List.map_singleton, List.append_assoc, List.singleton_append]

end SystemSketch.Text
