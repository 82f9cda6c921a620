import Mathlib.Computability.Language
import SystemSketch.Proofs.Recognition.Decorator
import SystemSketch.Proofs.Recognition.Endpoint
import SystemSketch.Proofs.Recognition.Parameter

/-!
# The languages of the patterns

Every built-in pattern stands for a language, which is put together from words and runs of
characters. At the front of a text the pattern hits exactly if some beginning of the text belongs to
the language, and then it takes the longest one. For most of the languages there is only one such
beginning, because they end with a mark; a name and a type are read as far as they reach.

## Main definitions

* `word`, `oneOf`, `anyOf`, `someOf` — the parts of which the languages are made.
* `Pattern.Recognises` — a pattern hits the longest beginnings in a language.
* `BuiltIn` — the built-in patterns, each with its language.

## Main results

* `Pattern.recognises_reading` — what a reader has to do for this.
* `mem_parameterNames_iff` — what may stand before the colon of a parameter.
* `BuiltIn.recognises` — every built-in pattern recognises its language.
-/

namespace SystemSketch

/-- **A pattern recognises a language**: at the front of a text it hits the longest beginning that
belongs to the language, and it misses only if there is none. -/
structure Pattern.Recognises (p : Pattern) (L : Language Char) : Prop where
  /-- A hit is a beginning in the language. -/
  sound {text : List Char} {hit : Hit} (h : p.hit? text = some hit) :
    ∃ matched rest, text = matched ++ rest ∧ matched ∈ L ∧ hit.length = matched.length
  /-- A beginning in the language is hit, or a longer one is. -/
  complete {matched : List Char} (h : matched ∈ L) (rest : List Char) :
    ∃ hit, p.hit? (matched ++ rest) = some hit ∧ matched.length ≤ hit.length
  /-- No match is empty. -/
  nil_notMem : [] ∉ L

namespace Pattern

variable {p : Pattern} {L : Language Char} {text : List Char}

/-- A reader that reads words of a language as far as they reach **recognises** it. -/
theorem recognises_reading (name : String)
    {read : List Char → Option (List (List Char) × List Char)}
    (hsound : ∀ {text groups rest}, read text = some (groups, rest) →
      ∃ matched ∈ L, text = matched ++ rest)
    (hcomplete : ∀ matched ∈ L, ∀ rest, ∃ groups left,
      read (matched ++ rest) = some (groups, left) ∧ left <:+ rest)
    (hnil : [] ∉ L) : (reading name read).Recognises L where
  sound h := by
    obtain ⟨⟨groups, rest⟩, hread, rfl⟩ := Option.map_eq_some_iff.mp h
    obtain ⟨matched, hmatched, rfl⟩ := hsound hread
    exact ⟨matched, rest, rfl, hmatched, by simp⟩
  complete {matched} h rest := by
    obtain ⟨groups, left, hread, hleft⟩ := hcomplete matched h rest
    refine ⟨⟨groups, (matched ++ rest).length - left.length⟩,
      Option.map_eq_some_iff.mpr ⟨_, hread, rfl⟩, ?_⟩
    have hshort := hleft.length_le
    simp only [List.length_append]
    omega
  nil_notMem := hnil

/-- **A pattern hits** exactly where a beginning of the text belongs to its language. -/
theorem Recognises.isSome_hit?_iff (h : p.Recognises L) :
    (p.hit? text).isSome = true ↔ ∃ matched ∈ L, matched <+: text := by
  rw [Option.isSome_iff_exists]
  constructor
  · rintro ⟨hit, hhit⟩
    obtain ⟨matched, rest, rfl, hmatched, -⟩ := h.sound hhit
    exact ⟨matched, hmatched, List.prefix_append matched rest⟩
  · rintro ⟨matched, hmatched, rest, rfl⟩
    obtain ⟨hit, hhit, -⟩ := h.complete hmatched rest
    exact ⟨hit, hhit⟩

/-- **A hit** is the longest beginning of the text in the language. -/
theorem Recognises.take_length {hit : Hit} (h : p.Recognises L) (hhit : p.hit? text = some hit) :
    text.take hit.length ∈ L ∧ 0 < hit.length ∧ hit.length ≤ text.length ∧
      ∀ matched ∈ L, matched <+: text → matched.length ≤ hit.length := by
  obtain ⟨matched, rest, htext, hmatched, hlength⟩ := h.sound hhit
  have hpos : 0 < matched.length :=
    List.length_pos_of_ne_nil fun hnil => h.nil_notMem (hnil ▸ hmatched)
  refine ⟨?_, by omega, by rw [htext, List.length_append]; omega, ?_⟩
  · rwa [htext, hlength, List.take_left]
  · rintro other hother ⟨rest', rfl⟩
    obtain ⟨hit', hhit', hle⟩ := h.complete hother rest'
    rw [hhit] at hhit'
    exact Option.some.inj hhit' ▸ hle

end Pattern

namespace Recognition

open Pattern Text

/-! ### Words and runs -/

/-- The language of one word. -/
def word (w : String) : Language Char :=
  {w.toList}

/-- The language of some words. -/
def oneOf (ws : List String) : Language Char :=
  {text | ∃ w ∈ ws, text = w.toList}

/-- The texts of a class of characters. -/
def anyOf (p : Char → Bool) : Language Char :=
  {text | ∀ c ∈ text, p c = true}

/-- The texts of a class of characters that are not empty. -/
def someOf (p : Char → Bool) : Language Char :=
  {text | text ≠ [] ∧ ∀ c ∈ text, p c = true}

variable {p : Char → Bool} {text rest : List Char}

theorem mem_word {w : String} : text ∈ word w ↔ text = w.toList := Iff.rfl

theorem mem_oneOf {ws : List String} : text ∈ oneOf ws ↔ ∃ w ∈ ws, text = w.toList := Iff.rfl

theorem mem_anyOf : text ∈ anyOf p ↔ ∀ c ∈ text, p c = true := Iff.rfl

theorem mem_someOf : text ∈ someOf p ↔ text ≠ [] ∧ ∀ c ∈ text, p c = true := Iff.rfl

theorem nil_notMem_word {w : String} (h : w.toList ≠ []) : [] ∉ word w := Ne.symm h

/-- A text of several parts, of which one is not empty, is not empty. -/
theorem nil_notMem_mul {L M : Language Char} (h : [] ∉ L ∨ [] ∉ M) : [] ∉ L * M := by
  rintro ⟨front, hfront, back, hback, hnil⟩
  obtain ⟨rfl, rfl⟩ := List.append_eq_nil_iff.mp hnil
  exact h.elim (fun hL => hL hfront) fun hM => hM hback

/-- A name is read on into the text behind it. -/
theorem readOn {name : List Char} (hname : name ∈ someOf isWord) (rest : List Char) :
    (name ++ rest).takeWhile isWord = name ++ rest.takeWhile isWord ∧
      (name ++ rest).dropWhile isWord = rest.dropWhile isWord ∧
      (name ++ rest.takeWhile isWord).isEmpty = false :=
  ⟨List.takeWhile_append_of_pos hname.2, List.dropWhile_append_of_pos hname.2,
    List.isEmpty_eq_false_iff.mpr (List.append_ne_nil_of_left_ne_nil hname.1 _)⟩

/-- Blanks are passed over up to a name. -/
theorem trimStart_append_someOf {blanks name : List Char} (hblanks : blanks ∈ anyOf isBlank)
    (hname : name ∈ someOf isWord) (rest : List Char) :
    trimStart (blanks ++ (name ++ rest)) = name ++ rest := by
  obtain ⟨c, name, rfl⟩ := List.exists_cons_of_ne_nil hname.1
  exact trimStart_append_cons hblanks (isBlank_of_isWord (hname.2 c List.mem_cons_self)) _

/-! ### Marks, names and enclosed texts -/

/-- **A mark** recognises its word. -/
theorem recognises_mark (name w : String) (hw : w.toList ≠ []) :
    (mark name w).Recognises (word w) := by
  refine recognises_reading name ?_ ?_ (nil_notMem_word hw)
  · intro text groups rest h
    obtain ⟨after, hafter, heq⟩ := Option.map_eq_some_iff.mp h
    obtain ⟨-, rfl⟩ := Prod.mk.inj heq
    exact ⟨_, rfl, after?_eq_some_iff.mp hafter⟩
  · rintro matched rfl rest
    exact ⟨[], rest, by rw [after?_append]; rfl, List.suffix_rfl⟩

/-- **An exported class** is recognised by its name. -/
theorem recognises_exportedClass :
    exportedClass.Recognises (word "export class " * someOf isWord) := by
  refine recognises_reading _ ?_ ?_ (nil_notMem_mul (Or.inl (nil_notMem_word (by decide))))
  · intro text groups rest h
    simp only [Option.bind_eq_bind, Option.bind_eq_some_iff] at h
    obtain ⟨after, hafter, h⟩ := h
    split at h
    · cases h
    · next hname =>
      obtain ⟨-, rfl⟩ := Prod.mk.inj (Option.some.inj h)
      refine ⟨_, Language.append_mem_mul rfl ⟨fun hnil => hname (by rw [hnil]; rfl),
        fun c hc => List.mem_takeWhile_imp hc⟩, ?_⟩
      rw [after?_eq_some_iff.mp hafter, List.append_assoc, List.takeWhile_append_dropWhile]
  · rintro _ ⟨_, rfl, name, hname, rfl⟩ rest
    obtain ⟨htake, hdrop, hsome⟩ := readOn hname rest
    refine ⟨[name ++ rest.takeWhile isWord], rest.dropWhile isWord, ?_,
      List.dropWhile_suffix isWord⟩
    simp only [List.append_assoc, after?_append, Option.bind_eq_bind, Option.bind_some, htake,
      hdrop, hsome]
    rfl

/-- **A text between two marks** is recognised up to the first closing one. -/
theorem recognises_enclosed (name opening : String) (closing : Char)
    (hopening : opening.toList ≠ []) :
    (enclosed name opening.toList closing).Recognises
      (word opening * anyOf (· != closing) * {[closing]}) := by
  refine recognises_reading name ?_ ?_
    (nil_notMem_mul (Or.inl (nil_notMem_mul (Or.inl (nil_notMem_word hopening)))))
  · intro text groups rest h
    simp only [Option.bind_eq_bind, Option.bind_eq_some_iff] at h
    obtain ⟨inner, hinner, h⟩ := h
    split at h
    · cases h
    · next mark after hdrop =>
      obtain ⟨-, rfl⟩ := Prod.mk.inj (Option.some.inj h)
      -- the run of other characters ends at a closing mark
      have hmark : (mark != closing) = false := by
        have hnot := List.head?_dropWhile_not (· != closing) inner
        rw [hdrop] at hnot
        exact hnot
      obtain rfl : mark = closing := bne_eq_false_iff_eq.mp hmark
      refine ⟨_, Language.append_mem_mul (Language.append_mem_mul rfl
        (fun c hc => List.mem_takeWhile_imp hc : inner.takeWhile (· != mark) ∈ _)) rfl, ?_⟩
      rw [after?_eq_some_iff.mp hinner, List.append_assoc, List.append_assoc,
        List.singleton_append, ← hdrop, List.takeWhile_append_dropWhile]
  · rintro _ ⟨_, ⟨_, rfl, inner, hinner, rfl⟩, _, rfl, rfl⟩ rest
    have hclosing : (closing != closing) = false := bne_self_eq_false closing
    refine ⟨[inner], rest, ?_, List.suffix_rfl⟩
    simp only [List.append_assoc, after?_append, Option.bind_eq_bind, Option.bind_some,
      List.singleton_append, dropWhile_append_cons hinner hclosing,
      takeWhile_append_cons hinner hclosing]

/-! ### Decorators of controllers -/

/-- The texts between two quotes of one kind. -/
def quoted (quote : Char) : Language Char :=
  {[quote]} * anyOf (· != quote) * {[quote]}

/-- A text in quotes holds no other quote of their kind. -/
theorem mem_quoted_iff {quote : Char} :
    text ∈ quoted quote ↔ ∃ route, quote ∉ route ∧ text = quote :: (route ++ [quote]) := by
  constructor
  · rintro ⟨_, ⟨_, rfl, route, hroute, rfl⟩, _, rfl, rfl⟩
    exact ⟨route, fun hmem => bne_iff_ne.mp (hroute quote hmem) rfl, rfl⟩
  · rintro ⟨route, hroute, rfl⟩
    have hmiddle : route ∈ anyOf (· != quote) := ne_closing hroute
    exact ⟨[quote] ++ route, ⟨[quote], rfl, route, hmiddle, rfl⟩, [quote], rfl, rfl⟩

/-- A route stands between two quotes of either kind. -/
theorem mem_quoted_add_iff :
    text ∈ quoted '\x27' + quoted '\x22' ↔
      ∃ quote route, IsQuote quote ∧ quote ∉ route ∧ text = quote :: (route ++ [quote]) := by
  rw [Language.mem_add, mem_quoted_iff, mem_quoted_iff]
  constructor
  · rintro (⟨route, hroute, rfl⟩ | ⟨route, hroute, rfl⟩)
    · exact ⟨_, route, Or.inl rfl, hroute, rfl⟩
    · exact ⟨_, route, Or.inr rfl, hroute, rfl⟩
  · rintro ⟨quote, route, rfl | rfl, hroute, rfl⟩
    · exact Or.inl ⟨route, hroute, rfl⟩
    · exact Or.inr ⟨route, hroute, rfl⟩

/-- **The decorator of a controller** is recognised with the blanks in it. -/
theorem recognises_controllerMark :
    controllerMark.Recognises
      (word "@Controller(" * anyOf isBlank * (quoted '\x27' + quoted '\x22') * anyOf isBlank *
        word ")") := by
  rw [controllerMark_eq_reading]
  refine recognises_reading _ ?_ ?_ (nil_notMem_mul (Or.inr (nil_notMem_word (by decide))))
  · intro text groups rest h
    obtain ⟨quote, before, route, after, hquote, hroute, hbefore, hafter, htext, -⟩ :=
      readDecorator?_eq_some_iff.mp h
    have hquoted := mem_quoted_add_iff.mpr ⟨quote, route, hquote, hroute, rfl⟩
    refine ⟨_, Language.append_mem_mul (Language.append_mem_mul (Language.append_mem_mul
      (Language.append_mem_mul rfl hbefore) hquoted) hafter) rfl, ?_⟩
    rw [htext]
    simp only [List.append_assoc, List.cons_append, List.nil_append]
    rfl
  · rintro _ ⟨_, ⟨_, ⟨_, ⟨_, rfl, before, hbefore, rfl⟩, middle, hmiddle, rfl⟩, after, hafter, rfl⟩,
      _, rfl, rfl⟩ rest
    obtain ⟨quote, route, hquote, hroute, rfl⟩ := mem_quoted_add_iff.mp hmiddle
    refine ⟨routeGroups quote route, rest, readDecorator?_eq_some_iff.mpr
      ⟨quote, before, route, after, hquote, hroute, hbefore, hafter, ?_, rfl⟩, List.suffix_rfl⟩
    simp only [List.append_assoc, List.cons_append, List.nil_append]
    rfl

/-! ### Parameters -/

/-- What stands before the colon of a parameter: a visibility and `readonly`, either of which may be
left out, and a name, with blanks behind each of them. -/
def parameterNames : Language Char :=
  (1 + oneOf ["private", "public", "protected"]) * anyOf isBlank * (1 + oneOf ["readonly"]) *
    anyOf isBlank * someOf isWord * anyOf isBlank

/-- A text without one of some words at its front, or with none taken off. -/
theorem mem_withoutOptional_iff {ws : List String} :
    rest ∈ withoutOptional ws text ↔ ∃ front ∈ 1 + oneOf ws, text = front ++ rest := by
  rw [withoutOptional, List.mem_cons, List.mem_filterMap]
  constructor
  · rintro (rfl | ⟨w, hw, hrest⟩)
    · exact ⟨[], Or.inl rfl, rfl⟩
    · exact ⟨_, Or.inr ⟨w, hw, rfl⟩, after?_eq_some_iff.mp hrest⟩
  · rintro ⟨front, rfl | ⟨w, hw, rfl⟩, rfl⟩
    · exact Or.inl rfl
    · exact Or.inr ⟨w, hw, after?_append _ _⟩

/-- A name with blanks behind it is read as that. -/
theorem takeWhile_append_blanks {name blanks : List Char} (hname : ∀ c ∈ name, isWord c = true)
    (hblanks : ∀ c ∈ blanks, isBlank c = true) :
    (name ++ blanks).takeWhile isWord = name ∧ (name ++ blanks).dropWhile isWord = blanks := by
  have hstop : blanks.takeWhile isWord = [] ∧ blanks.dropWhile isWord = blanks := by
    cases blanks with
    | nil => exact ⟨rfl, rfl⟩
    | cons b blanks =>
      have hb : ¬isWord b = true := by
        rw [isWord_eq_false_of_isBlank (hblanks b List.mem_cons_self)]
        exact Bool.false_ne_true
      exact ⟨List.takeWhile_cons_of_neg hb, List.dropWhile_cons_of_neg hb⟩
  rw [List.takeWhile_append_of_pos hname, List.dropWhile_append_of_pos hname, hstop.1, hstop.2,
    List.append_nil]
  exact ⟨rfl, rfl⟩

/-- **What names a parameter** is just what may stand before its colon. -/
theorem mem_parameterNames_iff : text ∈ parameterNames ↔ namesParameter text = true := by
  simp only [namesParameter, List.any_eq_true, Bool.and_eq_true, Bool.not_eq_true',
    List.isEmpty_eq_false_iff, List.all_eq_true]
  constructor
  · rintro ⟨_, ⟨_, ⟨_, ⟨_, ⟨visibility, hvisibility, before, hbefore, rfl⟩, readonly, hreadonly,
      rfl⟩, between, hbetween, rfl⟩, name, hname, rfl⟩, after, hafter, rfl⟩
    have hread : trimStart (between ++ (name ++ after)) = name ++ after :=
      trimStart_append_someOf hbetween hname after
    have hsplit := takeWhile_append_blanks hname.2 hafter
    refine ⟨before ++ (readonly ++ (between ++ (name ++ after))), mem_withoutOptional_iff.mpr
      ⟨visibility, hvisibility, by simp only [List.append_assoc]⟩, ?_⟩
    rcases hreadonly with rfl | ⟨w, hw, rfl⟩
    · -- without the modifier the two runs of blanks are one
      have hfront : trimStart (before ++ ([] ++ (between ++ (name ++ after)))) = name ++ after := by
        rw [List.nil_append, ← List.append_assoc]
        exact trimStart_append_someOf (List.forall_mem_append.mpr ⟨hbefore, hbetween⟩) hname after
      refine ⟨name ++ after, mem_withoutOptional_iff.mpr ⟨[], Or.inl rfl, hfront⟩, ?_⟩
      have hnone := trimStart_append_someOf (fun _ hc => absurd hc List.not_mem_nil) hname after
      rw [← List.nil_append (name ++ after), hnone, hsplit.1, hsplit.2]
      exact ⟨hname.1, hafter⟩
    · have hword : w.toList ∈ someOf isWord := by
        obtain rfl := List.mem_singleton.mp hw
        exact ⟨by decide, List.all_eq_true.mp (by decide)⟩
      refine ⟨between ++ (name ++ after), mem_withoutOptional_iff.mpr
        ⟨w.toList, Or.inr ⟨w, hw, rfl⟩, trimStart_append_someOf hbefore hword _⟩, ?_⟩
      rw [hread, hsplit.1, hsplit.2]
      exact ⟨hname.1, hafter⟩
  · rintro ⟨inner, hinner, last, hlast, hname, hafter⟩
    obtain ⟨visibility, hvisibility, rfl⟩ := mem_withoutOptional_iff.mp hinner
    obtain ⟨readonly, hreadonly, hmiddle⟩ := mem_withoutOptional_iff.mp hlast
    obtain ⟨before, hbefore, hfront⟩ := exists_trimStart inner
    obtain ⟨between, hbetween, hback⟩ := exists_trimStart last
    have hword : (trimStart last).takeWhile isWord ∈ someOf isWord :=
      ⟨hname, fun c hc => List.mem_takeWhile_imp hc⟩
    have hmem : _ ∈ parameterNames :=
      Language.append_mem_mul (Language.append_mem_mul (Language.append_mem_mul
        (Language.append_mem_mul (Language.append_mem_mul hvisibility
          (mem_anyOf.mpr hbefore)) hreadonly) (mem_anyOf.mpr hbetween)) hword)
        (mem_anyOf.mpr hafter)
    rwa [List.append_assoc, List.takeWhile_append_dropWhile, List.append_assoc, ← hback,
      List.append_assoc, ← hmiddle, List.append_assoc, ← hfront] at hmem

/-- What stands before the colon of a parameter are words and blanks. -/
theorem ofName_of_mem_parameterNames (h : text ∈ parameterNames) :
    ∀ c ∈ text, (isWord c || isBlank c) = true := by
  obtain ⟨_, ⟨_, ⟨_, ⟨_, ⟨visibility, hvisibility, before, hbefore, rfl⟩, readonly, hreadonly, rfl⟩,
    between, hbetween, rfl⟩, name, hname, rfl⟩, after, hafter, rfl⟩ := h
  have hblank : ∀ {blanks : List Char}, (∀ c ∈ blanks, isBlank c = true) →
      ∀ c ∈ blanks, (isWord c || isBlank c) = true := fun hall c hc => by
    rw [hall c hc, Bool.or_true]
  have hwords : ∀ {ws : List String} {front : List Char},
      (ws.all fun w => w.toList.all isWord) = true → front ∈ 1 + oneOf ws →
        ∀ c ∈ front, (isWord c || isBlank c) = true := by
    rintro ws front hall (rfl | ⟨w, hw, rfl⟩) c hc
    · exact absurd hc List.not_mem_nil
    · rw [List.all_eq_true.mp (List.all_eq_true.mp hall w hw) c hc, Bool.true_or]
  simp only [List.forall_mem_append]
  refine ⟨⟨⟨⟨⟨hwords (by decide) hvisibility, hblank hbefore⟩, hwords (by decide) hreadonly⟩,
    hblank hbetween⟩, fun c hc => ?_⟩, hblank hafter⟩
  rw [hname.2 c hc, Bool.true_or]

/-- **A parameter** is recognised up to the end of its type. -/
theorem recognises_parameter :
    parameter.Recognises (parameterNames * word ":" * anyOf isBlank * someOf isWord) := by
  refine recognises_reading _ ?_ ?_ (nil_notMem_mul (Or.inr fun h => h.1 rfl))
  · intro text groups rest h
    dsimp only at h
    split at h
    · next inner hdrop =>
      split at h
      · cases h
      · next hnot =>
        obtain ⟨-, rfl⟩ := Prod.mk.inj (Option.some.inj h)
        rw [Bool.or_eq_true, not_or, Bool.not_eq_true, Bool.not_eq_true', Bool.not_eq_false] at hnot
        obtain ⟨blanks, hblanks, hinner⟩ := exists_trimStart inner
        refine ⟨_, Language.append_mem_mul (Language.append_mem_mul (Language.append_mem_mul
          (mem_parameterNames_iff.mpr hnot.2) rfl) hblanks)
            ⟨List.isEmpty_eq_false_iff.mp hnot.1, fun c hc => List.mem_takeWhile_imp hc⟩, ?_⟩
        rw [List.append_assoc, List.takeWhile_append_dropWhile, List.append_assoc, ← hinner,
          List.append_assoc]
        conv_lhs => rw [← List.takeWhile_append_dropWhile (p := fun c => isWord c || isBlank c)
          (l := text), hdrop]
        rfl
    · cases h
  · rintro _ ⟨_, ⟨_, ⟨names, hnames, _, rfl, rfl⟩, blanks, hblanks, rfl⟩, type, htype, rfl⟩ rest
    have hall := ofName_of_mem_parameterNames hnames
    have hinner := trimStart_append_someOf hblanks htype rest
    obtain ⟨htake, hdrop, hsome⟩ := readOn htype rest
    refine ⟨[type ++ rest.takeWhile isWord], rest.dropWhile isWord, ?_,
      List.dropWhile_suffix isWord⟩
    have htext : names ++ ":".toList ++ blanks ++ type ++ rest =
        names ++ ':' :: (blanks ++ (type ++ rest)) := by
      simp only [List.append_assoc]
      rfl
    simp only [htext, dropWhile_append_cons hall colon_ofName,
      takeWhile_append_cons hall colon_ofName, hinner, htake, hdrop, hsome,
      mem_parameterNames_iff.mp hnames, Bool.not_true, Bool.or_false]
    rfl

/-! ### The built-in patterns -/

/-- The **built-in patterns** of recognition. -/
inductive BuiltIn where
  | exportedClass
  | controller
  | injectable
  | gateway
  | constructorList
  | parameter
  /-- A template fetched from the server whose address a variable of this name holds. -/
  | fetch (baseVariable : String)

namespace BuiltIn

/-- The pattern. -/
def pattern : BuiltIn → Pattern
  | exportedClass => Recognition.exportedClass
  | controller => controllerMark
  | injectable => injectableMark
  | gateway => gatewayMark
  | constructorList => Recognition.constructorList
  | parameter => Recognition.parameter
  | fetch baseVariable => fetchCall baseVariable

/-- The texts that the pattern stands for. -/
def language : BuiltIn → Language Char
  | exportedClass => word "export class " * someOf isWord
  | controller =>
    word "@Controller(" * anyOf isBlank * (quoted '\x27' + quoted '\x22') * anyOf isBlank * word ")"
  | injectable => word "@Injectable("
  | gateway => word "@WebSocketGateway("
  | constructorList => word "constructor(" * anyOf (· != ')') * {[')']}
  | parameter => parameterNames * word ":" * anyOf isBlank * someOf isWord
  | fetch baseVariable =>
    word ("fetch(`$\x7b" ++ baseVariable ++ "\x7d/api/") * anyOf (· != '\x60') * {['\x60']}

/-- **Every built-in pattern** recognises its language. -/
theorem recognises (b : BuiltIn) : b.pattern.Recognises b.language := by
  cases b with
  | exportedClass => exact recognises_exportedClass
  | controller => exact recognises_controllerMark
  | injectable => exact recognises_mark _ _ (by decide)
  | gateway => exact recognises_mark _ _ (by decide)
  | constructorList => exact recognises_enclosed _ _ _ (by decide)
  | parameter => exact recognises_parameter
  | fetch baseVariable =>
    refine recognises_enclosed _ (fetchOpening baseVariable) _ ?_
    rw [fetchOpening, String.toList_append, String.toList_append]
    simp

end BuiltIn

end Recognition

end SystemSketch
