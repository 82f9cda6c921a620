import SystemSketch.Proofs.Recognition.Pattern
import SystemSketch.Proofs.Text.Line
import SystemSketch.Recognition.Server

/-!
# What the parameters of a constructor declare

The pattern of a parameter is searched for anywhere in a piece of the parameter list, and begins
with two optional modifiers, each of which may also be the beginning of the name. None of this
freedom matters: wherever a match begins, it ends at the first colon of the piece with a word on
both sides, because the name reaches up to a colon and holds none, and because the last letter in
front of such a colon begins a match. A piece therefore declares the word behind that colon, and
what a constructor is given depends on its parameter list alone.

## Main definitions

* `partings` — the ways to part a text at a mark, from left to right.
* `declaredType?` — the word behind the first colon with a word on both sides.
* `IsPlainParameter` — a piece that is a parameter as it is usually written.

## Main results

* `hit?_parameter_cases`, `exists_hit?_parameter` — a match reaches up to a colon with a word on
  both sides, and every such colon ends a match.
* `parameterType?_eq_declaredType?` — the search finds the first of these colons.
* `constructorDependencies_plain` — what a constructor is given, read off the text.
-/

namespace SystemSketch.Recognition

open Pattern Text

/-! ### The plain reading -/

/-- The ways to **part** a text at a mark, from left to right. -/
def partings (mark : Char) : List Char → List (List Char × List Char)
  | [] => []
  | c :: text =>
    let later := (partings mark text).map (Prod.map (c :: ·) id)
    if c == mark then ([], text) :: later else later

/-- Whether a text ends in a word, apart from blanks. -/
def endsInWord (text : List Char) : Bool :=
  (trimEnd text).getLast?.any isWord

/-- The word at the front of a text, apart from blanks. -/
def firstWord (text : List Char) : List Char :=
  (trimStart text).takeWhile isWord

/-- Whether a text begins with a word, apart from blanks. -/
def beginsWithWord (text : List Char) : Bool :=
  (trimStart text).head?.any isWord

/-- **What a piece declares**: the word behind the first colon that has a word before it and a word
behind it, apart from blanks. -/
def declaredType? (piece : List Char) : Option String :=
  ((partings ':' piece).find? fun (front, rest) => endsInWord front && beginsWithWord rest).map
    fun (_, rest) => String.ofList (firstWord rest)

/-- A piece that is a **parameter as it is usually written**: a visibility and `readonly`, either of
which may be left out, a name, a colon and a type, with blanks around each of them. -/
def IsPlainParameter (piece type : List Char) : Prop :=
  ∃ visibility ∈ ["", "private", "public", "protected"], ∃ readonly ∈ ["", "readonly"],
    ∃ name b₀ b₁ b₂ b₃ b₄ b₅ : List Char,
      (name ≠ [] ∧ ∀ c ∈ name, isWord c = true) ∧ (type ≠ [] ∧ ∀ c ∈ type, isWord c = true) ∧
      (∀ blanks ∈ [b₀, b₁, b₂, b₃, b₄, b₅], ∀ c ∈ blanks, isBlank c = true) ∧
      piece = b₀ ++ visibility.toList ++ b₁ ++ readonly.toList ++ b₂ ++ name ++ b₃ ++
        ':' :: (b₄ ++ type ++ b₅)

/-! ### Parting a text -/

section Partings

variable {mark : Char} {text front rest : List Char}

/-- The mark stands between the two parts. -/
theorem eq_of_mem_partings (h : (front, rest) ∈ partings mark text) :
    text = front ++ mark :: rest := by
  induction text generalizing front with
  | nil => exact absurd h List.not_mem_nil
  | cons c text ih =>
    have hlater : (front, rest) ∈ (partings mark text).map (Prod.map (c :: ·) id) →
        c :: text = front ++ mark :: rest := by
      intro hmem
      obtain ⟨⟨before, after⟩, hparting, heq⟩ := List.mem_map.mp hmem
      obtain ⟨rfl, rfl⟩ := Prod.mk.inj heq
      rw [List.cons_append, ← ih hparting]
    rw [partings] at h
    split at h
    · next hc =>
      rcases List.mem_cons.mp h with heq | hmem
      · obtain ⟨rfl, rfl⟩ := Prod.mk.inj heq
        rw [List.nil_append, beq_iff_eq.mp hc]
      · exact hlater hmem
    · exact hlater h

/-- A text in two pieces is parted in the first one or in the second one. -/
theorem partings_append (first second : List Char) :
    partings mark (first ++ second) =
      (partings mark first).map (Prod.map id (· ++ second)) ++
        (partings mark second).map (Prod.map (first ++ ·) id) := by
  induction first with
  | nil =>
    rw [partings, List.map_nil, List.nil_append, List.nil_append]
    exact (List.map_id' _).symm
  | cons c first ih =>
    rw [List.cons_append, partings, partings, ih]
    split <;> simp [Function.comp_def, Prod.map]

/-- A text without the mark is not parted. -/
theorem partings_eq_nil (h : mark ∉ text) : partings mark text = [] := by
  rw [List.eq_nil_iff_forall_not_mem]
  rintro ⟨front, rest⟩ hmem
  rw [eq_of_mem_partings hmem] at h
  exact h (by simp)

/-- A text is parted in front of one of its marks, there, or behind it. -/
theorem partings_append_cons (mark : Char) (front rest : List Char) :
    partings mark (front ++ mark :: rest) =
      (partings mark front).map (Prod.map id (· ++ mark :: rest)) ++
        (front, rest) :: (partings mark rest).map (Prod.map (front ++ mark :: ·) id) := by
  rw [partings_append, partings, if_pos (beq_self_eq_true mark)]
  simp [Function.comp_def, Prod.map]

end Partings

/-! ### Words at the ends -/

section Words

variable {text front rest : List Char}

/-- A text ends in a word exactly if it has a word character with nothing but blanks behind it. -/
theorem endsInWord_iff : endsInWord text = true ↔ ∃ before c blanks,
    text = before ++ c :: blanks ∧ isWord c = true ∧ ∀ b ∈ blanks, isBlank b = true := by
  constructor
  · intro h
    obtain ⟨c, hc, hword⟩ := Option.any_eq_true .. |>.mp h
    obtain ⟨blanks, hblanks, hall⟩ := exists_dropEndWhile_append isBlank text
    obtain ⟨before, hbefore⟩ := List.getLast?_eq_some_iff.mp hc
    refine ⟨before, c, blanks, ?_, hword, hall⟩
    rw [← hblanks, ← trimEnd, hbefore, List.append_assoc, List.singleton_append]
  · rintro ⟨before, c, blanks, rfl, hword, hall⟩
    have hblanks : dropEndWhile isBlank blanks = [] := by
      rw [dropEndWhile, List.dropWhile_eq_nil_iff.mpr fun b hb => hall b (List.mem_reverse.mp hb)]
      rfl
    rw [endsInWord, trimEnd, dropEndWhile_append_cons before blanks (isBlank_of_isWord hword),
      hblanks, List.getLast?_append_of_ne_nil _ (List.cons_ne_nil c []), List.getLast?_singleton]
    exact hword

/-- A text ends in a word if there is one in front of the blanks at its end. -/
theorem endsInWord_append {run blanks : List Char} (front : List Char) (hne : run ≠ [])
    (hrun : ∀ c ∈ run, isWord c = true) (hblanks : ∀ b ∈ blanks, isBlank b = true) :
    endsInWord (front ++ run ++ blanks) = true := by
  refine endsInWord_iff.mpr ⟨front ++ run.dropLast, run.getLast hne, blanks, ?_,
    hrun _ (List.getLast_mem hne), hblanks⟩
  rw [List.append_cons, List.append_assoc front run.dropLast, List.dropLast_append_getLast]

/-- What ends in a word does so whatever stands before it. -/
theorem endsInWord_append_left (front : List Char) (h : endsInWord text = true) :
    endsInWord (front ++ text) = true := by
  obtain ⟨before, c, blanks, rfl, hword, hall⟩ := endsInWord_iff.mp h
  exact endsInWord_iff.mpr ⟨front ++ before, c, blanks, by rw [List.append_assoc], hword, hall⟩

/-- A text begins with a word exactly if there is one at its front. -/
theorem beginsWithWord_eq (text : List Char) :
    beginsWithWord text = !(firstWord text).isEmpty := by
  rw [beginsWithWord, firstWord]
  cases trimStart text with
  | nil => rfl
  | cons c rest => cases h : isWord c <;> simp [h]

/-- Blanks in front of a text are no word at its end. -/
theorem endsInWord_blanks_append {blanks : List Char} (h : ∀ b ∈ blanks, isBlank b = true)
    (text : List Char) : endsInWord (blanks ++ text) = endsInWord text := by
  rw [Bool.eq_iff_iff]
  refine ⟨fun hword => ?_, endsInWord_append_left blanks⟩
  obtain ⟨before, c, behind, heq, hc, hbehind⟩ := endsInWord_iff.mp hword
  have hnotMem : c ∉ blanks := fun hmem => by
    rw [isWord_eq_false_of_isBlank (h c hmem)] at hc
    exact Bool.noConfusion hc
  rcases List.append_eq_append_iff.mp heq with ⟨middle, rfl, rfl⟩ | ⟨middle, rfl, hmiddle⟩
  · exact endsInWord_iff.mpr ⟨middle, c, behind, rfl, hc, hbehind⟩
  · cases middle with
    | nil => exact endsInWord_iff.mpr ⟨[], c, behind, hmiddle.symm, hc, hbehind⟩
    | cons d middle =>
      obtain ⟨rfl, -⟩ := List.cons.inj hmiddle
      exact absurd (List.mem_append_right before List.mem_cons_self) hnotMem

/-- Blanks behind a text are no part of the word at its front. -/
theorem firstWord_append_blanks {blanks : List Char} (h : ∀ b ∈ blanks, isBlank b = true)
    (text : List Char) : firstWord (text ++ blanks) = firstWord text := by
  have hword : blanks.takeWhile isWord = [] := by
    cases blanks with
    | nil => rfl
    | cons b blanks =>
      have hb := isWord_eq_false_of_isBlank (h b List.mem_cons_self)
      exact List.takeWhile_cons_of_neg (by rw [hb]; exact Bool.false_ne_true)
  have hdrop : blanks.dropWhile isBlank = [] := List.dropWhile_eq_nil_iff.mpr h
  rw [firstWord, firstWord, trimStart, trimStart, List.dropWhile_append, hdrop]
  split
  · next hempty => rw [List.isEmpty_iff.mp hempty]
  · rw [List.takeWhile_append, hword, List.append_nil]
    split
    · next hall => exact ((List.takeWhile_prefix isWord).eq_of_length hall).symm
    · rfl

end Words

/-! ### Matches of a parameter -/

/-- What is left without an optional word is an end of the text. -/
theorem suffix_of_mem_withoutOptional {words : List String} {text rest : List Char}
    (h : rest ∈ withoutOptional words text) : rest <:+ text := by
  rcases List.mem_cons.mp h with rfl | hword
  · exact List.suffix_rfl
  · obtain ⟨word, -, hrest⟩ := List.mem_filterMap.mp hword
    rw [after?_eq_some_iff.mp hrest]
    exact List.suffix_append word.toList rest

/-- What names a parameter ends in a word. -/
theorem endsInWord_of_namesParameter {text : List Char} (h : namesParameter text = true) :
    endsInWord text = true := by
  obtain ⟨named, hnamed, hinner⟩ := List.any_eq_true.mp h
  obtain ⟨modified, hmodified, hname⟩ := List.any_eq_true.mp hinner
  have hsuffix : trimStart modified <:+ text :=
    (List.dropWhile_suffix isBlank).trans <| (suffix_of_mem_withoutOptional hmodified).trans <|
      (List.dropWhile_suffix isBlank).trans (suffix_of_mem_withoutOptional hnamed)
  obtain ⟨before, hbefore⟩ := hsuffix
  obtain ⟨hrun, hblanks⟩ := Bool.and_eq_true_iff.mp hname
  rw [Bool.not_eq_true', List.isEmpty_eq_false_iff] at hrun
  rw [← hbefore, ← List.takeWhile_append_dropWhile (p := isWord) (l := trimStart modified),
    ← List.append_assoc]
  exact endsInWord_append before hrun (fun _ => List.mem_takeWhile_imp)
    (List.all_eq_true.mp hblanks)

/-- The last letter of a text, with blanks behind it, names a parameter. -/
theorem namesParameter_cons {c : Char} {blanks : List Char} (hc : isWord c = true)
    (hblanks : ∀ b ∈ blanks, isBlank b = true) : namesParameter (c :: blanks) = true := by
  have hstart : trimStart (c :: blanks) = c :: blanks :=
    List.dropWhile_cons_of_neg (by rw [isBlank_of_isWord hc]; exact Bool.false_ne_true)
  refine List.any_eq_true.mpr ⟨c :: blanks, List.mem_cons_self, ?_⟩
  rw [hstart]
  refine List.any_eq_true.mpr ⟨c :: blanks, List.mem_cons_self, ?_⟩
  rw [hstart]
  refine Bool.and_eq_true_iff.mpr ⟨?_, List.all_eq_true.mpr fun b hb => ?_⟩
  · rw [List.takeWhile_cons_of_pos hc]
    rfl
  · rw [List.dropWhile_cons_of_pos hc] at hb
    exact hblanks b ((List.dropWhile_sublist isWord).subset hb)

/-- The characters of which a match consists in front of its colon. -/
theorem colon_ofName : (isWord ':' || isBlank ':') = false := by decide

/-- **A match** reaches up to a colon with a word on both sides, and its part is the word behind
the colon. -/
theorem hit?_parameter_cases {text : List Char} {hit : Hit} (h : parameter.hit? text = some hit) :
    ∃ names rest, text = names ++ ':' :: rest ∧ ':' ∉ names ∧ endsInWord names = true ∧
      beginsWithWord rest = true ∧ hit.groups = [firstWord rest] := by
  obtain ⟨⟨groups, after⟩, hread, rfl⟩ := Option.map_eq_some_iff.mp h
  have htext : text.takeWhile (fun c => isWord c || isBlank c) ++
      text.dropWhile (fun c => isWord c || isBlank c) = text := List.takeWhile_append_dropWhile
  dsimp only at hread
  split at hread
  · next rest hdrop =>
    split at hread
    · cases hread
    · next hnot =>
      rw [Bool.or_eq_true, not_or, Bool.not_eq_true, Bool.not_eq_true', Bool.not_eq_false] at hnot
      obtain ⟨rfl, -⟩ := Prod.mk.inj (Option.some.inj hread)
      refine ⟨_, rest, hdrop ▸ htext.symm, fun hcolon => ?_,
        endsInWord_of_namesParameter hnot.2, ?_, rfl⟩
      · have hname := List.mem_takeWhile_imp hcolon
        rw [colon_ofName] at hname
        exact Bool.noConfusion hname
      · rw [beginsWithWord_eq, firstWord, hnot.1]
        rfl
  · cases hread

/-- **Every colon with a word on both sides** ends a match, which begins in front of it. -/
theorem exists_hit?_parameter {front rest : List Char} (hfront : endsInWord front = true)
    (hrest : beginsWithWord rest = true) :
    ∃ tail, tail <:+ front ∧ tail ≠ [] ∧
      (parameter.hit? (tail ++ ':' :: rest)).isSome = true := by
  obtain ⟨before, c, blanks, rfl, hc, hblanks⟩ := endsInWord_iff.mp hfront
  have hname : ∀ d ∈ c :: blanks, (isWord d || isBlank d) = true := by
    intro d hd
    rw [Bool.or_eq_true]
    rcases List.mem_cons.mp hd with rfl | hd
    · exact Or.inl hc
    · exact Or.inr (hblanks d hd)
  have htake := takeWhile_append_cons hname colon_ofName rest
  have hdrop := dropWhile_append_cons hname colon_ofName rest
  have htype : (firstWord rest).isEmpty = false := by
    rwa [beginsWithWord_eq, Bool.not_eq_true'] at hrest
  refine ⟨c :: blanks, List.suffix_append before _, List.cons_ne_nil c blanks, ?_⟩
  simp only [parameter, reading, hdrop, htake, namesParameter_cons hc hblanks]
  rw [← firstWord, htype]
  rfl

/-! ### The search for a parameter -/

/-- No colon in front of a match has a word on both sides. -/
theorem declares_eq_false_of_misses {front names rest : List Char}
    (hmisses : parameter.Misses front (names ++ ':' :: rest)) (hnames : ':' ∉ names)
    {before after : List Char} (hparting : (before, after) ∈ partings ':' (front ++ names)) :
    (endsInWord before && beginsWithWord (after ++ ':' :: rest)) = false := by
  rw [Bool.eq_false_iff]
  intro hdeclares
  obtain ⟨hbefore, hafter⟩ := Bool.and_eq_true_iff.mp hdeclares
  rw [partings_append, partings_eq_nil hnames, List.map_nil, List.append_nil] at hparting
  obtain ⟨⟨before', later⟩, hlater, heq⟩ := List.mem_map.mp hparting
  obtain ⟨rfl, rfl⟩ := Prod.mk.inj heq
  obtain ⟨tail, htail, hne, hhit⟩ := exists_hit?_parameter hbefore hafter
  -- The match in front of this colon would begin within what is missed.
  have hfront := eq_of_mem_partings hlater
  have hsuffix : tail ++ ':' :: later <:+ front := by
    obtain ⟨start, rfl⟩ := htail
    rw [hfront, List.append_assoc]
    exact List.suffix_append start _
  have hnone := hmisses _ hsuffix (List.append_ne_nil_of_left_ne_nil hne _)
  rw [List.append_assoc, List.cons_append, ← List.append_assoc later] at hnone
  rw [hnone] at hhit
  cases hhit

/-- **The search for a parameter** reads what the piece declares. -/
theorem findFrom?_parameter (position : Nat) (piece : List Char) :
    (parameter.findFrom? position piece).map Capture.value = declaredType? piece := by
  cases hfind : parameter.findFrom? position piece with
  | none =>
    have hnone : (partings ':' piece).find?
        (fun (front, rest) => endsInWord front && beginsWithWord rest) = none := by
      rw [List.find?_eq_none]
      rintro ⟨front, rest⟩ hparting hdeclares
      obtain ⟨hfront, hrest⟩ := Bool.and_eq_true_iff.mp hdeclares
      obtain rfl := eq_of_mem_partings hparting
      obtain ⟨tail, ⟨before, rfl⟩, -, hhit⟩ := exists_hit?_parameter hfront hrest
      have hmiss := findFrom?_eq_none_iff.mp hfind (tail ++ ':' :: rest)
        (by rw [List.append_assoc]; exact List.suffix_append before _)
      rw [hmiss] at hhit
      cases hhit
    rw [declaredType?, hnone]
    rfl
  | some capture =>
    obtain ⟨front, matched, hit, rfl, hmisses, hhit, rfl⟩ := findFrom?_eq_some_iff.mp hfind
    obtain ⟨names, rest, rfl, hnames, hword, hrest, hgroups⟩ := hit?_parameter_cases hhit
    have hfirst : (partings ':' (front ++ (names ++ ':' :: rest))).find?
        (fun (front, rest) => endsInWord front && beginsWithWord rest) =
          some (front ++ names, rest) := by
      rw [← List.append_assoc, partings_append_cons, List.find?_append, List.find?_eq_none.mpr]
      · rw [Option.none_or, List.find?_cons_of_pos]
        exact Bool.and_eq_true_iff.mpr ⟨endsInWord_append_left front hword, hrest⟩
      · rintro _ hparting
        obtain ⟨⟨before, after⟩, hmem, rfl⟩ := List.mem_map.mp hparting
        rw [Bool.not_eq_true]
        exact declares_eq_false_of_misses hmisses hnames hmem
    rw [declaredType?, hfirst, Option.map_some, Option.map_some, Capture.value, captured, hgroups]
    rfl

/-- A colon is no blank. -/
theorem colon_notMem_blanks {blanks : List Char} (h : ∀ b ∈ blanks, isBlank b = true) :
    ':' ∉ blanks :=
  fun hmem => absurd (h ':' hmem) (by decide)

/-- Blanks around a piece declare nothing. -/
theorem declaredType?_blanks {front behind : List Char} (hfront : ∀ b ∈ front, isBlank b = true)
    (hbehind : ∀ b ∈ behind, isBlank b = true) (piece : List Char) :
    declaredType? (front ++ piece ++ behind) = declaredType? piece := by
  have hpartings : partings ':' (front ++ piece ++ behind) =
      (partings ':' piece).map (Prod.map (front ++ ·) (· ++ behind)) := by
    rw [partings_append, partings_append, partings_eq_nil (colon_notMem_blanks hfront),
      partings_eq_nil (colon_notMem_blanks hbehind)]
    simp [Function.comp_def, Prod.map]
  have hbegins : ∀ rest, beginsWithWord (rest ++ behind) = beginsWithWord rest := fun rest => by
    rw [beginsWithWord_eq, beginsWithWord_eq, firstWord_append_blanks hbehind]
  rw [declaredType?, declaredType?, hpartings, List.find?_map, Option.map_map]
  simp only [Function.comp_def, Prod.map, endsInWord_blanks_append hfront, hbegins,
    firstWord_append_blanks hbehind]

/-- **The type of a parameter** is what the piece declares. -/
theorem parameterType?_eq_declaredType? (piece : List Char) :
    parameterType? piece = declaredType? piece := by
  obtain ⟨behind, hbehind, hall⟩ := exists_dropEndWhile_append isBlank (piece.dropWhile isBlank)
  have hpiece : piece = piece.takeWhile isBlank ++ trim piece ++ behind := by
    rw [List.append_assoc, trim, trimBoth, hbehind, List.takeWhile_append_dropWhile]
  have htrim : declaredType? piece = declaredType? (trim piece) := by
    conv_lhs => rw [hpiece]
    exact declaredType?_blanks (fun _ => List.mem_takeWhile_imp) hall _
  rw [htrim, ← findFrom?_parameter 0, parameterType?]
  split
  · next hempty =>
    rw [List.isEmpty_iff.mp hempty]
    rfl
  · rfl

/-- A colon that is the first one, with a word on both sides, declares the word behind it. -/
theorem declaredType?_append_cons {front rest : List Char} (hcolon : ':' ∉ front)
    (hfront : endsInWord front = true) (hrest : beginsWithWord rest = true) :
    declaredType? (front ++ ':' :: rest) = some (String.ofList (firstWord rest)) := by
  rw [declaredType?, partings_append_cons, partings_eq_nil hcolon, List.map_nil, List.nil_append,
    List.find?_cons_of_pos]
  · rfl
  · exact Bool.and_eq_true_iff.mpr ⟨hfront, hrest⟩

/-- **A parameter as it is usually written** declares its type. -/
theorem declaredType?_of_isPlainParameter {piece type : List Char}
    (h : IsPlainParameter piece type) : declaredType? piece = some (String.ofList type) := by
  obtain ⟨visibility, hvisibility, readonly, hreadonly, name, b₀, b₁, b₂, b₃, b₄, b₅,
    ⟨hnameNe, hname⟩, ⟨htypeNe, htype⟩, hblanks, rfl⟩ := h
  simp only [List.forall_mem_cons, List.not_mem_nil, false_implies, implies_true, and_true]
    at hblanks
  obtain ⟨h₀, h₁, h₂, h₃, h₄, h₅⟩ := hblanks
  have hrest : firstWord (b₄ ++ type ++ b₅) = type := by
    obtain ⟨c, tail, rfl⟩ := List.exists_cons_of_ne_nil htypeNe
    have hc := isBlank_of_isWord (htype c List.mem_cons_self)
    rw [firstWord_append_blanks h₅, firstWord, trimStart, dropWhile_append_cons h₄ hc]
    exact List.takeWhile_eq_self_iff.mpr htype
  have hbegins : beginsWithWord (b₄ ++ type ++ b₅) = true := by
    rw [beginsWithWord_eq, hrest, List.isEmpty_eq_false_iff.mpr htypeNe]
    rfl
  have hmodifiers : ∀ word ∈ ["", "private", "public", "protected", "readonly"],
      ':' ∉ word.toList := by decide
  have hcolon : ':' ∉ b₀ ++ visibility.toList ++ b₁ ++ readonly.toList ++ b₂ ++ name ++ b₃ := by
    have hword : ':' ∉ name := fun hmem => absurd (hname ':' hmem) (by decide)
    simp only [List.mem_append, not_or]
    exact ⟨⟨⟨⟨⟨⟨colon_notMem_blanks h₀, hmodifiers _ (by grind)⟩, colon_notMem_blanks h₁⟩,
      hmodifiers _ (by grind)⟩, colon_notMem_blanks h₂⟩, hword⟩, colon_notMem_blanks h₃⟩
  rw [declaredType?_append_cons hcolon (endsInWord_append _ hnameNe hname h₃) hbegins, hrest]

/-! ### The parameter list -/

/-- The parameter list is what stands between the brackets. -/
theorem constructorList_eq_enclosed :
    constructorList = enclosed "constructor" "constructor(".toList ')' := rfl

/-- Without a closed parameter list nothing is declared. -/
theorem constructorDependencies_of_unclosed {text : String}
    (h : Unclosed "constructor(".toList ')' text.toList) : constructorDependencies text = [] := by
  have hnone : constructorList.find? text = none := by
    rw [constructorList_eq_enclosed, Pattern.find?, findFrom?_eq_none_iff]
    exact fun _ htail => h.hit?_eq_none "constructor" htail
  rw [constructorDependencies, hnone]

/-- The first parameter list is read piece by piece. -/
theorem constructorDependencies_of_firstBehind {text : String} {front mid after : List Char}
    (htext : text.toList = front ++ "constructor(".toList ++ mid ++ ')' :: after)
    (hfront : FirstBehind "constructor(".toList front) (hmid : ')' ∉ mid) :
    constructorDependencies text = (splitOn ',' mid).filterMap declaredType? := by
  rw [constructorDependencies, constructorList_eq_enclosed, Pattern.find?, htext,
    findFrom?_enclosed hfront hmid]
  simp only [Capture.value, List.head?_cons, Option.getD_some, String.toList_ofList]
  exact List.filterMap_congr fun piece _ => parameterType?_eq_declaredType? piece

/-- **What a constructor is given.** If a text does not hold `constructor(`, or no closing bracket
stands behind its first occurrence, nothing is declared. Otherwise the text between the first
`constructor(` and the first closing bracket behind it is cut at the commas, and every piece
declares, in order, the word behind its first colon that has a word on both sides, apart from
blanks; a piece without such a colon declares nothing. What stands before and behind the parameter
list does not matter. A piece that is a parameter as it is usually written declares its type. -/
theorem constructorDependencies_plain (text : String) :
    let opening := "constructor(".toList
    (¬opening <:+: text.toList → constructorDependencies text = []) ∧
    (∀ front rest, text.toList = front ++ opening ++ rest → FirstBehind opening front →
      (')' ∉ rest → constructorDependencies text = []) ∧
      ∀ mid after, rest = mid ++ ')' :: after → ')' ∉ mid →
        constructorDependencies text = (splitOn ',' mid).filterMap declaredType?) ∧
    ∀ piece type, IsPlainParameter piece type →
      declaredType? piece = some (String.ofList type) := by
  intro opening
  refine ⟨fun hnone => constructorDependencies_of_unclosed fun before after htext => ?_,
    fun front rest htext hfront => ⟨fun hrest => ?_, fun mid after hsplit hmid => ?_⟩,
    fun _ _ hplain => declaredType?_of_isPlainParameter hplain⟩
  · exact absurd ⟨before, after, htext.symm⟩ hnone
  · refine constructorDependencies_of_unclosed ?_
    rw [htext]
    exact unclosed_of_firstBehind hfront hrest
  · rw [hsplit, ← List.append_assoc] at htext
    exact constructorDependencies_of_firstBehind htext hfront hmid

/-- A text with a call that is no parameter list, a list with modifiers, a conditional, a type that
is no word and a line break, and a second list behind it. -/
theorem constructorDependencies_plain_desk :
    let front := "constructor (a: A); ".toList
    let mid := "private readonly cart : Cart, open ? readonly: Till<b>,\n x : <y>, z".toList
    let after := " \x7b\x7d constructor(y: Y)".toList
    let text := String.ofList (front ++ "constructor(".toList ++ mid ++ ')' :: after)
    FirstBehind "constructor(".toList front ∧ ')' ∉ mid ∧
      IsPlainParameter "private readonly cart : Cart".toList "Cart".toList ∧
      constructorDependencies text = ["Cart", "Till"] ∧
      declaredType? "private readonly cart : Cart".toList = some (String.ofList "Cart".toList) := by
  intro front mid after text
  have hfront : FirstBehind "constructor(".toList front := by decide +kernel
  have hmid : ')' ∉ mid := by decide +kernel
  have hplain : IsPlainParameter "private readonly cart : Cart".toList "Cart".toList := by
    have hspace : isBlank ' ' = true := by decide +kernel
    have hwords : ["cart", "Cart"].all (fun word => word.toList.all isWord) = true := by
      decide +kernel
    simp only [List.all_cons, List.all_nil, Bool.and_true, Bool.and_eq_true, List.all_eq_true]
      at hwords
    exact ⟨"private", by decide, "readonly", by decide, "cart".toList, [], [' '], [' '], [' '],
      [' '], [], ⟨by decide, hwords.1⟩, ⟨by decide, hwords.2⟩, by simp [hspace], by decide +kernel⟩
  obtain ⟨-, hlist, hpieces⟩ := constructorDependencies_plain text
  refine ⟨hfront, hmid, hplain, ?_, hpieces _ _ hplain⟩
  have htext : text.toList = front ++ "constructor(".toList ++ (mid ++ ')' :: after) := by
    rw [String.toList_ofList, List.append_assoc]
  rw [(hlist front _ htext hfront).2 mid after rfl hmid]
  decide +kernel

end SystemSketch.Recognition
