import SystemSketch.Command.Arguments
import SystemSketch.Proofs.Failure

/-!
# One more flag

A flag is an option without a value. Whatever stands before and behind it, a flag that is added
between the options of a command line switches its option on and changes nothing else.

## Main definitions

* `Opt.IsFlag` — the flags.
* `AddsFlag` — whether a command line is another one with one more flag.

## Main results

* `AddsFlag.read` — what a command line with one more flag asks for.
* `exists_read_of_addsFlag_strict` — a strict run differs from any other one in nothing else.
-/

namespace SystemSketch.Command

/-- Whether an option is a flag. -/
def Opt.IsFlag (option : Opt) : Prop :=
  option ≠ .help ∧ option.takesValue = false

/-- Whether `flagged` are the same arguments with one more, which is a flag that stands between
two options. -/
def AddsFlag (settings : Settings) (flag : Opt) (arguments flagged : List String) : Prop :=
  ∃ front argument rest options,
    Request.read settings front = .ok (.draw options) ∧
      Word.recognize argument = .ok (.option flag none) ∧
      arguments = front ++ rest ∧ flagged = front ++ argument :: rest

/-- A request with an option switched on. -/
def Request.switch (flag : Opt) : Request → Request
  | .help => .help
  | .draw options => .draw (options.switch flag)

variable {settings : Settings} {options options' : Options} {flag : Opt} {unused : List String}
  {words : List (String × Word)} {argument : String} {front rest arguments flagged : List String}

/-! ### Taking up words -/

theorem Options.switch_set (options : Options) (value : String) (flag option : Opt) :
    (options.switch flag).set value option = (options.set value option).switch flag := by
  cases flag <;> cases option <;> rfl

theorem Options.switch_switch (options : Options) (flag option : Opt) :
    (options.switch flag).switch option = (options.switch option).switch flag := by
  cases flag <;> cases option <;> rfl

/-- Only help is asked for by the short form of its option. -/
theorem readShortHelp_eq_help {request : Request} {text : List Char}
    (h : readShortHelp text = .ok request) : request = .help := by
  fun_induction readShortHelp text with
  | case1 => exact (Except.ok.inj h).symm
  | case2 rest hrest ih => exact ih h
  | case3 => cases h

/-- It does not matter to the words behind whether a flag is switched on. -/
theorem take_switch (flag : Opt) (options : Options) (unused : List String)
    (words : List (String × Word)) :
    take (options.switch flag) unused words =
      (take options unused words).map (Request.switch flag) := by
  fun_induction take options unused words with
  | case1 options unused h => simp [take, h, Except.map, Request.switch]
  | case2 options unused h => simp [take, h, Except.map]
  | case3 options unused argument words ih => rw [take, ih]
  | case4 options unused argument words ih => rw [take, ih]
  | case5 options unused argument rest words =>
    rw [take]
    cases h : readShortHelp rest with
    | error e => rfl
    | ok request => rw [readShortHelp_eq_help h]; rfl
  | case6 options unused argument option value words h ih =>
    rw [take, if_pos h, Options.switch_set, ih]
  | case7 options unused argument option value words h => rw [take, if_neg h]; rfl
  | case8 options unused argument option words h =>
    rw [take.eq_def]
    simp [h, Except.map, Request.switch]
  | case9 options unused argument option h hvalue value words ih =>
    rw [take.eq_def]
    simp [h, hvalue, Options.switch_set, ih]
  | case10 options unused argument option words h hvalue hwords =>
    rw [take.eq_def]
    simp only [h, hvalue, if_true, if_false, Bool.false_eq_true]
    rfl
  | case11 options unused argument option words h hvalue ih =>
    rw [take.eq_def]
    simp only [h, hvalue, if_false, Bool.false_eq_true]
    rw [Options.switch_switch, ih]

/-- Where everything is taken up, everything belongs to an option. -/
theorem take_eq_draw (h : take options unused words = .ok (.draw options')) :
    unused = [] ∧ ∀ word ∈ words, word.2 ≠ .foreign := by
  fun_induction take options unused words with
  | case1 options unused hempty => simpa using hempty
  | case2 options unused hempty => cases h
  | case3 options unused argument words ih => exact absurd (ih h).1 (by simp)
  | case4 options unused argument words ih => exact absurd (ih h).1 (by simp)
  | case5 options unused argument rest words => cases readShortHelp_eq_help h
  | case6 options unused argument option value words hvalue ih => simpa using ih h
  | case7 options unused argument option value words hvalue => cases h
  | case8 options unused argument option words hhelp => cases h
  | case9 options unused argument option hhelp hvalue value words ih => simpa using ih h
  | case10 options unused argument option words hhelp hvalue hwords => cases h
  | case11 options unused argument option words hhelp hvalue ih => simpa using ih h

/-- **Words are taken up one after the other**, if those before are all taken up. -/
theorem take_append (h : take options unused words = .ok (.draw options'))
    (behind : List (String × Word)) :
    take options unused (words ++ behind) = take options' [] behind := by
  fun_induction take options unused words with
  | case1 options unused hempty =>
    obtain rfl := List.isEmpty_iff.mp hempty
    cases h
    rfl
  | case2 options unused hempty => cases h
  | case3 options unused argument words ih => rw [List.cons_append, take, ih h]
  | case4 options unused argument words ih => rw [List.cons_append, take, ih h]
  | case5 options unused argument rest words => cases readShortHelp_eq_help h
  | case6 options unused argument option value words hvalue ih =>
    rw [List.cons_append, take, if_pos hvalue, ih h]
  | case7 options unused argument option value words hvalue => cases h
  | case8 options unused argument option words hhelp => cases h
  | case9 options unused argument option hhelp hvalue value words ih =>
    rw [List.cons_append, take.eq_def]
    simp [hhelp, hvalue, ih h]
  | case10 options unused argument option words hhelp hvalue hwords => cases h
  | case11 options unused argument option words hhelp hvalue ih =>
    rw [List.cons_append, take.eq_def]
    simp [hhelp, hvalue, ih h]

/-! ### Recognising arguments -/

/-- Arguments are recognised one after the other, until two dashes end the options. -/
theorem recognizeAll_append (h : recognizeAll front = .ok words)
    (hforeign : ∀ word ∈ words, word.2 ≠ .foreign) (rest : List String) :
    recognizeAll (front ++ rest) = (recognizeAll rest).map (words ++ ·) := by
  induction front generalizing words with
  | nil =>
    cases h
    cases hrest : recognizeAll rest <;> simp [hrest, Except.map]
  | cons argument front ih =>
    rw [recognizeAll] at h
    split at h
    · cases h
      exact absurd rfl (hforeign _ List.mem_cons_self)
    · next hdashes =>
      rw [bind_eq_ok_iff] at h
      obtain ⟨word, hword, h⟩ := h
      rw [bind_eq_ok_iff] at h
      obtain ⟨others, hothers, h⟩ := h
      cases h
      have hbehind := ih hothers fun w hw => hforeign w (List.mem_cons_of_mem _ hw)
      rw [List.cons_append, recognizeAll, if_neg hdashes, hword, hbehind]
      cases recognizeAll rest <;> rfl

/-- What is asked for by arguments that stand behind others, which all belong to options. -/
theorem read_append (h : Request.read settings front = .ok (.draw options)) (rest : List String) :
    Request.read settings (front ++ rest) = (recognizeAll rest).bind (take options []) := by
  rw [Request.read, bind_eq_ok_iff] at h
  obtain ⟨words, hwords, htake⟩ := h
  obtain ⟨-, hforeign⟩ := take_eq_draw htake
  rw [Request.read, recognizeAll_append hwords hforeign]
  cases recognizeAll rest with
  | error e => rfl
  | ok behind => exact take_append htake behind

/-- An argument for an option is recognised before those behind it. -/
theorem recognizeAll_flag (h : Word.recognize argument = .ok (.option flag none))
    (rest : List String) :
    recognizeAll (argument :: rest) =
      (recognizeAll rest).map ((argument, .option flag none) :: ·) := by
  have hdashes : argument ≠ "--" := by
    rintro rfl
    cases h
  rw [recognizeAll, if_neg (by simpa using hdashes), h]
  cases recognizeAll rest <;> rfl

/-- **One more flag** switches its option on, and nothing else is changed by it. -/
theorem AddsFlag.read (h : AddsFlag settings flag arguments flagged) (hflag : flag.IsFlag) :
    Request.read settings flagged =
      (Request.read settings arguments).map (Request.switch flag) := by
  obtain ⟨front, argument, rest, options, hfront, hargument, rfl, rfl⟩ := h
  rw [read_append hfront, read_append hfront, recognizeAll_flag hargument]
  cases recognizeAll rest with
  | error e => rfl
  | ok words =>
    have htake : take options [] ((argument, .option flag none) :: words) =
        take (options.switch flag) [] words := by
      rw [take.eq_def]
      simp [hflag.1, hflag.2]
    exact htake.trans (take_switch flag options [] words)

/-- Arguments with or without one more `--strict` ask for the same drawing. -/
theorem exists_read_of_addsFlag_strict (h : Request.read settings arguments = .ok (.draw options))
    (hadds : AddsFlag settings .strict arguments flagged ∨
      AddsFlag settings .strict flagged arguments) :
    ∃ strict, Request.read settings flagged = .ok (.draw { options with strict := strict }) := by
  have hflag : Opt.strict.IsFlag := ⟨by decide, rfl⟩
  rcases hadds with hadds | hadds
  · refine ⟨true, ?_⟩
    rw [hadds.read hflag, h]
    rfl
  · have hread := hadds.read hflag
    rw [h] at hread
    cases hbefore : Request.read settings flagged with
    | error e => rw [hbefore] at hread; cases hread
    | ok request =>
      rw [hbefore] at hread
      cases request with
      | help => cases hread
      | draw before => cases hread; exact ⟨before.strict, rfl⟩

end SystemSketch.Command
