import SystemSketch.Proofs.Recognition.Pattern
import SystemSketch.Recognition.Server

/-!
# The decorator of a controller

The decorator of a controller names a route in quotes, with blanks around it and nothing else. A
search tries its pattern at every place of a text, so decorators that are not finished, or that hold
something else than a route, are passed over, and so are quotes of the other kind inside a route.
What is found is the first decorator of this form, and the label of the class shows its route.

## Main definitions

* `Decorates` — a text begins with the decorator of a controller.
* `Decorated` — such a decorator stands somewhere in a text.
* `FirstDecorates` — the route of the first one.

## Main results

* `quotedBy?_eq_some_iff`, `readRoute?_eq_some_iff`, `readDecorator?_eq_some_iff` — what is read of
  a decorator, part by part.
* `controllerMark_eq_reading` — the pattern of controllers reads these parts.
* `Decorates.exists_hit?`, `exists_decorates` — the pattern hits exactly the decorators.
* `occursIn_controllerMark_iff`, `map_find?_controllerMark_eq_some_iff` — what a search for the
  pattern finds.
-/

namespace SystemSketch.Recognition

open Pattern Text

variable {quote : Char} {text route rest : List Char}

/-! ### A text in quotes -/

/-- **A text in quotes** is cut at the next quote of the same kind. -/
theorem quotedBy?_eq_some_iff :
    quotedBy? quote text = some (route, rest) ↔
      quote ∉ route ∧ text = quote :: (route ++ quote :: rest) := by
  constructor
  · intro h
    cases text with
    | nil => cases h
    | cons c text =>
      rw [quotedBy?] at h
      split at h
      · next hc =>
        obtain rfl := beq_iff_eq.mp hc
        split at h
        · cases h
        · next d after hdrop =>
          obtain ⟨rfl, rfl⟩ := Prod.mk.inj (Option.some.inj h)
          -- the run ends at a quote
          have hd : (d != c) = false := by
            have hnot := List.head?_dropWhile_not (· != c) text
            rw [hdrop] at hnot
            exact hnot
          obtain rfl : d = c := bne_eq_false_iff_eq.mp hd
          refine ⟨fun hmem => ?_, ?_⟩
          · have hrun := List.mem_takeWhile_imp hmem
            exact bne_iff_ne.mp hrun rfl
          · rw [← hdrop, List.takeWhile_append_dropWhile]
      · cases h
  · rintro ⟨hroute, rfl⟩
    have hquote : (quote != quote) = false := bne_self_eq_false quote
    rw [quotedBy?, if_pos (beq_self_eq_true quote)]
    simp only [dropWhile_append_cons (ne_closing hroute) hquote,
      takeWhile_append_cons (ne_closing hroute) hquote]

/-- Nothing is in quotes of a kind that a text does not begin with. -/
theorem quotedBy?_eq_none {c : Char} (h : c ≠ quote) : quotedBy? quote (c :: text) = none := by
  rw [quotedBy?, if_neg (by simpa using h)]

/-- A character that may stand around a route. -/
def IsQuote (c : Char) : Prop :=
  c = '\x27' ∨ c = '\x22'

/-- What a match names for a route between quotes of one kind: the route has the place of the kind,
and the other place is empty. -/
def routeGroups (quote : Char) (route : List Char) : List (List Char) :=
  if quote = '\x27' then [route, []] else [[], route]

/-- The part of a decorator that names the route. -/
def readRoute? (text : List Char) : Option (List (List Char) × List Char) :=
  match quotedBy? '\x27' text with
  | some (route, rest) => some ([route, []], rest)
  | none => (quotedBy? '\x22' text).map fun (route, rest) => ([[], route], rest)

/-- A route is read between two quotes of the same kind. -/
theorem readRoute?_eq_some_iff {groups : List (List Char)} :
    readRoute? text = some (groups, rest) ↔
      ∃ quote route, IsQuote quote ∧ quote ∉ route ∧ text = quote :: (route ++ quote :: rest) ∧
        groups = routeGroups quote route := by
  rw [readRoute?]
  constructor
  · intro h
    split at h
    · next route after hsingle =>
      obtain ⟨rfl, rfl⟩ := Prod.mk.inj (Option.some.inj h)
      obtain ⟨hroute, htext⟩ := quotedBy?_eq_some_iff.mp hsingle
      exact ⟨_, route, Or.inl rfl, hroute, htext, rfl⟩
    · obtain ⟨⟨route, after⟩, hdouble, heq⟩ := Option.map_eq_some_iff.mp h
      obtain ⟨rfl, rfl⟩ := Prod.mk.inj heq
      obtain ⟨hroute, htext⟩ := quotedBy?_eq_some_iff.mp hdouble
      exact ⟨_, route, Or.inr rfl, hroute, htext, rfl⟩
  · rintro ⟨quote, route, rfl | rfl, hroute, rfl, rfl⟩
    · rw [quotedBy?_eq_some_iff.mpr ⟨hroute, rfl⟩]
      rfl
    · rw [quotedBy?_eq_none (by decide), quotedBy?_eq_some_iff.mpr ⟨hroute, rfl⟩]
      rfl

/-! ### The decorator of a controller -/

/-- A text begins with **the decorator of a controller**: the opening, a route between two quotes of
the same kind, and the closing parenthesis. Blanks are free around the quotes. -/
def Decorates (route text : List Char) : Prop :=
  ∃ quote before after rest, IsQuote quote ∧ quote ∉ route ∧ (∀ c ∈ before, isBlank c = true) ∧
    (∀ c ∈ after, isBlank c = true) ∧
    text = "@Controller(".toList ++ before ++ quote :: route ++ quote :: after ++ ')' :: rest

/-- The front of a text is blank up to what is left of it without blanks. -/
theorem exists_trimStart (text : List Char) :
    ∃ blanks, (∀ c ∈ blanks, isBlank c = true) ∧ text = blanks ++ trimStart text :=
  ⟨text.takeWhile isBlank, fun _ hc => List.mem_takeWhile_imp hc,
    List.takeWhile_append_dropWhile.symm⟩

/-- Blanks are passed over up to a character that is none. -/
theorem trimStart_append_cons {blanks : List Char} {c : Char}
    (hblanks : ∀ d ∈ blanks, isBlank d = true) (hc : isBlank c = false) (rest : List Char) :
    trimStart (blanks ++ c :: rest) = c :: rest :=
  dropWhile_append_cons hblanks hc rest

/-- A decorator is read part by part. -/
def readDecorator? (text : List Char) : Option (List (List Char) × List Char) := do
  let inner ← after? "@Controller(".toList text
  let (groups, rest) ← readRoute? (trimStart inner)
  let rest ← after? ")".toList (trimStart rest)
  return (groups, rest)

/-- The pattern of controllers reads a decorator. -/
theorem controllerMark_eq_reading : controllerMark = .reading "controller" readDecorator? := by
  rw [controllerMark]
  congr 1
  funext text
  rw [readDecorator?]
  refine bind_congr fun inner => ?_
  -- The first definition goes on behind each kind of quotes on its own.
  dsimp only [readRoute?]
  cases quotedBy? '\x27' (trimStart inner) with
  | some found => rfl
  | none => rfl

/-- **What is read** is a decorator, and it names the route. -/
theorem readDecorator?_eq_some_iff {groups : List (List Char)} :
    readDecorator? text = some (groups, rest) ↔
      ∃ quote before route after, IsQuote quote ∧ quote ∉ route ∧
        (∀ c ∈ before, isBlank c = true) ∧ (∀ c ∈ after, isBlank c = true) ∧
        text = "@Controller(".toList ++ before ++ quote :: route ++ quote :: after ++ ')' :: rest ∧
        groups = routeGroups quote route := by
  simp only [List.append_assoc, List.cons_append]
  simp only [readDecorator?, Option.bind_eq_bind, Option.bind_eq_some_iff]
  constructor
  · rintro ⟨inner, hinner, ⟨found, behind⟩, hfound, last, hlast, heq⟩
    obtain ⟨rfl, rfl⟩ := Prod.mk.inj (Option.some.inj heq)
    obtain ⟨quote, route, hquote, hroute, htext, rfl⟩ := readRoute?_eq_some_iff.mp hfound
    obtain ⟨before, hbefore, hfront⟩ := exists_trimStart inner
    obtain ⟨after, hafter, hback⟩ := exists_trimStart behind
    rw [after?_eq_some_iff.mp hlast] at hback
    refine ⟨quote, before, route, after, hquote, hroute, hbefore, hafter, ?_, rfl⟩
    rw [after?_eq_some_iff.mp hinner, hfront, htext, hback]
    rfl
  · rintro ⟨quote, before, route, after, hquote, hroute, hbefore, hafter, rfl, rfl⟩
    have hblank : isBlank quote = false := by rcases hquote with rfl | rfl <;> decide
    have hclose : isBlank ')' = false := by decide
    refine
      ⟨_, after?_append _ _, (routeGroups quote route, after ++ ')' :: rest), ?_, rest, ?_, rfl⟩
    · rw [trimStart_append_cons hbefore hblank]
      exact readRoute?_eq_some_iff.mpr ⟨quote, route, hquote, hroute, rfl, rfl⟩
    · dsimp only
      rw [trimStart_append_cons hafter hclose]
      exact after?_append ")".toList rest

/-- A decorator at the front of a text is **hit**, and its route is named. -/
theorem Decorates.exists_hit? (h : Decorates route text) :
    ∃ quote hit, IsQuote quote ∧ controllerMark.hit? text = some hit ∧
      hit.groups = routeGroups quote route := by
  obtain ⟨quote, before, after, rest, hquote, hroute, hbefore, hafter, htext⟩ := h
  have hread : readDecorator? text = some (routeGroups quote route, rest) :=
    readDecorator?_eq_some_iff.mpr
      ⟨quote, before, route, after, hquote, hroute, hbefore, hafter, htext, rfl⟩
  refine ⟨quote, ⟨routeGroups quote route, text.length - rest.length⟩, hquote, ?_, rfl⟩
  rw [controllerMark_eq_reading, reading]
  dsimp only
  rw [hread]
  rfl

/-- **A hit** is a decorator, whose route is named. -/
theorem exists_decorates {hit : Hit} (h : controllerMark.hit? text = some hit) :
    ∃ quote route, IsQuote quote ∧ Decorates route text ∧ hit.groups = routeGroups quote route := by
  rw [controllerMark_eq_reading] at h
  obtain ⟨⟨groups, rest⟩, hread, rfl⟩ := Option.map_eq_some_iff.mp h
  obtain ⟨quote, before, route, after, hquote, hroute, hbefore, hafter, htext, rfl⟩ :=
    readDecorator?_eq_some_iff.mp hread
  exact ⟨quote, route, hquote, ⟨quote, before, after, rest, hquote, hroute, hbefore, hafter, htext⟩,
    rfl⟩

/-- The pattern of controllers hits exactly the decorators. -/
theorem isSome_hit?_controllerMark :
    (controllerMark.hit? text).isSome = true ↔ ∃ route, Decorates route text := by
  rw [Option.isSome_iff_exists]
  constructor
  · rintro ⟨hit, hhit⟩
    obtain ⟨-, route, -, hroute, -⟩ := exists_decorates hhit
    exact ⟨route, hroute⟩
  · rintro ⟨route, hroute⟩
    obtain ⟨-, hit, -, hhit, -⟩ := hroute.exists_hit?
    exact ⟨hit, hhit⟩

/-! ### The first decorator of a text -/

/-- A text is **decorated** if the decorator of a controller stands somewhere in it. -/
def Decorated (text : List Char) : Prop :=
  ∃ front tail route, text = front ++ tail ∧ Decorates route tail

/-- **The first decorator** of a text names the route: no other decorator begins in front of it. -/
def FirstDecorates (route text : List Char) : Prop :=
  ∃ front tail, text = front ++ tail ∧ Decorates route tail ∧
    ∀ before after other, text = before ++ after → Decorates other after →
      front.length ≤ before.length

/-- The label of a controller shows the route of its decorator. -/
theorem controllerLabel_captured {quote : Char} {hit : Hit} (hquote : IsQuote quote)
    (h : hit.groups = routeGroups quote route) (className : String) (position : Nat) :
    controllerLabel className (controllerMark.captured position hit) =
      className ++ "<br><small>" ++ apiRoute (String.ofList route) ++ "</small>" := by
  have hnamed : ((hit.groups.map String.ofList).find? fun group => !group.isEmpty).getD "" =
      String.ofList route := by
    rw [h]
    cases route with
    | nil => rcases hquote with rfl | rfl <;> rfl
    | cons c route => rcases hquote with rfl | rfl <;> simp [routeGroups]
  rw [controllerLabel, captured]
  dsimp only
  rw [hnamed]

/-- **The first decorator** of a text is the one that is found. -/
theorem map_find?_controllerMark_eq_some_iff {className label text : String} :
    (controllerMark.find? text).map (controllerLabel className) = some label ↔
      ∃ route, FirstDecorates route text.toList ∧
        label = className ++ "<br><small>" ++ apiRoute (String.ofList route) ++ "</small>" := by
  rw [Option.map_eq_some_iff, find?]
  constructor
  · rintro ⟨capture, hfound, rfl⟩
    obtain ⟨front, tail, hit, htext, hmisses, hhit, rfl⟩ := findFrom?_eq_some_iff.mp hfound
    obtain ⟨quote, route, hquote, hroute, hgroups⟩ := exists_decorates hhit
    refine ⟨route, ⟨front, tail, htext, hroute, fun before after other hother hdecorates => ?_⟩,
      controllerLabel_captured hquote hgroups className _⟩
    exact misses_iff.mp hmisses before after (htext ▸ hother)
      (isSome_hit?_controllerMark.mpr ⟨other, hdecorates⟩)
  · rintro ⟨route, ⟨front, tail, htext, hroute, hfirst⟩, rfl⟩
    obtain ⟨quote, hit, hquote, hhit, hgroups⟩ := hroute.exists_hit?
    have hmisses : controllerMark.Misses front tail :=
      misses_iff.mpr fun before after hother hsome => by
        obtain ⟨other, hdecorates⟩ := isSome_hit?_controllerMark.mp hsome
        exact hfirst before after other (htext.trans hother) hdecorates
    exact ⟨_, findFrom?_eq_some_iff.mpr ⟨front, tail, hit, htext, hmisses, hhit, rfl⟩,
      controllerLabel_captured hquote hgroups className _⟩

/-- **A decorator is found** exactly if the text is decorated. -/
theorem occursIn_controllerMark_iff {text : String} :
    controllerMark.occursIn text = true ↔ Decorated text.toList := by
  rw [Pattern.occursIn_iff]
  constructor
  · rintro ⟨front, tail, htext, hhit⟩
    obtain ⟨route, hroute⟩ := isSome_hit?_controllerMark.mp hhit
    exact ⟨front, tail, route, htext, hroute⟩
  · rintro ⟨front, tail, route, htext, hroute⟩
    exact ⟨front, tail, htext, isSome_hit?_controllerMark.mpr ⟨route, hroute⟩⟩

/-- A text that is not decorated holds no match. -/
theorem find?_controllerMark_eq_none {text : String} (h : ¬Decorated text.toList) :
    controllerMark.find? text = none := by
  rw [← occursIn_controllerMark_iff, Pattern.occursIn] at h
  exact Option.not_isSome_iff_eq_none.mp h

end SystemSketch.Recognition
