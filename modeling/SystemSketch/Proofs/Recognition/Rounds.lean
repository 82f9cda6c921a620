import SystemSketch.Proofs.Recognition.Language

/-!
# Finding one match and finding all

To find all matches of a text is to find one, to go on behind it, and so on until nothing is found.
As no match is empty, each round searches a shorter text, so the rounds end. A round takes the
leftmost match, so whatever it passes over begins no match, and a place that begins one is either
where the round ends up or behind it.

## Main definitions

* `Pattern.Rounds` — searching again and again, round by round.

## Main results

* `Pattern.Rounds.unique` — the rounds have one outcome.
* `Pattern.Recognises.rounds_findAllFrom` — the rounds end, and all matches are found in them.
* `Pattern.Rounds.exists_hit`, `Pattern.Rounds.apart`, `Pattern.Rounds.covers` — what is found, in
  which order, and that nothing is left out.
* `Recognition.BuiltIn.findAll_agrees` — how finding one and finding all agree for the built-in
  patterns.
-/

namespace SystemSketch

namespace Pattern

variable {p : Pattern} {L : Language Char} {position : Nat} {text : List Char} {c : Capture}
  {found : List Capture}

/-- **Searching again and again**, round by round. The leftmost match is found, and the next round
searches what stands behind it; a round that finds nothing is the last one. -/
inductive Rounds (p : Pattern) : (position : Nat) → List Char → List Capture → Prop
  | last {position : Nat} {text : List Char} (h : p.findFrom? position text = none) :
      Rounds p position text []
  | next {position : Nat} {text : List Char} {c : Capture} {found : List Capture}
      (h : p.findFrom? position text = some c)
      (hrest : Rounds p (c.start + c.length) (text.drop (c.start + c.length - position)) found) :
      Rounds p position text (c :: found)

/-! ### One round -/

/-- **What a round does**: it passes over a front in which no match begins, and takes a match that
is not empty. -/
theorem Recognises.exists_of_findFrom? (hp : p.Recognises L)
    (h : p.findFrom? position text = some c) :
    ∃ front matched rest hit, text = front ++ (matched ++ rest) ∧
      p.Misses front (matched ++ rest) ∧ p.hit? (matched ++ rest) = some hit ∧
      c = p.captured (position + front.length) hit ∧ hit.length = matched.length ∧
      matched ≠ [] := by
  obtain ⟨front, tail, hit, rfl, hmisses, hhit, rfl⟩ := findFrom?_eq_some_iff.mp h
  obtain ⟨matched, rest, rfl, hmatched, hlength⟩ := hp.sound hhit
  exact ⟨front, matched, rest, hit, rfl, hmisses, hhit, rfl, hlength,
    fun hnil => hp.nil_notMem (hnil ▸ hmatched)⟩

/-- What stands behind a match is searched next. -/
theorem drop_captured {front matched : List Char} {hit : Hit} (rest : List Char)
    (hlength : hit.length = matched.length) :
    let c := p.captured (position + front.length) hit
    (front ++ (matched ++ rest)).drop (c.start + c.length - position) = rest := by
  intro c
  have hskip : c.start + c.length - position = (front ++ matched).length := by
    dsimp only [c, captured]
    rw [List.length_append]
    omega
  rw [hskip, ← List.append_assoc, List.drop_left]

/-! ### All rounds -/

/-- **The rounds have one outcome.** -/
theorem Rounds.unique {found' : List Capture} (h : p.Rounds position text found)
    (h' : p.Rounds position text found') : found' = found := by
  induction h generalizing found' with
  | last hnone =>
    cases h' with
    | last _ => rfl
    | next hsome _ =>
      rw [hnone] at hsome
      cases hsome
  | next hsome _ ih =>
    cases h' with
    | last hnone =>
      rw [hsome] at hnone
      cases hnone
    | next hsome' hrest' =>
      rw [hsome] at hsome'
      obtain rfl := Option.some.inj hsome'
      rw [ih hrest']

/-- **The rounds end**, and all matches are found in them. -/
theorem Recognises.rounds_findAllFrom (hp : p.Recognises L) (position : Nat) (text : List Char) :
    p.Rounds position text (p.findAllFrom position 0 text) := by
  -- What stands behind a match is shorter.
  induction hn : text.length using Nat.strong_induction_on generalizing position text with
  | _ n ih =>
    cases hround : p.findFrom? position text with
    | none =>
      rw [findAllFrom_eq_nil (findFrom?_eq_none_iff.mp hround)]
      exact .last hround
    | some c =>
      obtain ⟨front, matched, rest, hit, rfl, hmisses, hhit, rfl, hlength, hne⟩ :=
        hp.exists_of_findFrom? hround
      have hpos := List.length_pos_of_ne_nil hne
      rw [findAllFrom_append hmisses, findAllFrom_of_hit hhit hlength hne, ← hlength]
      refine .next hround ?_
      rw [drop_captured rest hlength]
      refine ih rest.length ?_ _ rest rfl
      rw [← hn, List.length_append, List.length_append]
      omega

namespace Rounds

/-- **The first round** finds the first of all matches. -/
theorem findFrom?_eq_head? (h : p.Rounds position text found) :
    p.findFrom? position text = found.head? := by
  cases h with
  | last hnone => exact hnone
  | next hsome _ => exact hsome

/-- **What is found** in some round is a match of the pattern. -/
theorem exists_hit (hp : p.Recognises L) (h : p.Rounds position text found) (hc : c ∈ found) :
    ∃ front rest hit, text = front ++ rest ∧ p.hit? rest = some hit ∧
      c = p.captured (position + front.length) hit := by
  induction h with
  | last _ => exact absurd hc List.not_mem_nil
  | next hround _ ih =>
    obtain ⟨front, matched, rest, hit, rfl, -, hhit, rfl, hlength, -⟩ :=
      hp.exists_of_findFrom? hround
    rcases List.mem_cons.mp hc with rfl | hlater
    · exact ⟨front, matched ++ rest, hit, rfl, hhit, rfl⟩
    · obtain ⟨front', rest', hit', hrest, hhit', rfl⟩ := ih hlater
      rw [drop_captured rest hlength] at hrest
      refine ⟨front ++ (matched ++ front'), rest', hit', ?_, hhit', ?_⟩
      · rw [hrest, List.append_assoc, List.append_assoc]
      · simp only [captured, List.length_append, hlength, Nat.add_assoc]

/-- A match is found where the text from its start on is hit. -/
theorem hit?_drop_start (hp : p.Recognises L) (h : p.Rounds 0 text found) (hc : c ∈ found) :
    ∃ hit, p.hit? (text.drop c.start) = some hit ∧ c = p.captured c.start hit := by
  obtain ⟨front, rest, hit, rfl, hhit, rfl⟩ := h.exists_hit hp hc
  have hstart : (p.captured (0 + front.length) hit).start = front.length := Nat.zero_add _
  rw [hstart, List.drop_left]
  exact ⟨hit, hhit, by rw [Nat.zero_add]⟩

/-- **Matches stand one behind the other.** -/
theorem apart (hp : p.Recognises L) (h : p.Rounds position text found) :
    found.Pairwise fun c d => c.start + c.length ≤ d.start := by
  induction h with
  | last _ => exact List.Pairwise.nil
  | next _ hrest ih =>
    refine List.pairwise_cons.mpr ⟨fun d hd => ?_, ih⟩
    obtain ⟨front, rest, hit, -, -, rfl⟩ := hrest.exists_hit hp hd
    exact Nat.le_add_right _ _

/-- A round takes at least one character, so there are no more matches than characters. -/
theorem length_le (hp : p.Recognises L) (h : p.Rounds position text found) :
    found.length ≤ text.length := by
  induction h with
  | last _ => exact Nat.zero_le _
  | next hround _ ih =>
    obtain ⟨front, matched, rest, hit, rfl, -, -, rfl, hlength, hne⟩ :=
      hp.exists_of_findFrom? hround
    have hpos := List.length_pos_of_ne_nil hne
    rw [drop_captured rest hlength] at ih
    simp only [List.length_cons, List.length_append]
    omega

/-- **Nothing is left out**: every place where a match begins lies in the span of a match that is
found. -/
theorem covers (hp : p.Recognises L) (h : p.Rounds position text found) {front rest : List Char}
    (htext : text = front ++ rest) (hhit : (p.hit? rest).isSome = true) :
    ∃ c ∈ found, c.start ≤ position + front.length ∧
      position + front.length < c.start + c.length := by
  induction h generalizing front with
  | last hnone =>
    rw [findFrom?_eq_none_iff.mp hnone rest ⟨front, htext.symm⟩] at hhit
    cases hhit
  | @next position text c found hround _ ih =>
    obtain ⟨before, matched, after, hit, rfl, hmisses, -, rfl, hlength, -⟩ :=
      hp.exists_of_findFrom? hround
    have hle := misses_iff.mp hmisses front rest htext hhit
    by_cases hinside : front.length < before.length + matched.length
    · refine ⟨_, List.mem_cons_self, ?_, ?_⟩
      · dsimp only [captured]
        omega
      · dsimp only [captured]
        omega
    · -- the place stands behind the match, and is found in a later round
      obtain ⟨between, rfl, hafter⟩ : ∃ between, front = before ++ matched ++ between ∧
          after = between ++ rest := by
        rw [← List.append_assoc] at htext
        rcases List.append_eq_append_iff.mp htext with ⟨between, hfront, hafter⟩ |
          ⟨tail, hbefore, hrest⟩
        · exact ⟨between, hfront, hafter⟩
        · have hshort := congrArg List.length hbefore
          simp only [List.length_append] at hshort
          obtain rfl : tail = [] := List.length_eq_zero_iff.mp (by omega)
          rw [List.append_nil] at hbefore
          exact ⟨[], by rw [List.append_nil, hbefore], hrest.symm⟩
      rw [drop_captured after hlength] at ih
      obtain ⟨d, hd, hstart, hend⟩ := ih hafter
      refine ⟨d, List.mem_cons_of_mem _ hd, ?_, ?_⟩
      · simp only [captured, List.length_append] at hstart ⊢
        omega
      · simp only [captured, List.length_append] at hend ⊢
        omega

end Rounds

end Pattern

namespace Recognition.BuiltIn

open Pattern

/-- A place where a word of the language begins lies within the text. -/
theorem lt_length_of_prefix {b : BuiltIn} {text matched : List Char} {n : Nat}
    (hmatched : matched ∈ b.language) (hbegins : matched <+: text.drop n) : n < text.length := by
  by_contra hle
  rw [List.drop_eq_nil_of_le (Nat.le_of_not_lt hle), List.prefix_nil] at hbegins
  exact b.recognises.nil_notMem (hbegins ▸ hmatched)

/-- **Finding one and finding all agree**, for every built-in pattern and every text. To find all
matches is to find one, to go on behind it, and so on until nothing is found; this ends, with no
more matches than the text has characters, and there is only one way in which it can go. Finding one
finds the first of all, and finds none exactly if there is none. The matches begin one behind the
other. Each match is what finding one finds in the text from its start on, and its span is the
longest beginning of that text in the language of the pattern. A place of the text where a word of
the language begins is the start of a match, or lies inside the span of an earlier one. -/
theorem findAll_agrees (b : BuiltIn) (text : String) :
    let p := b.pattern
    let found := p.findAll text
    (p.Rounds 0 text.toList found ∧ (∀ other, p.Rounds 0 text.toList other → other = found) ∧
      found.length ≤ text.toList.length) ∧
    (p.find? text = found.head? ∧ (p.find? text = none ↔ found = [])) ∧
    (found.Pairwise fun c d => c.start < d.start) ∧
    (∀ c ∈ found,
      let rest := text.toList.drop c.start
      p.find? (String.ofList rest) = some { c with start := 0 } ∧
        c.length ≤ rest.length ∧ rest.take c.length ∈ b.language ∧
        ∀ matched ∈ b.language, matched <+: rest → matched.length ≤ c.length) ∧
    ∀ n matched, matched ∈ b.language → matched <+: text.toList.drop n →
      ∃ c ∈ found, c.start = n ∨ (c.start < n ∧ n < c.start + c.length) := by
  intro p found
  have hp : p.Recognises b.language := b.recognises
  have hrounds : p.Rounds 0 text.toList found := hp.rounds_findAllFrom 0 text.toList
  have hfirst : p.find? text = found.head? := hrounds.findFrom?_eq_head?
  refine ⟨⟨hrounds, fun other hother => hrounds.unique hother, hrounds.length_le hp⟩,
    ⟨hfirst, by rw [hfirst, List.head?_eq_none_iff]⟩, ?_, fun c hc => ?_,
    fun n matched hmatched hbegins => ?_⟩
  · refine (hrounds.apart hp).imp_of_mem fun {c d} hc _ hle => ?_
    obtain ⟨hit, hhit, hcapture⟩ := hrounds.hit?_drop_start hp hc
    have hspan : c.length = hit.length := congrArg Capture.length hcapture
    have hpos := (hp.take_length hhit).2.1
    omega
  · obtain ⟨hit, hhit, hcapture⟩ := hrounds.hit?_drop_start hp hc
    have hspan : c.length = hit.length := congrArg Capture.length hcapture
    obtain ⟨htake, -, hle, hlongest⟩ := hp.take_length hhit
    refine ⟨?_, by rwa [hspan], by rwa [hspan], by rwa [hspan]⟩
    rw [find?, String.toList_ofList, findFrom?_of_hit hhit]
    conv_rhs => rw [hcapture]
    rfl
  · have hplace := lt_length_of_prefix hmatched hbegins
    have hhit : (p.hit? (text.toList.drop n)).isSome = true :=
      hp.isSome_hit?_iff.mpr ⟨matched, hmatched, hbegins⟩
    obtain ⟨c, hc, hstart, hend⟩ :=
      hrounds.covers hp (List.take_append_drop n text.toList).symm hhit
    rw [List.length_take_of_le (Nat.le_of_lt hplace), Nat.zero_add] at hstart hend
    exact ⟨c, hc, hstart.eq_or_lt.imp_right fun hlt => ⟨hlt, hend⟩⟩

/-- Calls with a character between them and without one, and calls within the path of a call. -/
def entangled : String :=
  "fetch(`$\x7ba.b*\x7d/api/x fetch(`$\x7ba.b*\x7d/api/y` + " ++
    "fetch(`$\x7ba.b*\x7d/api/`fetch(`$\x7ba.b*\x7d/api/z"

/-- The first call of the entangled text takes in the call at 21, which is covered by it alone; the
last one that is found is also the first one from its own place on. -/
theorem findAll_agrees_entangled :
    let p := (fetch "a.b*").pattern
    let outer : Capture := ⟨"fetch", ["x fetch("], 0, 28⟩
    let last : Capture := ⟨"fetch", [""], 45, 20⟩
    let inner := "fetch(`$\x7ba.b*\x7d/api/y`".toList
    p.findAll entangled = [outer, last] ∧ p.find? entangled = some outer ∧
      p.find? (String.ofList (entangled.toList.drop 45)) = some { last with start := 0 } ∧
      (inner ∈ (fetch "a.b*").language ∧ inner <+: entangled.toList.drop 21) ∧
      ∃ c ∈ p.findAll entangled, c.start = 21 ∨ (c.start < 21 ∧ 21 < c.start + c.length) := by
  intro p outer last inner
  have hfound : p.findAll entangled = [outer, last] := by decide +kernel
  have hbegins : inner <+: entangled.toList.drop 21 := by decide +kernel
  have hopening : "fetch(`$\x7ba.b*\x7d/api/".toList ++ ['y'] ++ ['\x60'] = inner := by decide
  have hpath : ['y'] ∈ anyOf (· != '\x60') :=
    List.forall_mem_singleton.mpr (by decide)
  have hinner : inner ∈ (fetch "a.b*").language :=
    ⟨_, ⟨_, rfl, ['y'], hpath, rfl⟩, ['\x60'], rfl, hopening⟩
  obtain ⟨-, ⟨hfirst, -⟩, -, hmatches, hplaces⟩ := findAll_agrees (fetch "a.b*") entangled
  have hlast : last ∈ p.findAll entangled := by rw [hfound]; simp
  exact ⟨hfound, by rw [hfirst, hfound]; rfl, (hmatches last hlast).1, ⟨hinner, hbegins⟩,
    hplaces 21 inner hinner hbegins⟩

end Recognition.BuiltIn

end SystemSketch
