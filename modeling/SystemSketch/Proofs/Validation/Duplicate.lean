import SystemSketch.Proofs.Distinct
import SystemSketch.Proofs.Keyed
import SystemSketch.Proofs.Validation.Agreement

/-!
# Arrows that are drawn more than once

Interactions look the same in a drawing if their ends and their labels are the same, whatever their
lines are. Those that look the same as one before them are not reported one by one: there is one
issue for an arrow that is drawn several times, with the number of times. What the issues count
beyond one for each arrow is exactly what would be missed if every arrow were drawn once. All
arrows are counted in one pass.

## Main definitions

* `countArrow`, `countArrows` — one more arrow is counted, and the pass over all interactions.
* `Counts` — what a table holds when it has counted arrows.
* `timesDrawn` — how many interactions look like an arrow.
* `Tallies` — arrows with counts that account for the repetitions in a list of interactions.

## Main results

* `Counts.concat`, `counts_countArrows` — what is counted after one more arrow, and in the end.
* `duplicateEdges_eq_pass` — the issues are those about what the pass has counted more than once.
* `sum_map_eq_length_add` — a sum of positive numbers, parted into ones and what exceeds them.
* `tallies_repeated` — the arrows that occur more than once, with their counts.
* `duplicates_counted` — the issues about duplicate edges.
-/

namespace SystemSketch.Validation

/-! ### Counting in one pass -/

/-- The counts of arrows after one more of them. -/
def countArrow (counts : Table Arrow Nat) (a : Arrow) : Table Arrow Nat :=
  counts.set a ((counts.value? a).getD 0 + 1)

/-- The counts of the arrows of interactions, by one pass over them. -/
def countArrows (drawn : List Interaction) : Table Arrow Nat :=
  (drawn.map arrowOf).foldl countArrow {}

/-- A table **counts** arrows if it has an entry for each of them, in order of their first
occurrence, and the number of its occurrences. -/
structure Counts (as : List Arrow) (counts : Table Arrow Nat) : Prop where
  keys_eq : counts.keys = as.eraseDups
  value_eq : ∀ a, (counts.value? a).getD 0 = as.count a

/-- **One more arrow** is entered at the end if it is new, and its number grows by one. -/
theorem Counts.concat {as : List Arrow} {counts : Table Arrow Nat} (h : Counts as counts)
    (a : Arrow) : Counts (as ++ [a]) (countArrow counts a) where
  keys_eq := by
    rw [countArrow, Table.keys_set, h.keys_eq, eraseDups_concat]
    simp only [List.mem_eraseDups]
  value_eq b := by
    rw [countArrow, Table.value?_set, List.count_append, List.count_singleton]
    by_cases hb : b = a
    · rw [if_pos hb, hb, Option.getD_some, h.value_eq, beq_self_eq_true, if_pos rfl]
    · rw [if_neg hb, h.value_eq, beq_false_of_ne (Ne.symm hb), if_neg Bool.false_ne_true,
        Nat.add_zero]

/-- Several arrows are counted one after the other. -/
theorem Counts.foldl {as : List Arrow} {counts : Table Arrow Nat} (h : Counts as counts)
    (more : List Arrow) : Counts (as ++ more) (more.foldl countArrow counts) := by
  induction more generalizing as counts with
  | nil =>
    rw [List.append_nil]
    exact h
  | cons a more ih =>
    rw [List.append_cons]
    exact ih (h.concat a)

/-- **A whole pass** has counted all arrows. -/
theorem counts_countArrows (drawn : List Interaction) :
    Counts (drawn.map arrowOf) (countArrows drawn) := by
  have hstart : Counts [] {} := ⟨rfl, fun _ => rfl⟩
  exact hstart.foldl (drawn.map arrowOf)

/-- What is in a table that counts arrows. -/
theorem Counts.toList_eq {as : List Arrow} {counts : Table Arrow Nat} (h : Counts as counts) :
    counts.toList = as.eraseDups.map fun a => (a, as.count a) := by
  have hentries : ∀ entry ∈ counts.toList, (entry.1, as.count entry.1) = entry := by
    rintro ⟨a, n⟩ hentry
    rw [← h.value_eq a, Table.value?_eq_some_iff.mpr hentry]
    rfl
  rw [← h.keys_eq, Keyed.keys, List.map_map]
  exact ((List.map_congr_left hentries).trans (List.map_id _)).symm

/-- **The issues about duplicate edges** are those about the arrows that the pass has counted more
than once. -/
theorem duplicateEdges_eq_pass (m : Model) :
    duplicateEdges m = ((countArrows m.renderable).toList.filter fun entry => 1 < entry.2).map
      fun entry => .duplicate entry.1 entry.2 := by
  rw [(counts_countArrows m.renderable).toList_eq, List.filter_map, List.map_map]
  rfl

/-! ### More than one of a kind -/

/-- **Positive numbers** sum up to one for each of them and what exceeds one. -/
theorem sum_map_eq_length_add {α : Type} {f : α → Nat} {as : List α} (h : ∀ a ∈ as, 1 ≤ f a) :
    (as.map f).sum = as.length + ((as.filter fun a => 1 < f a).map fun a => f a - 1).sum := by
  induction as with
  | nil => rfl
  | cons a as ih =>
    obtain ⟨ha, has⟩ := List.forall_mem_cons.mp h
    rw [List.map_cons, List.sum_cons, ih has, List.length_cons, List.filter_cons]
    by_cases hmore : 1 < f a
    · rw [if_pos (decide_eq_true hmore), List.map_cons, List.sum_cons]
      omega
    · rw [if_neg (by simpa using hmore)]
      omega

/-! ### Arrows with their counts -/

/-- How many interactions look like an arrow: their ends and their labels are those of the arrow,
and how their lines are drawn does not matter. -/
def timesDrawn (drawn : List Interaction) (a : Arrow) : Nat :=
  drawn.countP fun i => i.source == a.source && i.target == a.target && i.label == a.label

/-- Arrows with counts **tally** a list of interactions if they are the arrows that occur at least
twice, each one once and with the number of its occurrences, in order of their first occurrence;
then the different arrows, and for each of these all occurrences but one, make up the list. -/
structure Tallies (drawn : List Interaction) (found : List (Arrow × Nat)) : Prop where
  ordered : found.Pairwise fun a b =>
    (drawn.map arrowOf).idxOf a.1 < (drawn.map arrowOf).idxOf b.1
  mem_iff : ∀ a n, (a, n) ∈ found ↔ n = timesDrawn drawn a ∧ 2 ≤ n
  total : (drawn.map arrowOf).toFinset.card + (found.map fun entry => entry.2 - 1).sum =
    drawn.length

/-- Interactions look like an arrow if it is theirs. -/
theorem count_arrowOf (drawn : List Interaction) (a : Arrow) :
    (drawn.map arrowOf).count a = timesDrawn drawn a := by
  obtain ⟨source, target, label⟩ := a
  rw [List.count, List.countP_map, timesDrawn]
  refine List.countP_congr fun i _ => ?_
  simp only [Function.comp_apply, arrowOf, beq_iff_eq, Arrow.mk.injEq, Bool.and_eq_true,
    and_assoc]

/-- **The arrows that are repeated**, each with its count, tally the interactions. -/
theorem tallies_repeated (drawn : List Interaction) :
    Tallies drawn
      (((drawn.map arrowOf).eraseDups.filter fun a => 1 < (drawn.map arrowOf).count a).map
        fun a => (a, (drawn.map arrowOf).count a)) where
  ordered := by
    rw [List.pairwise_map]
    exact (pairwise_idxOf_eraseDups _).filter _
  mem_iff a n := by
    rw [← count_arrowOf]
    constructor
    · intro hmem
      obtain ⟨b, hb, heq⟩ := List.mem_map.mp hmem
      obtain ⟨rfl, rfl⟩ := Prod.mk.inj heq
      exact ⟨rfl, of_decide_eq_true (List.mem_filter.mp hb).2⟩
    · rintro ⟨rfl, htwice⟩
      have hmem : a ∈ drawn.map arrowOf :=
        List.count_pos_iff.mp (Nat.lt_of_lt_of_le Nat.two_pos htwice)
      exact List.mem_map.mpr ⟨a, List.mem_filter.mpr
        ⟨List.mem_eraseDups.mpr hmem, decide_eq_true htwice⟩, rfl⟩
  total := by
    have hsum := sum_map_eq_length_add (f := fun a => (drawn.map arrowOf).count a)
      fun a ha => List.count_pos_iff.mpr (List.mem_eraseDups.mp ha)
    rw [sum_count_eraseDups, length_eraseDups, List.length_map] at hsum
    rw [List.map_map, hsum]
    rfl

/-! ### The issues -/

/-- **Duplicate edges are counted exactly.** The issues about duplicate edges, strict or not, are
one for each arrow that at least two drawn interactions look like, in order of the first of them,
and each states how many they are. If all that is counted beyond the first is taken from the number
of drawn interactions, the number of different arrows is left. -/
theorem duplicates_counted (m : Model) (strict : Bool) :
    let report := validate m strict
    let reported := report.issues.filter (·.code == "DUPLICATE_EDGE")
    ∃ found, Tallies m.renderable found ∧
      reported = found.map (fun entry => .duplicate entry.1 entry.2) ∧
      reported.map Issue.message = found.map (fun entry =>
        "Duplicate edge '" ++ entry.1.source ++ "' -> '" ++ entry.1.target ++ "' (" ++
          entry.1.label ++ ") appears " ++ toString entry.2 ++ " times") ∧
      report.stats.renderedInteractions - (found.map fun entry => entry.2 - 1).sum =
        (m.renderable.map arrowOf).toFinset.card := by
  have htallies := tallies_repeated m.renderable
  have hreported : (validate m strict).issues.filter (·.code == "DUPLICATE_EDGE") =
      duplicateEdges m := filter_code m _ (duplicateEdges m) (by simp [families])
  refine ⟨_, htallies, ?_, ?_, ?_⟩
  · rw [hreported, duplicateEdges, List.map_map]
    rfl
  · rw [hreported, duplicateEdges, List.map_map, List.map_map]
    rfl
  · exact Nat.sub_eq_of_eq_add htallies.total.symm

/-- An arrow is counted with both of its lines, and not where it leads to no component. -/
example :
    duplicateEdges (Model.empty.after
      ((["A", "B"].map fun id => .upsert { id := id, kind := .service, label := id }) ++
        [("A", "B", false), ("A", "C", false), ("A", "B", true), ("A", "C", false)].map
          fun (source, target, isAsync) =>
            .append { source := source, target := target, label := "uses", isAsync := isAsync })) =
      [.duplicate ⟨"A", "B", "uses"⟩ 2] := by
  decide +kernel

end SystemSketch.Validation
