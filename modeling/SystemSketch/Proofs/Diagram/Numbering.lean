import Mathlib.Data.Finset.Card
import SystemSketch.Proofs.Diagram.NodeId

/-!
# The numbers behind node ids

An identifier that has no id yet asks for its safe id. If that one is used, the numbers from 2 on
are tried behind it, one after the other. The ids that are tried differ, so each used id is met at
most once: the search ends, and what it finds has the least number that is free.

## Main definitions

* `Searches` — the search for an unused id, try by try, with the number of ids that it passes over.

## Main results

* `Searches.unique` — a search finds one id, after one number of tries.
* `exists_searches` — the search ends, and finds the first id that is free.
* `le_card_used` — each used id is passed over at most once.
* `NodeIds.request_searches` — what asking for a new id does.
-/

namespace SystemSketch.Diagram

variable {used : List String} {base candidate found : String} {number tries : Nat}

/-- **The search for an unused id**, try by try. A candidate that is unused is found; one that is
used is passed over, and the next candidate is the base with the next number behind it. -/
inductive Searches (used : List String) (base : String) :
    (candidate : String) → (number tries : Nat) → (found : String) → Prop
  | found {candidate : String} {number : Nat} (h : candidate ∉ used) :
      Searches used base candidate number 0 candidate
  | pass {candidate found : String} {number tries : Nat} (h : candidate ∈ used)
      (hrest : Searches used base (numbered base (number + 1)) (number + 1) tries found) :
      Searches used base candidate number (tries + 1) found

namespace Searches

/-- **A search finds one id**, after one number of tries. -/
theorem unique {tries' : Nat} {found' : String}
    (h : Searches used base candidate number tries found)
    (h' : Searches used base candidate number tries' found') : tries' = tries ∧ found' = found := by
  induction h generalizing tries' found' with
  | found hunused =>
    cases h' with
    | found _ => exact ⟨rfl, rfl⟩
    | pass hused _ => exact absurd hused hunused
  | pass hused _ ih =>
    cases h' with
    | found hunused => exact absurd hused hunused
    | pass _ hrest =>
      obtain ⟨rfl, rfl⟩ := ih hrest
      exact ⟨rfl, rfl⟩

/-- A search through numbers that are used ends at the first one that is not. -/
theorem of_used {more : Nat} (hused : ∀ j < more, numbered base (number + j) ∈ used)
    (hunused : numbered base (number + more) ∉ used) :
    Searches used base (numbered base number) number more (numbered base (number + more)) := by
  induction more generalizing number with
  | zero => exact .found hunused
  | succ more ih =>
    have hnext : ∀ j, number + 1 + j = number + (j + 1) := fun j => by omega
    refine .pass (hused 0 (Nat.zero_lt_succ more)) ?_
    rw [← hnext more] at hunused ⊢
    refine ih (fun j hj => ?_) hunused
    rw [hnext]
    exact hused (j + 1) (Nat.succ_lt_succ hj)

end Searches

/-- A number behind a name makes it longer. -/
theorem numbered_ne (base : String) (k : Nat) : numbered base k ≠ base := by
  intro h
  have hlength := congrArg (fun text => text.toList.length) h
  simp only [toList_numbered, List.length_append, List.length_cons] at hlength
  omega

/-- **Each used id is passed over once.** If the base and its numbers from 2 to `k` are used, there
are at least `k` used ids. -/
theorem le_card_used {k : Nat} (hbase : base ∈ used)
    (hused : ∀ j, 2 ≤ j → j ≤ k → numbered base j ∈ used) : k ≤ used.toFinset.card := by
  have hnumbers : ((List.range' 2 (k - 1)).map (numbered base)).Nodup :=
    (List.nodup_range' 1 Nat.one_pos).map (numbered_injective base)
  have hnodup : (base :: (List.range' 2 (k - 1)).map (numbered base)).Nodup := by
    refine List.nodup_cons.mpr ⟨fun hmem => ?_, hnumbers⟩
    obtain ⟨j, -, hj⟩ := List.mem_map.mp hmem
    exact numbered_ne base j hj
  have hsubset : base :: (List.range' 2 (k - 1)).map (numbered base) ⊆ used := by
    refine List.cons_subset.mpr ⟨hbase, fun id hid => ?_⟩
    obtain ⟨j, hj, rfl⟩ := List.mem_map.mp hid
    obtain ⟨hlow, hhigh⟩ := List.mem_range'_1.mp hj
    exact hused j hlow (by omega)
  have hcard : _ ≤ used.toFinset.card :=
    Finset.card_le_card fun id hid => List.mem_toFinset.mpr (hsubset (List.mem_toFinset.mp hid))
  rw [List.toFinset_card_of_nodup hnodup, List.length_cons, List.length_map,
    List.length_range'] at hcard
  omega

/-- **The search ends**: after no more tries than there are used ids, it has found the first id
that is free. -/
theorem exists_searches (used : List String) (base : String) :
    ∃ tries ≤ used.toFinset.card, Searches used base base 1 tries (firstUnused used base) := by
  rcases firstUnused_cases used base with ⟨hbase, heq⟩ | ⟨hbase, k, hk, hunused, hused, heq⟩
  · rw [heq]
    exact ⟨0, Nat.zero_le _, .found hbase⟩
  · obtain ⟨more, rfl⟩ := Nat.exists_eq_add_of_le hk
    refine ⟨more + 1, le_card_used hbase fun j hj hle => hused j hj (by omega), .pass hbase ?_⟩
    rw [heq]
    exact .of_used (fun j hj => hused (2 + j) (by omega) (by omega)) hunused

namespace NodeIds

/-- **The search for a new id ends and is minimal.** Whatever ids are given and used, an identifier
without one is given its safe id, or else its safe id with the least number from 2 on behind it that
is unused. The search for it passes over at most as many ids as are used, and it can only find this
one. The id becomes a used one, and the identifier gets it; no other id becomes used, and all other
identifiers keep theirs. -/
theorem request_searches (ids : NodeIds) (identifier : String)
    (hnew : ids.assigned.value? identifier = none) :
    let base := safeId identifier
    let given := ids.request identifier
    (∃ tries ≤ ids.used.toFinset.card, Searches ids.used base base 1 tries given.1) ∧
    (∀ tries found, Searches ids.used base base 1 tries found → found = given.1) ∧
    (if base ∈ ids.used then
      ∃ k, 2 ≤ k ∧ given.1 = base ++ "_" ++ toString k ∧
        ∀ j, 2 ≤ j → j < k → base ++ "_" ++ toString j ∈ ids.used
    else given.1 = base) ∧
    given.1 ∉ ids.used ∧ given.2.used = ids.used ++ [given.1] ∧
    given.2.assigned.toList = ids.assigned.toList ++ [(identifier, given.1)] := by
  intro base given
  have hgiven : given = (firstUnused ids.used base,
      ⟨ids.assigned.set identifier (firstUnused ids.used base),
        ids.used ++ [firstUnused ids.used base]⟩) := by
    dsimp only [given]
    rw [request, hnew]
  rw [hgiven]
  obtain ⟨tries, htries, hsearches⟩ := exists_searches ids.used base
  refine ⟨⟨tries, htries, hsearches⟩, fun tries' found h => (hsearches.unique h).2, ?_,
    firstUnused_notMem ids.used base, rfl, ?_⟩
  · rcases firstUnused_cases ids.used base with ⟨hbase, heq⟩ | ⟨hbase, k, hk, -, hused, heq⟩
    · rwa [if_neg hbase]
    · rw [if_pos hbase]
      exact ⟨k, hk, heq, hused⟩
  · exact Keyed.toList_insert_of_notMem (Table.value?_eq_none_iff.mp hnew)

/-- A safe id that is reserved, with a number behind it that is reserved, and one that another
identifier was given: the next number is free. -/
theorem request_searches_numbered :
    let ids : NodeIds := ((reserving ["A", "A_3"]).requestAll ["A!", "A_5"]).2
    ids.used = ["A", "A_3", "A_2", "A_5"] ∧ ids.assigned.value? "A" = none ∧
      (∃ tries ≤ ids.used.toFinset.card, Searches ids.used "A" "A" 1 tries "A_4") ∧
      (ids.request "A").2.used = ids.used ++ ["A_4"] ∧
      (ids.request "A").2.assigned.toList = ids.assigned.toList ++ [("A", "A_4")] := by
  intro ids
  have hnew : ids.assigned.value? "A" = none := by decide +kernel
  have hbase : safeId "A" = "A" := by decide +kernel
  have hid : (ids.request "A").1 = "A_4" := by decide +kernel
  obtain ⟨hends, -, -, -, hused, hassigned⟩ := request_searches ids "A" hnew
  rw [hbase, hid] at hends
  rw [hid] at hused hassigned
  exact ⟨by decide +kernel, hnew, hends, hused, hassigned⟩

end NodeIds

end SystemSketch.Diagram
