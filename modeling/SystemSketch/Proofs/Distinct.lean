import Mathlib.Algebra.BigOperators.Group.Finset.Basic
import Mathlib.Algebra.GroupWithZero.Nat
import Mathlib.Data.List.Sort

/-!
# Elements that differ

A list without its repetitions has each element at its first place. A list of texts that differ is
in strictly increasing order once it is sorted, so it is determined by which texts are in it.

## Main results

* `eraseDups_concat` — what one more element adds.
* `pairwise_idxOf_eraseDups`, `nodup_eraseDups` — without repetitions, elements stand in order of
  their first place, each of them once.
* `sum_count_eraseDups` — the counts of the different elements make up the list.
* `pairwise_mergeSort` — texts that differ are strictly increasing once they are sorted.
-/

namespace SystemSketch

/-! ### Without repetitions -/

section

variable {α : Type} [DecidableEq α]

/-- A known element adds nothing, a new one goes to the end. -/
theorem eraseDups_concat (as : List α) (a : α) :
    (as ++ [a]).eraseDups = if a ∈ as then as.eraseDups else as.eraseDups ++ [a] := by
  rw [List.eraseDups_append]
  by_cases h : a ∈ as <;> simp [List.removeAll, h, List.eraseDups_cons]

/-- **Without repetitions**, elements stand in order of their first place. -/
theorem pairwise_idxOf_eraseDups (as : List α) :
    as.eraseDups.Pairwise fun a b => as.idxOf a < as.idxOf b := by
  induction as using List.reverseRecOn with
  | nil => exact .nil
  | append_singleton as a ih =>
    -- the places of the elements before the last one do not change
    have hbefore : as.eraseDups.Pairwise fun b c => (as ++ [a]).idxOf b < (as ++ [a]).idxOf c := by
      refine ih.imp_of_mem fun hb hc hlt => ?_
      rw [List.mem_eraseDups] at hb hc
      rwa [List.idxOf_append_of_mem hb, List.idxOf_append_of_mem hc]
    rw [eraseDups_concat]
    split
    · exact hbefore
    · next hnew =>
      refine List.pairwise_append.mpr ⟨hbefore, List.pairwise_singleton _ _, fun b hb c hc => ?_⟩
      obtain rfl := List.mem_singleton.mp hc
      rw [List.mem_eraseDups] at hb
      rw [List.idxOf_append_of_mem hb, List.idxOf_append_of_notMem hnew, List.idxOf_cons_self]
      exact Nat.lt_add_right 0 (List.idxOf_lt_length_of_mem hb)

/-- No element is left twice. -/
theorem nodup_eraseDups (as : List α) : as.eraseDups.Nodup := by
  refine (pairwise_idxOf_eraseDups as).imp fun {a b} hlt => ?_
  rintro rfl
  exact lt_irrefl _ hlt

/-- The different elements are as many as are left without repetitions. -/
theorem length_eraseDups (as : List α) : as.eraseDups.length = as.toFinset.card := by
  rw [← List.toFinset_card_of_nodup (nodup_eraseDups as)]
  congr 1
  ext a
  rw [List.mem_toFinset, List.mem_toFinset, List.mem_eraseDups]

/-- All elements are counted under one of the different elements. -/
theorem sum_count_eraseDups (as : List α) :
    (as.eraseDups.map fun a => as.count a).sum = as.length := by
  have hperm : as.eraseDups.Perm as.dedup := by
    refine (List.perm_ext_iff_of_nodup (nodup_eraseDups as) as.nodup_dedup).mpr fun a => ?_
    rw [List.mem_eraseDups, List.mem_dedup]
  rw [(hperm.map _).sum_eq, List.sum_map_count_dedup_eq_length]

end

/-! ### In order -/

/-- Texts that differ are in strictly increasing order once they are sorted. -/
theorem pairwise_mergeSort {texts : List String} (h : texts.Nodup) :
    (texts.mergeSort fun a b => !(b < a : Bool)).Pairwise (· < ·) := by
  have hsorted : (texts.mergeSort fun a b => !(b < a : Bool)).Pairwise
      fun a b => (!(b < a : Bool)) = true := by
    refine List.pairwise_mergeSort (fun a b c hab hbc => ?_) (fun a b => ?_) texts
    · simp only [Bool.not_eq_true', decide_eq_false_iff_not, String.not_lt] at hab hbc ⊢
      exact String.le_trans hab hbc
    · simp only [Bool.or_eq_true, Bool.not_eq_true', decide_eq_false_iff_not, String.not_lt]
      exact String.le_total a b
  refine (hsorted.and (List.nodup_mergeSort.mpr h)).imp fun ⟨hle, hne⟩ => ?_
  simp only [Bool.not_eq_true', decide_eq_false_iff_not, String.not_lt] at hle
  exact Std.lt_of_le_of_ne hle hne

end SystemSketch
