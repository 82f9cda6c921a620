import Mathlib.Data.List.Forall2
import SystemSketch.Proofs.Recognition.Pattern
import SystemSketch.Recognition.Client

/-!
# Which endpoints a page fetches

A fetched template begins with the address of the server and `/api/`, and ends with the next
backtick. Whatever the variable of the address is, a text is cut at its fetched templates from left
to right: an endpoint is what stands between the opening and the backtick, the search goes on
behind the backtick, and the last part of the text has no backtick behind an opening. The routes
that the page asks for are the first segments of the endpoints, in the same order.

## Main definitions

* `IsFirstSegment` — the longest beginning of an endpoint without `/`, `?` and `#`.

## Main results

* `isFirstSegment_endpointRoot` — the root of an endpoint is its first segment.
* `endpointRoots_exact` — every text can be cut at its fetched templates, and the endpoint roots of
  the text are the first segments of what is cut out.
-/

namespace SystemSketch.Recognition

open Pattern Text

/-- The **first segment** of an endpoint: the longest of its beginnings without `/`, `?`, `#`. -/
def IsFirstSegment (endpoint segment : List Char) : Prop :=
  segment <+: endpoint ∧ (∀ c ∈ segment, c ∉ ['/', '?', '#']) ∧
    ∀ other, other <+: endpoint → (∀ c ∈ other, c ∉ ['/', '?', '#']) → other <+: segment

/-- A character ends a segment exactly if it is one of the three marks. -/
theorem endsSegment_eq_false_iff {c : Char} : endsSegment c = false ↔ c ∉ ['/', '?', '#'] := by
  simp [endsSegment, and_assoc]

/-- **The root of an endpoint** is its first segment. -/
theorem isFirstSegment_endpointRoot (endpoint : List Char) :
    IsFirstSegment endpoint (endpointRoot (String.ofList endpoint)).toList := by
  rw [endpointRoot, String.toList_ofList, String.toList_ofList]
  refine ⟨List.takeWhile_prefix _, fun c hc => ?_, fun other hother hmarks => ?_⟩
  · have hsegment := List.mem_takeWhile_imp hc
    rw [Bool.not_eq_true'] at hsegment
    exact endsSegment_eq_false_iff.mp hsegment
  · refine prefix_takeWhile hother fun c hc => ?_
    rw [endsSegment_eq_false_iff.mpr (hmarks c hc)]
    rfl

/-- A fetched template is what stands between the opening and the next backtick. -/
theorem fetchCall_eq_enclosed (baseVariable : String) :
    fetchCall baseVariable = enclosed "fetch" (fetchOpening baseVariable).toList '\x60' := rfl

/-- The endpoint roots of a text are those of what is cut out of it. -/
theorem endpointRoots_of_cut {baseVariable text : String} {endpoints : List (List Char)}
    (h : Cut (fetchOpening baseVariable).toList '\x60' text.toList endpoints) :
    endpointRoots baseVariable text =
      endpoints.map fun endpoint => endpointRoot (String.ofList endpoint) := by
  have hroots : endpointRoots baseVariable text =
      (((fetchCall baseVariable).findAllFrom 0 0 text.toList).map Capture.value).map
        endpointRoot := by
    rw [List.map_map]
    rfl
  rw [hroots, fetchCall_eq_enclosed, h.findAllFrom, List.map_map]
  rfl

/-- **The endpoints of a text.** For every name of the variable that holds the address of the
server, a text can be cut at the templates that it fetches: what stands between the opening and the
next backtick, where the opening is taken at its first occurrence and the rest of the text behind
the backtick is cut in the same way. However it is cut, the endpoint roots of the text are the
first segments of the endpoints that are cut out, one for each of them and in their order. -/
theorem endpointRoots_exact (baseVariable text : String) :
    let opening := ("fetch(`$\x7b" ++ baseVariable ++ "\x7d/api/").toList
    (∃ endpoints, Cut opening '\x60' text.toList endpoints) ∧
      ∀ endpoints, Cut opening '\x60' text.toList endpoints →
        List.Forall₂ IsFirstSegment endpoints
          ((endpointRoots baseVariable text).map String.toList) := by
  intro opening
  refine ⟨exists_cut opening '\x60' text.toList, fun endpoints h => ?_⟩
  rw [endpointRoots_of_cut h, List.map_map, List.forall₂_map_right_iff, List.forall₂_same]
  exact fun endpoint _ => isFirstSegment_endpointRoot endpoint

/-- A text with a template that follows an unfinished word, one whose endpoint holds the opening and
a line break, one without a segment, and one that is not closed. The address is held by a variable
with an odd name. -/
theorem endpointRoots_exact_scrawl :
    let text := "fetch(fetch(`$\x7ba.b*\x7d/api/orders/7?all` + fetch(`$\x7ba.b*\x7d/api/fetch(" ++
      "\n#x` fetch(`$\x7ba.b*\x7d/api//` fetch(`$\x7ba.b*\x7d/api/open"
    Cut ("fetch(`$\x7ba.b*\x7d/api/").toList '\x60' text.toList
        ["orders/7?all".toList, "fetch(\n#x".toList, "/".toList] ∧
      List.Forall₂ IsFirstSegment ["orders/7?all".toList, "fetch(\n#x".toList, "/".toList]
        ((endpointRoots "a.b*" text).map String.toList) := by
  intro text
  let opening := "fetch(`$\x7ba.b*\x7d/api/".toList
  have hopen : Cut opening '\x60' (" ".toList ++ opening ++ "open".toList) [] :=
    .rest (by decide +kernel)
  have hslash := @Cut.inner opening '\x60' " ".toList "/".toList _ _ (by decide +kernel) (by decide)
    hopen
  have hnested := @Cut.inner opening '\x60' " + ".toList "fetch(\n#x".toList _ _ (by decide +kernel)
    (by decide) hslash
  have hcut := @Cut.inner opening '\x60' "fetch(".toList "orders/7?all".toList _ _
    (by decide +kernel) (by decide) hnested
  have htext : text.toList = "fetch(".toList ++ opening ++ "orders/7?all".toList ++ '\x60' ::
      (" + ".toList ++ opening ++ "fetch(\n#x".toList ++ '\x60' :: (" ".toList ++ opening ++
        "/".toList ++ '\x60' :: (" ".toList ++ opening ++ "open".toList))) := by decide +kernel
  rw [← htext] at hcut
  exact ⟨hcut, (endpointRoots_exact "a.b*" text).2 _ hcut⟩

end SystemSketch.Recognition
